import Boltz.Async.Machine

/-!
# A rely logic for asynchronous programs

`wp p t Q h`: when task `t` runs `p` from the history `h`, and between its steps the other
tasks change it only as `Rely t` says, then each of its own admitted steps keeps `Inv`, changes
the history for every other task `u` only as `Rely u` says, and `Q` holds where `p` ends. The
soundness theorem turns one `wp` per outside event into an invariant of every run.
-/

namespace Boltz.Async

structure Logic (L S Ω : Type) where
  allow : L → Nat → Hist L S Ω → Ω → Bool
  Inv : Hist L S Ω → Prop
  Rely : Nat → Hist L S Ω → Hist L S Ω → Prop
  refl : ∀ t h, Rely t h h
  trans : ∀ {t h₁ h₂ h₃}, Rely t h₁ h₂ → Rely t h₂ h₃ → Rely t h₁ h₃

variable {Entry L S Ω ε α β : Type}

namespace Logic

/-- What a step of task `t` owes to the invariant and to the other tasks. -/
def Step (𝓛 : Logic L S Ω) (t : Nat) (h h' : Hist L S Ω) : Prop :=
  𝓛.Inv h' ∧ ∀ u, u ≠ t → 𝓛.Rely u h h'

/-- Postconditions: how the program ended and where. -/
abbrev Post (L S Ω ε α : Type) := Except ε α → Hist L S Ω → Prop

def wp (𝓛 : Logic L S Ω) : {α : Type} → Prog L S Ω ε α → Nat → Post L S Ω ε α →
    Hist L S Ω → Prop
  | _, .pure a, _, Q, h => Q (.ok a) h
  | _, .throw e, _, Q, h => Q (.error e) h
  | _, .act a k, t, Q, h => ∀ h₁, 𝓛.Rely t h h₁ → 𝓛.Inv h₁ → ∀ ω b s,
      𝓛.allow a.label t h₁ ω = true → a.run t h₁.world ω = some (b, s) →
        𝓛.Step t h₁ (h₁.record t a.label ω s) ∧ 𝓛.wp (k b) t Q (h₁.record t a.label ω s)
  | _, .fork c k, t, Q, h => ∀ h₁, 𝓛.Rely t h h₁ → 𝓛.Inv h₁ →
      (∀ u, u ≠ t → 𝓛.wp c u (fun _ _ => True) h₁) ∧ 𝓛.wp k t Q h₁

/-- The postcondition that asks for nothing. -/
abbrev top : Post L S Ω ε α := fun _ _ => True

/-- `p` may run as a task of its own from every history of the invariant. -/
def Safe (𝓛 : Logic L S Ω) (p : Prog L S Ω ε α) : Prop := ∀ t h, 𝓛.Inv h → 𝓛.wp p t top h

variable {𝓛 : Logic L S Ω} {t : Nat} {h h' : Hist L S Ω} {Q Q' : Post L S Ω ε α}

/-! ## Rules -/

theorem wp_mono {m : Prog L S Ω ε α} (hm : 𝓛.wp m t Q h) (hQ : ∀ r h, Q r h → Q' r h) :
    𝓛.wp m t Q' h := by
  induction m generalizing h with
  | pure a => exact hQ _ _ hm
  | throw e => exact hQ _ _ hm
  | act a k ih =>
    intro h₁ hr hi ω b s ha he
    obtain ⟨hs, hk⟩ := hm h₁ hr hi ω b s ha he
    exact ⟨hs, ih b hk hQ⟩
  | fork c k _ ih =>
    intro h₁ hr hi
    obtain ⟨hc, hk⟩ := hm h₁ hr hi
    exact ⟨hc, ih hk hQ⟩

/-- What holds after `m` when it is followed by `f`. -/
def andThen (𝓛 : Logic L S Ω) (t : Nat) (f : α → Prog L S Ω ε β) (Q : Post L S Ω ε β) :
    Post L S Ω ε α
  | .ok a, h => 𝓛.wp (f a) t Q h
  | .error e, h => Q (.error e) h

@[simp] theorem andThen_ok (f : α → Prog L S Ω ε β) (Q : Post L S Ω ε β) (a : α) :
    𝓛.andThen t f Q (.ok a) h = 𝓛.wp (f a) t Q h := rfl

@[simp] theorem andThen_error (f : α → Prog L S Ω ε β) (Q : Post L S Ω ε β) (e : ε) :
    𝓛.andThen t f Q (.error e) h = Q (.error e) h := rfl

@[simp] theorem wp_bind (m : Prog L S Ω ε α) (f : α → Prog L S Ω ε β) (Q : Post L S Ω ε β) :
    𝓛.wp (m >>= f) t Q h ↔ 𝓛.wp m t (𝓛.andThen t f Q) h := by
  change 𝓛.wp (m.bind f) t Q h ↔ _
  induction m generalizing h with
  | pure a => rfl
  | throw e => rfl
  | act a k ih => simp only [Prog.bind, wp, ih]
  | fork c k _ ih => simp only [Prog.bind, wp, ih]

@[simp] theorem wp_pure (a : α) : 𝓛.wp (.pure a : Prog L S Ω ε α) t Q h ↔ Q (.ok a) h := Iff.rfl

@[simp] theorem wp_throw (e : ε) : 𝓛.wp (.throw e : Prog L S Ω ε α) t Q h ↔ Q (.error e) h :=
  Iff.rfl

@[simp] theorem wp_attempt (m : Prog L S Ω ε α) (Q : Post L S Ω ε (Except ε α)) :
    𝓛.wp m.attempt t Q h ↔ 𝓛.wp m t (fun r h => Q (.ok r) h) h := by
  induction m generalizing h with
  | pure a => rfl
  | throw e => rfl
  | act a k ih => simp only [Prog.attempt, wp, ih]
  | fork c k _ ih => simp only [Prog.attempt, wp, ih]

@[simp] theorem wp_ofExcept (r : Except ε α) :
    𝓛.wp (Prog.ofExcept r : Prog L S Ω ε α) t Q h ↔ Q r h := by
  cases r <;> rfl

theorem wp_when {Q : Post L S Ω ε Unit} (c : Bool) (m : Prog L S Ω ε Unit) :
    𝓛.wp (Prog.when c m) t Q h ↔ if c then 𝓛.wp m t Q h else Q (.ok ()) h := by
  cases c <;> rfl

/-- What holds after `m` when its errors go to `handler`. -/
def orCatch (𝓛 : Logic L S Ω) (t : Nat) (handler : ε → Prog L S Ω ε α) (Q : Post L S Ω ε α) :
    Post L S Ω ε α
  | .ok a, h => Q (.ok a) h
  | .error e, h => 𝓛.wp (handler e) t Q h

@[simp] theorem orCatch_ok (handler : ε → Prog L S Ω ε α) (a : α) :
    𝓛.orCatch t handler Q (.ok a) h = Q (.ok a) h := rfl

@[simp] theorem orCatch_error (handler : ε → Prog L S Ω ε α) (e : ε) :
    𝓛.orCatch t handler Q (.error e) h = 𝓛.wp (handler e) t Q h := rfl

@[simp] theorem wp_catching (m : Prog L S Ω ε α) (handler : ε → Prog L S Ω ε α) :
    𝓛.wp (m.catching handler) t Q h ↔ 𝓛.wp m t (𝓛.orCatch t handler Q) h := by
  unfold Prog.catching
  rw [wp_bind, wp_attempt]
  constructor <;> refine fun hm => wp_mono hm fun r h hr => ?_ <;> cases r <;> exact hr

@[simp] theorem wp_finally (m : Prog L S Ω ε α) (fin : Prog L S Ω ε Unit) :
    𝓛.wp (m.finally_ fin) t Q h ↔
      𝓛.wp m t (fun r h => 𝓛.wp fin t (𝓛.andThen t (fun _ => Prog.ofExcept r) Q) h) h := by
  unfold Prog.finally_
  simp only [wp_bind, wp_attempt]
  constructor <;> exact fun hm => wp_mono hm fun r h hr => by simpa using hr

theorem wp_call (a : Act L S Ω α) :
    𝓛.wp (Prog.call a : Prog L S Ω ε α) t Q h ↔ ∀ h₁, 𝓛.Rely t h h₁ → 𝓛.Inv h₁ →
      ∀ ω b s, 𝓛.allow a.label t h₁ ω = true → a.run t h₁.world ω = some (b, s) →
        𝓛.Step t h₁ (h₁.record t a.label ω s) ∧ Q (.ok b) (h₁.record t a.label ω s) := Iff.rfl

theorem wp_spawn {child : Prog L S Ω ε Unit} {Q : Post L S Ω ε Unit} (hc : 𝓛.Safe child)
    (hQ : ∀ h₁, 𝓛.Rely t h h₁ → 𝓛.Inv h₁ → Q (.ok ()) h₁) :
    𝓛.wp (Prog.spawn child) t Q h :=
  fun h₁ hr hi => ⟨fun u _ => hc u h₁ hi, hQ h₁ hr hi⟩

/-! ## Framing -/

/-- A step `a` of task `t` taken where `A` holds keeps what it owes, and leaves `A` true. -/
def Keeps (𝓛 : Logic L S Ω) (t : Nat) (A : Hist L S Ω → Prop) (a : Act L S Ω β) : Prop :=
  ∀ h ω b s, 𝓛.Inv h → A h → 𝓛.allow a.label t h ω = true → a.run t h.world ω = some (b, s) →
    𝓛.Step t h (h.record t a.label ω s) ∧ A (h.record t a.label ω s)

/-- `A` is not disturbed by the tasks other than `t`. -/
def Stable (𝓛 : Logic L S Ω) (t : Nat) (A : Hist L S Ω → Prop) : Prop :=
  ∀ h h', 𝓛.Rely t h h' → 𝓛.Inv h' → A h → A h'

theorem wp_of_uses {A : Hist L S Ω → Prop} (stable : 𝓛.Stable t A) {m : Prog L S Ω ε α}
    (hm : m.Uses (fun a => 𝓛.Keeps t A a) (fun c => 𝓛.Safe c)) (hA : A h) :
    𝓛.wp m t (fun _ h' => A h') h := by
  induction m generalizing h with
  | pure a => exact hA
  | throw e => exact hA
  | act a k ih =>
    intro h₁ hr hi ω b s ha he
    obtain ⟨hst, hA'⟩ := hm.1 h₁ ω b s hi (stable h h₁ hr hi hA) ha he
    exact ⟨hst, ih b (hm.2 b) hA'⟩
  | fork c k _ ih =>
    intro h₁ hr hi
    exact ⟨fun u _ => hm.1 u h₁ hi, ih hm.2 (stable h h₁ hr hi hA)⟩

/-- An act that every task may take at any time. -/
def Free (𝓛 : Logic L S Ω) (a : Act L S Ω β) : Prop :=
  ∀ t h ω b s, 𝓛.Inv h → 𝓛.allow a.label t h ω = true → a.run t h.world ω = some (b, s) →
    𝓛.Step t h (h.record t a.label ω s)

theorem safe_of_uses {m : Prog L S Ω ε α} (hm : m.Uses (fun a => 𝓛.Free a) fun c => 𝓛.Safe c) :
    𝓛.Safe m := by
  intro t h _
  have hkeeps : m.Uses (fun a => 𝓛.Keeps t (fun _ => True) a) fun c => 𝓛.Safe c :=
    hm.mono (fun a ha h ω b s hi _ hallow he => ⟨ha t h ω b s hi hallow he, trivial⟩)
      fun c hc => hc
  exact wp_of_uses (fun _ _ _ _ _ => trivial) hkeeps trivial

/-! ## Safe programs -/

/-- The invariant holds where a program ends. -/
theorem wp_inv {m : Prog L S Ω ε α} (hi : 𝓛.Inv h) (hm : 𝓛.wp m t Q h) :
    𝓛.wp m t (fun r h' => Q r h' ∧ 𝓛.Inv h') h := by
  induction m generalizing h with
  | pure a => exact ⟨hm, hi⟩
  | throw e => exact ⟨hm, hi⟩
  | act a k ih =>
    intro h₁ hr hi₁ ω b s ha he
    obtain ⟨hst, hk⟩ := hm h₁ hr hi₁ ω b s ha he
    exact ⟨hst, ih b hst.1 hk⟩
  | fork c k _ ih =>
    intro h₁ hr hi₁
    obtain ⟨hc, hk⟩ := hm h₁ hr hi₁
    exact ⟨hc, ih hi₁ hk⟩

theorem Safe.pure (a : α) : 𝓛.Safe (.pure a : Prog L S Ω ε α) := fun _ _ _ => trivial

theorem Safe.bind {m : Prog L S Ω ε α} {f : α → Prog L S Ω ε β} (hm : 𝓛.Safe m)
    (hf : ∀ a, 𝓛.Safe (f a)) : 𝓛.Safe (m >>= f) := by
  intro t h hi
  rw [wp_bind]
  refine wp_mono (wp_inv hi (hm t h hi)) fun r h' hr => ?_
  cases r with
  | ok a => exact hf a t h' hr.2
  | error e => trivial

theorem Safe.when {m : Prog L S Ω ε Unit} (c : Bool) (hm : 𝓛.Safe m) :
    𝓛.Safe (Prog.when c m) := by
  cases c
  · exact Safe.pure ()
  · exact hm

theorem Safe.forEach {xs : List α} {f : α → Prog L S Ω ε Unit} (hf : ∀ x, 𝓛.Safe (f x)) :
    𝓛.Safe (Prog.forEach xs f) := by
  induction xs with
  | nil => exact Safe.pure ()
  | cons x xs ih => exact (hf x).bind fun _ => ih

theorem Safe.finally_ {m : Prog L S Ω ε α} {fin : Prog L S Ω ε Unit} (hm : 𝓛.Safe m)
    (hfin : 𝓛.Safe fin) : 𝓛.Safe (m.finally_ fin) := by
  intro t h hi
  rw [wp_finally]
  refine wp_mono (wp_inv hi (hm t h hi)) fun r h' hr => ?_
  refine wp_mono (hfin t h' hr.2) fun r' h'' _ => ?_
  cases r' with
  | ok _ =>
    rw [andThen_ok, wp_ofExcept]
    trivial
  | error _ => trivial

theorem Safe.spawn {child : Prog L S Ω ε Unit} (hc : 𝓛.Safe child) :
    𝓛.Safe (Prog.spawn child) :=
  fun _ _ _ => wp_spawn hc fun _ _ _ => trivial

theorem Safe.call {a : Act L S Ω α} (ha : 𝓛.Free a) : 𝓛.Safe (Prog.call a : Prog L S Ω ε α) :=
  fun t _ _ h₁ _ hi₁ ω b s hallow he => ⟨ha t h₁ ω b s hi₁ hallow he, trivial⟩

/-- A free act, followed by a program that may use what its result says about the state. -/
theorem Safe.act_bind {a : Act L S Ω α} {f : α → Prog L S Ω ε β} (ha : 𝓛.Free a)
    (hf : ∀ t h ω b s, 𝓛.Inv h → 𝓛.allow a.label t h ω = true →
      a.run t h.world ω = some (b, s) → 𝓛.Safe (f b)) : 𝓛.Safe (Prog.call a >>= f) := by
  intro t h _ h₁ _ hi₁ ω b s hallow he
  have hst := ha t h₁ ω b s hi₁ hallow he
  exact ⟨hst, hf t h₁ ω b s hi₁ hallow he t _ hst.1⟩

/-! ## Soundness -/

theorem wp_top_rely {m : Prog L S Ω ε α} (hr : 𝓛.Rely t h h') (hm : 𝓛.wp m t top h) :
    𝓛.wp m t top h' := by
  cases m with
  | pure a => trivial
  | throw e => trivial
  | act a k => exact fun h₁ hr' => hm h₁ (𝓛.trans hr hr')
  | fork c k => exact fun h₁ hr' => hm h₁ (𝓛.trans hr hr')

/-- The invariant holds and every task may go on. -/
structure Sound (𝓛 : Logic L S Ω) (c : Config L S Ω ε) : Prop where
  inv : 𝓛.Inv c.toHist
  tasks : ∀ i p, c.tasks[i]? = some p → 𝓛.wp p i top c.toHist

/-- A configuration after task `i` moved on to `k`. -/
theorem Sound.set {c : Config L S Ω ε} (hc : 𝓛.Sound c) {i : Nat} {k : Prog L S Ω ε Unit}
    (hst : 𝓛.Step i c.toHist h') (hk : 𝓛.wp k i top h') : 𝓛.Sound ⟨h', c.tasks.set i k⟩ := by
  refine ⟨hst.1, fun j p hp => ?_⟩
  by_cases hj : i = j
  · subst hj
    rw [List.getElem?_set_self'] at hp
    obtain ⟨_, _, rfl⟩ := Option.map_eq_some_iff.mp hp
    exact hk
  · rw [List.getElem?_set_ne hj] at hp
    exact wp_top_rely (hst.2 j (Ne.symm hj)) (hc.tasks j p hp)

theorem Sound.append {c : Config L S Ω ε} (hc : 𝓛.Sound c) {p : Prog L S Ω ε Unit}
    (hp : 𝓛.wp p c.tasks.length top c.toHist) : 𝓛.Sound ⟨c.toHist, c.tasks ++ [p]⟩ := by
  refine ⟨hc.inv, fun j q hq => ?_⟩
  rcases Nat.lt_trichotomy j c.tasks.length with hj | rfl | hj
  · rw [List.getElem?_append_left hj] at hq
    exact hc.tasks j q hq
  · rw [List.getElem?_concat_length] at hq
    cases hq
    exact hp
  · rw [List.getElem?_eq_none (by simp; omega)] at hq
    cases hq

variable {P : Policy Entry L S Ω} {start : Entry → Prog L S Ω ε Unit}

theorem Sound.advance {c c' : Config L S Ω ε} {i : Nat} {ω : Ω} (hP : P.allow = 𝓛.allow)
    (hc : 𝓛.Sound c) (hn : advance P i ω c = some c') : 𝓛.Sound c' := by
  unfold Async.advance at hn
  split at hn
  · rename_i a k hi
    split at hn
    · rename_i ha
      obtain ⟨⟨b, w⟩, hr, rfl⟩ := Option.map_eq_some_iff.mp hn
      obtain ⟨hst, hk⟩ := hc.tasks i _ hi c.toHist (𝓛.refl i _) hc.inv ω b w (hP ▸ ha) hr
      exact hc.set hst hk
    · cases hn
  · rename_i child k hi
    cases hn
    obtain ⟨hchild, hk⟩ := hc.tasks i _ hi c.toHist (𝓛.refl i _) hc.inv
    have hset := hc.set (k := k) ⟨hc.inv, fun u _ => 𝓛.refl u _⟩ hk
    have hlt : i < c.tasks.length := (List.getElem?_eq_some_iff.mp hi).1
    exact hset.append (hchild _ (by simp; omega))
  · cases hn

theorem Sound.run {c c' : Config L S Ω ε} {ms : List (Move Entry Ω)} (hP : P.allow = 𝓛.allow)
    (hstart : ∀ e, P.spawn e = true → 𝓛.Safe (start e)) (hc : 𝓛.Sound c)
    (hr : run P start ms c = some c') : 𝓛.Sound c' := by
  induction ms generalizing c with
  | nil => cases hr; exact hc
  | cons m ms ih =>
    obtain ⟨c₁, hn, hr⟩ := Option.bind_eq_some_iff.mp hr
    refine ih ?_ hr
    cases m with
    | spawn e =>
      simp only [next] at hn
      split at hn
      · rename_i he
        cases hn
        exact hc.append (hstart e he _ _ hc.inv)
      · cases hn
    | step i ω => exact hc.advance hP hn

/-- Every history that an admitted run reaches satisfies the invariant. -/
theorem inv_of_reaches {s : S} (hP : P.allow = 𝓛.allow)
    (hstart : ∀ e, P.spawn e = true → 𝓛.Safe (start e)) (h₀ : 𝓛.Inv ⟨s, []⟩)
    (hr : Reaches P start s h) : 𝓛.Inv h := by
  obtain ⟨ms, c, hr, rfl⟩ := hr
  have h0 : 𝓛.Sound (ε := ε) (boot s) := ⟨h₀, fun i p hp => by simp [boot] at hp⟩
  exact (Sound.run hP hstart h0 hr).inv

end Logic

end Boltz.Async

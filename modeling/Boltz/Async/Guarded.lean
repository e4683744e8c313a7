import Boltz.Async.Rely

/-!
# Locks and what they guard

A rely logic for programs that serialise their steps with locks. The invariants see a history
only through its `Obs`: a view of the state and the acts whose label is relevant. `Res k` holds
while the lock `k` is free, `Keep k` is what everybody else keeps while a task holds `k`, and
`Any` is what everybody keeps for everybody.
-/

namespace Boltz.Async

structure Obs (V L S Ω : Type) where
  now : V
  past : List (Event L S Ω)

structure Guarded (K V L S Ω : Type) where
  holder : S → K → Option Nat
  view : S → V
  relevant : L → Bool
  allow : L → Nat → Hist L S Ω → Ω → Bool
  Inv : Obs V L S Ω → Prop
  Res : K → Obs V L S Ω → Prop
  Keep : K → Obs V L S Ω → Obs V L S Ω → Prop
  Any : Obs V L S Ω → Obs V L S Ω → Prop
  keep_refl : ∀ k o, Keep k o o
  keep_trans : ∀ {k o₁ o₂ o₃}, Keep k o₁ o₂ → Keep k o₂ o₃ → Keep k o₁ o₃
  any_refl : ∀ o, Any o o
  any_trans : ∀ {o₁ o₂ o₃}, Any o₁ o₂ → Any o₂ o₃ → Any o₁ o₃
  res_keep : ∀ {k o o'}, Keep k o o' → Res k o → Res k o'

variable {K V L S Ω ε α β : Type}

namespace Guarded

def obs (𝓖 : Guarded K V L S Ω) (h : Hist L S Ω) : Obs V L S Ω :=
  ⟨𝓖.view h.world, h.trace.filter fun e => 𝓖.relevant e.label⟩

def logic (𝓖 : Guarded K V L S Ω) : Logic L S Ω where
  allow := 𝓖.allow
  Inv h := 𝓖.Inv (𝓖.obs h) ∧ ∀ k, 𝓖.holder h.world k = none → 𝓖.Res k (𝓖.obs h)
  Rely t h h' := 𝓖.Any (𝓖.obs h) (𝓖.obs h') ∧
    ∀ k, 𝓖.holder h.world k = some t →
      𝓖.holder h'.world k = some t ∧ 𝓖.Keep k (𝓖.obs h) (𝓖.obs h')
  refl _ _ := ⟨𝓖.any_refl _, fun k hk => ⟨hk, 𝓖.keep_refl k _⟩⟩
  trans h₁ h₂ := by
    refine ⟨𝓖.any_trans h₁.1 h₂.1, fun k hk => ?_⟩
    obtain ⟨hk', hkeep⟩ := h₁.2 k hk
    obtain ⟨hk'', hkeep'⟩ := h₂.2 k hk'
    exact ⟨hk'', 𝓖.keep_trans hkeep hkeep'⟩

variable {𝓖 : Guarded K V L S Ω} {t : Nat} {h h' : Hist L S Ω} {l : L} {ω : Ω} {s : S}

@[simp] theorem logic_allow : 𝓖.logic.allow = 𝓖.allow := rfl

theorem obs_quiet (hl : 𝓖.relevant l = false) (hs : 𝓖.view s = 𝓖.view h.world) :
    𝓖.obs (h.record t l ω s) = 𝓖.obs h := by
  simp [obs, hl, hs]

theorem obs_loud (hl : 𝓖.relevant l = true) :
    𝓖.obs (h.record t l ω s) = ⟨𝓖.view s, ⟨t, l, ω, h.world, s⟩ :: (𝓖.obs h).past⟩ := by
  simp [obs, hl]

theorem obs_changed (hl : 𝓖.relevant l = false) :
    𝓖.obs (h.record t l ω s) = ⟨𝓖.view s, (𝓖.obs h).past⟩ := by
  simp [obs, hl]

/-! ## Steps -/

/-- A step that changes no lock owes this much to the others. -/
theorem step_of_held (hh : 𝓖.holder h'.world = 𝓖.holder h.world)
    (hinv : 𝓖.Inv (𝓖.obs h')) (hany : 𝓖.Any (𝓖.obs h) (𝓖.obs h'))
    (hres : ∀ k, 𝓖.holder h.world k = none → 𝓖.Res k (𝓖.obs h'))
    (hkeep : ∀ k u, 𝓖.holder h.world k = some u → u ≠ t → 𝓖.Keep k (𝓖.obs h) (𝓖.obs h')) :
    𝓖.logic.Step t h h' := by
  refine ⟨⟨hinv, fun k hk => ?_⟩, fun u hu => ⟨hany, fun k hk => ?_⟩⟩
  · rw [hh] at hk
    exact hres k hk
  · rw [hh]
    exact ⟨hk, hkeep k u hk hu⟩

theorem step_of_keep (hi : 𝓖.logic.Inv h) (hh : 𝓖.holder h'.world = 𝓖.holder h.world)
    (hinv : 𝓖.Inv (𝓖.obs h')) (hany : 𝓖.Any (𝓖.obs h) (𝓖.obs h'))
    (hkeep : ∀ k, 𝓖.holder h.world k ≠ some t → 𝓖.Keep k (𝓖.obs h) (𝓖.obs h')) :
    𝓖.logic.Step t h h' := by
  refine step_of_held hh hinv hany (fun k hk => ?_) fun k u hk hu => ?_
  · exact 𝓖.res_keep (hkeep k (by simp [hk])) (hi.2 k hk)
  · exact hkeep k (by simp [hk, hu])

theorem step_of_obs_eq (hi : 𝓖.logic.Inv h) (hh : 𝓖.holder h'.world = 𝓖.holder h.world)
    (ho : 𝓖.obs h' = 𝓖.obs h) : 𝓖.logic.Step t h h' := by
  refine step_of_keep hi hh (ho ▸ hi.1) (ho ▸ 𝓖.any_refl _) fun k _ => ?_
  rw [ho]
  exact 𝓖.keep_refl k _

/-- The state after task `t` took the lock `k`. -/
structure Acquired (𝓖 : Guarded K V L S Ω) (k : K) (t : Nat) (s s' : S) : Prop where
  view : 𝓖.view s' = 𝓖.view s
  free : 𝓖.holder s k = none
  held : 𝓖.holder s' k = some t
  rest : ∀ k', k' ≠ k → 𝓖.holder s' k' = 𝓖.holder s k'

theorem step_of_acquired {k : K} (hi : 𝓖.logic.Inv h) (ha : 𝓖.Acquired k t h.world h'.world)
    (ho : 𝓖.obs h' = 𝓖.obs h) : 𝓖.logic.Step t h h' := by
  refine ⟨⟨ho ▸ hi.1, fun k' hk' => ?_⟩, fun u _ => ⟨ho ▸ 𝓖.any_refl _, fun k' hk' => ?_⟩⟩
  · rw [ho]
    refine hi.2 k' ?_
    rwa [← ha.rest k' (fun he => by rw [he, ha.held] at hk'; cases hk')]
  · refine ⟨?_, ho ▸ 𝓖.keep_refl k' _⟩
    rwa [ha.rest k' (fun he => by rw [he, ha.free] at hk'; cases hk')]

/-- The state after task `t` gave the lock `k` back. -/
structure Released (𝓖 : Guarded K V L S Ω) (k : K) (t : Nat) (s s' : S) : Prop where
  view : 𝓖.view s' = 𝓖.view s
  held : 𝓖.holder s k = some t
  free : 𝓖.holder s' k = none
  rest : ∀ k', k' ≠ k → 𝓖.holder s' k' = 𝓖.holder s k'

theorem step_of_released {k : K} (hi : 𝓖.logic.Inv h) (hr : 𝓖.Released k t h.world h'.world)
    (hres : 𝓖.Res k (𝓖.obs h)) (ho : 𝓖.obs h' = 𝓖.obs h) : 𝓖.logic.Step t h h' := by
  classical
  refine ⟨⟨ho ▸ hi.1, fun k' hk' => ?_⟩, fun u hu => ⟨ho ▸ 𝓖.any_refl _, fun k' hk' => ?_⟩⟩
  · rw [ho]
    by_cases hkk : k' = k
    · exact hkk ▸ hres
    · exact hi.2 k' (by rwa [← hr.rest k' hkk])
  · refine ⟨?_, ho ▸ 𝓖.keep_refl k' _⟩
    by_cases hkk : k' = k
    · rw [hkk, hr.held] at hk'
      exact absurd (Option.some.inj hk').symm hu
    · rwa [hr.rest k' hkk]

/-! ## Assertions of a task -/

/-- Task `t` holds the locks `ks`, and `B` is true of what can be seen. -/
def On (𝓖 : Guarded K V L S Ω) (ks : List K) (B : Obs V L S Ω → Prop) (t : Nat)
    (h : Hist L S Ω) : Prop :=
  (∀ k ∈ ks, 𝓖.holder h.world k = some t) ∧ B (𝓖.obs h)

/-- The others do not disturb `B` while the locks `ks` are held. -/
def Steady (𝓖 : Guarded K V L S Ω) (ks : List K) (B : Obs V L S Ω → Prop) : Prop :=
  ∀ o o', 𝓖.Any o o' → (∀ k ∈ ks, 𝓖.Keep k o o') → 𝓖.Inv o' → B o → B o'

variable {ks : List K} {B B' : Obs V L S Ω → Prop} {Q : Logic.Post L S Ω ε α}

theorem On.mono (hA : 𝓖.On ks B t h) (hB : ∀ o, B o → B' o) : 𝓖.On ks B' t h :=
  ⟨hA.1, hB _ hA.2⟩

theorem On.rely (hA : 𝓖.On ks B t h) (hB : 𝓖.Steady ks B) (hr : 𝓖.logic.Rely t h h')
    (hi : 𝓖.logic.Inv h') : 𝓖.On ks B t h' :=
  ⟨fun k hk => (hr.2 k (hA.1 k hk)).1,
    hB _ _ hr.1 (fun k hk => (hr.2 k (hA.1 k hk)).2) hi.1 hA.2⟩

theorem On.stable (hB : 𝓖.Steady ks B) : 𝓖.logic.Stable t (𝓖.On ks B t) :=
  fun _ _ hr hi hA => hA.rely hB hr hi

theorem On.of_obs_eq (hA : 𝓖.On ks B t h) (hh : 𝓖.holder h'.world = 𝓖.holder h.world)
    (ho : 𝓖.obs h' = 𝓖.obs h) : 𝓖.On ks B t h' :=
  ⟨by rw [hh]; exact hA.1, by rw [ho]; exact hA.2⟩

theorem steady_true : 𝓖.Steady ks fun _ => True := fun _ _ _ _ _ _ => trivial

theorem steady_res {k : K} (hk : k ∈ ks) : 𝓖.Steady ks (𝓖.Res k) :=
  fun _ _ _ hkeep _ hres => 𝓖.res_keep (hkeep k hk) hres

theorem Steady.and (hB : 𝓖.Steady ks B) (hB' : 𝓖.Steady ks B') :
    𝓖.Steady ks fun o => B o ∧ B' o :=
  fun o o' ha hk hi hb => ⟨hB o o' ha hk hi hb.1, hB' o o' ha hk hi hb.2⟩

theorem Steady.weaken {ks' : List K} (hB : 𝓖.Steady ks B) (hks : ∀ k ∈ ks, k ∈ ks') :
    𝓖.Steady ks' B :=
  fun o o' ha hk hi hb => hB o o' ha (fun k hk' => hk k (hks k hk')) hi hb

/-! ## Quiet programs -/

/-- An act that neither an invariant nor a lock holder can see. -/
def Quiet (𝓖 : Guarded K V L S Ω) {β : Type} (a : Act L S Ω β) : Prop :=
  𝓖.relevant a.label = false ∧ ∀ t s ω b s', a.run t s ω = some (b, s') →
    𝓖.view s' = 𝓖.view s ∧ 𝓖.holder s' = 𝓖.holder s

theorem Quiet.step {a : Act L S Ω β} (ha : 𝓖.Quiet a) {b : β} (hi : 𝓖.logic.Inv h)
    (he : a.run t h.world ω = some (b, s)) :
    𝓖.logic.Step t h (h.record t a.label ω s) ∧
      ∀ {ks B}, 𝓖.On ks B t h → 𝓖.On ks B t (h.record t a.label ω s) := by
  obtain ⟨hv, hh⟩ := ha.2 t _ ω b s he
  exact ⟨step_of_obs_eq hi hh (obs_quiet ha.1 hv), fun hA => hA.of_obs_eq hh (obs_quiet ha.1 hv)⟩

theorem Quiet.keeps {a : Act L S Ω β} (ha : 𝓖.Quiet a) :
    𝓖.logic.Keeps t (𝓖.On ks B t) a := by
  intro h ω b s hi hA _ he
  obtain ⟨hst, hA'⟩ := ha.step hi he
  exact ⟨hst, hA' hA⟩

theorem Quiet.free {a : Act L S Ω β} (ha : 𝓖.Quiet a) : 𝓖.logic.Free a :=
  fun _ _ _ _ _ hi _ he => (ha.step hi he).1

theorem wp_uses {m : Prog L S Ω ε α} (hB : 𝓖.Steady ks B)
    (hm : m.Uses (fun a => 𝓖.logic.Keeps t (𝓖.On ks B t) a) (fun c => 𝓖.logic.Safe c))
    (hA : 𝓖.On ks B t h) : 𝓖.logic.wp m t (fun _ h' => 𝓖.On ks B t h') h :=
  Logic.wp_of_uses (On.stable hB) hm hA

/-- A program whose acts keep `B`, followed by another. -/
theorem wp_uses_bind {m : Prog L S Ω ε β} {k : β → Prog L S Ω ε α} (hB : 𝓖.Steady ks B)
    (hm : m.Uses (fun a => 𝓖.logic.Keeps t (𝓖.On ks B t) a) (fun c => 𝓖.logic.Safe c))
    (hA : 𝓖.On ks B t h) (hk : ∀ b h', 𝓖.On ks B t h' → 𝓖.logic.wp (k b) t Q h')
    (he : ∀ e h', 𝓖.On ks B t h' → Q (.error e) h') : 𝓖.logic.wp (m >>= k) t Q h := by
  rw [Logic.wp_bind]
  refine Logic.wp_mono (wp_uses hB hm hA) fun r h' hA' => ?_
  cases r with
  | ok b => exact hk b h' hA'
  | error e => exact he e h' hA'

/-! ## Locks -/

/-- An act that takes the lock `k` as soon as it is free. -/
def Acquires (𝓖 : Guarded K V L S Ω) (k : K) (a : Act L S Ω β) : Prop :=
  𝓖.relevant a.label = false ∧ ∀ t s ω b s', a.run t s ω = some (b, s') → 𝓖.Acquired k t s s'

/-- An act that gives the lock `k` back. -/
def Releases (𝓖 : Guarded K V L S Ω) (k : K) (a : Act L S Ω β) : Prop :=
  𝓖.relevant a.label = false ∧ ∀ t s ω b s', a.run t s ω = some (b, s') →
    𝓖.holder s k = some t → 𝓖.Released k t s s'

theorem wp_acquire_bind {k : K} {a : Act L S Ω β} {f : β → Prog L S Ω ε α}
    (ha : 𝓖.Acquires k a) (hB : 𝓖.Steady ks B) (hA : 𝓖.On ks B t h) (hks : k ∉ ks)
    (hf : ∀ b h', 𝓖.On (k :: ks) (fun o => B o ∧ 𝓖.Res k o) t h' →
      𝓖.logic.wp (f b) t Q h') : 𝓖.logic.wp (Prog.call a >>= f) t Q h := by
  intro h₁ hr hi ω b s _ he
  have hA₁ := hA.rely hB hr hi
  have hacq := ha.2 t _ ω b s he
  have ho : 𝓖.obs (h₁.record t a.label ω s) = 𝓖.obs h₁ := obs_quiet ha.1 hacq.view
  refine ⟨step_of_acquired hi hacq ho, hf b _ ⟨fun k' hk' => ?_, ?_⟩⟩
  · rcases List.mem_cons.mp hk' with rfl | hk'
    · exact hacq.held
    · rw [Hist.record_world, hacq.rest k' (fun he => hks (he ▸ hk'))]
      exact hA₁.1 k' hk'
  · rw [ho]
    exact ⟨hA₁.2, hi.2 k hacq.free⟩

theorem wp_release {k : K} {a : Act L S Ω Unit} {Q : Logic.Post L S Ω ε Unit}
    (ha : 𝓖.Releases k a) (hB : 𝓖.Steady (k :: ks) B) (hA : 𝓖.On (k :: ks) B t h)
    (hks : k ∉ ks) (hres : ∀ o, B o → 𝓖.Res k o)
    (hQ : ∀ h', 𝓖.On ks B t h' → Q (.ok ()) h') :
    𝓖.logic.wp (Prog.call a : Prog L S Ω ε Unit) t Q h := by
  intro h₁ hr hi ω b s _ he
  have hA₁ := hA.rely hB hr hi
  have hrel := ha.2 t _ ω b s he (hA₁.1 k (by simp))
  have ho : 𝓖.obs (h₁.record t a.label ω s) = 𝓖.obs h₁ := obs_quiet ha.1 hrel.view
  refine ⟨step_of_released hi hrel (hres _ hA₁.2) ho, hQ _ ⟨fun k' hk' => ?_, ?_⟩⟩
  · rw [Hist.record_world, hrel.rest k' (fun he => hks (he ▸ hk'))]
    exact hA₁.1 k' (by simp [hk'])
  · rw [ho]
    exact hA₁.2

/-! ## Acts that are seen -/

/-- With the locks `ks` and `B` true, the act owes nothing to the others and leaves `B'`, which
may speak about its result. -/
def Does (𝓖 : Guarded K V L S Ω) (ks : List K) (B : Obs V L S Ω → Prop) (a : Act L S Ω β)
    (B' : β → Obs V L S Ω → Prop) : Prop :=
  ∀ t h ω b s, 𝓖.logic.Inv h → 𝓖.On ks B t h → 𝓖.allow a.label t h ω = true →
    a.run t h.world ω = some (b, s) →
      𝓖.logic.Step t h (h.record t a.label ω s) ∧ 𝓖.On ks (B' b) t (h.record t a.label ω s)

/-- `Does` for one task, which `B` and `B'` may speak about. -/
def DoesBy (𝓖 : Guarded K V L S Ω) (t : Nat) (ks : List K) (B : Obs V L S Ω → Prop) (a : Act L S Ω β)
    (B' : β → Obs V L S Ω → Prop) : Prop :=
  ∀ h ω b s, 𝓖.logic.Inv h → 𝓖.On ks B t h → 𝓖.allow a.label t h ω = true →
    a.run t h.world ω = some (b, s) →
      𝓖.logic.Step t h (h.record t a.label ω s) ∧ 𝓖.On ks (B' b) t (h.record t a.label ω s)

theorem wp_doesBy_bind {a : Act L S Ω β} {k : β → Prog L S Ω ε α} {C : β → Obs V L S Ω → Prop}
    (ha : 𝓖.DoesBy t ks B a C) (hB : 𝓖.Steady ks B) (hA : 𝓖.On ks B t h)
    (hk : ∀ b h', 𝓖.On ks (C b) t h' → 𝓖.logic.wp (k b) t Q h') :
    𝓖.logic.wp (Prog.call a >>= k) t Q h := by
  intro h₁ hr hi ω b s hallow he
  obtain ⟨hst, hA'⟩ := ha h₁ ω b s hi (hA.rely hB hr hi) hallow he
  exact ⟨hst, hk b _ hA'⟩

theorem wp_does_bind {a : Act L S Ω β} {k : β → Prog L S Ω ε α} {C : β → Obs V L S Ω → Prop}
    (ha : 𝓖.Does ks B a C) (hB : 𝓖.Steady ks B) (hA : 𝓖.On ks B t h)
    (hk : ∀ b h', 𝓖.On ks (C b) t h' → 𝓖.logic.wp (k b) t Q h') :
    𝓖.logic.wp (Prog.call a >>= k) t Q h :=
  wp_doesBy_bind (ha t) hB hA hk

theorem Does.mono {a : Act L S Ω β} {C C' : β → Obs V L S Ω → Prop} (ha : 𝓖.Does ks B a C)
    (hB : ∀ o, B' o → B o) (hC : ∀ b o, C b o → C' b o) : 𝓖.Does ks B' a C' := by
  intro t h ω b s hi hA hallow he
  obtain ⟨hst, hA'⟩ := ha t h ω b s hi (hA.mono hB) hallow he
  exact ⟨hst, hA'.mono (hC b)⟩

theorem Does.keeps {a : Act L S Ω β} (ha : 𝓖.Does ks B a fun _ => B) :
    𝓖.logic.Keeps t (𝓖.On ks B t) a :=
  fun h ω b s hi hA hallow he => ha t h ω b s hi hA hallow he

theorem Does.free {a : Act L S Ω β} {C : β → Obs V L S Ω → Prop}
    (ha : 𝓖.Does [] (fun _ => True) a C) : 𝓖.logic.Free a :=
  fun t h ω b s hi hallow he => (ha t h ω b s hi ⟨by simp, trivial⟩ hallow he).1

theorem Quiet.does {a : Act L S Ω β} (ha : 𝓖.Quiet a) : 𝓖.Does ks B a fun _ => B := by
  intro t h ω b s hi hA _ he
  obtain ⟨hst, hA'⟩ := ha.step hi he
  exact ⟨hst, hA' hA⟩

/-- An act that changes no lock, by what it does to what can be seen. -/
theorem doesBy_of_obs {a : Act L S Ω β} {C : β → Obs V L S Ω → Prop}
    (hlock : ∀ s ω b s', a.run t s ω = some (b, s') → 𝓖.holder s' = 𝓖.holder s)
    (hobs : ∀ h ω b s, 𝓖.Inv (𝓖.obs h) → B (𝓖.obs h) → 𝓖.allow a.label t h ω = true →
      a.run t h.world ω = some (b, s) →
        𝓖.Inv (𝓖.obs (h.record t a.label ω s)) ∧
        𝓖.Any (𝓖.obs h) (𝓖.obs (h.record t a.label ω s)) ∧
        (∀ k, k ∉ ks → 𝓖.Keep k (𝓖.obs h) (𝓖.obs (h.record t a.label ω s))) ∧
        C b (𝓖.obs (h.record t a.label ω s))) : 𝓖.DoesBy t ks B a C := by
  intro h ω b s hi hA hallow he
  have hh : 𝓖.holder s = 𝓖.holder h.world := hlock _ ω b s he
  obtain ⟨hinv, hany, hkeep, hC⟩ := hobs h ω b s hi.1 hA.2 hallow he
  refine ⟨step_of_keep hi hh hinv hany fun k hk => ?_, ?_, hC⟩
  · exact hkeep k fun hks => hk (hA.1 k hks)
  · intro k hk
    rw [Hist.record_world, hh]
    exact hA.1 k hk

/-- A quiet act whose result says something about the state. -/
theorem Quiet.does_of {a : Act L S Ω β} (ha : 𝓖.Quiet a) {C : β → Obs V L S Ω → Prop}
    (hC : ∀ t h ω b s, 𝓖.logic.Inv h → 𝓖.On ks B t h → 𝓖.allow a.label t h ω = true →
      a.run t h.world ω = some (b, s) → C b (𝓖.obs h)) : 𝓖.Does ks B a C := by
  intro t h ω b s hi hA hallow he
  obtain ⟨hst, hA'⟩ := ha.step hi he
  have hkeep : 𝓖.On ks (C b) t h := ⟨hA.1, hC t h ω b s hi hA hallow he⟩
  exact ⟨hst, (ha.step hi he).2 hkeep⟩

/-! ## Triples -/

/-- With the locks `ks` and `B` true, the program ends with the locks and with `X` of its result. -/
def Triple (𝓖 : Guarded K V L S Ω) (ks : List K) (B : Obs V L S Ω → Prop) (m : Prog L S Ω ε α)
    (X : Except ε α → Obs V L S Ω → Prop) : Prop :=
  ∀ t h, 𝓖.On ks B t h → 𝓖.logic.wp m t (fun r h' => 𝓖.On ks (X r) t h') h

namespace Triple

variable {X X' : Except ε α → Obs V L S Ω → Prop} {Y : Except ε β → Obs V L S Ω → Prop}
  {m : Prog L S Ω ε α}

theorem conseq (hm : 𝓖.Triple ks B m X) (hB : ∀ o, B' o → B o) (hX : ∀ r o, X r o → X' r o) :
    𝓖.Triple ks B' m X' :=
  fun t h hA => Logic.wp_mono (hm t h (hA.mono hB)) fun r _ hr => hr.mono (hX r)

theorem pure {a : α} (h : ∀ o, B o → X (.ok a) o) : 𝓖.Triple ks B (.pure a) X :=
  fun _ _ hA => hA.mono h

theorem throw {e : ε} (h : ∀ o, B o → X (.error e) o) : 𝓖.Triple ks B (.throw e) X :=
  fun _ _ hA => hA.mono h

/-- A program whose precondition cannot be true. -/
theorem absurd (h : ∀ o, ¬B o) : 𝓖.Triple ks B m X := fun _ _ hA => False.elim (h _ hA.2)

theorem bind {n : Prog L S Ω ε β} {f : β → Prog L S Ω ε α} (hn : 𝓖.Triple ks B n Y)
    (hf : ∀ b, 𝓖.Triple ks (Y (.ok b)) (f b) X) (he : ∀ e o, Y (.error e) o → X (.error e) o) :
    𝓖.Triple ks B (n >>= f) X := by
  intro t h hA
  rw [Logic.wp_bind]
  refine Logic.wp_mono (hn t h hA) fun r h' hr => ?_
  cases r with
  | ok b => exact hf b t h' hr
  | error e => exact hr.mono (he e)

theorem attempt_bind {n : Prog L S Ω ε β} {f : Except ε β → Prog L S Ω ε α}
    (hn : 𝓖.Triple ks B n Y) (hf : ∀ r, 𝓖.Triple ks (Y r) (f r) X) :
    𝓖.Triple ks B (n.attempt >>= f) X := by
  intro t h hA
  rw [Logic.wp_bind, Logic.wp_attempt]
  exact Logic.wp_mono (hn t h hA) fun r h' hr => hf r t h' hr

theorem act_bind {a : Act L S Ω β} {f : β → Prog L S Ω ε α} {C : β → Obs V L S Ω → Prop}
    (ha : 𝓖.Does ks B a C) (hB : 𝓖.Steady ks B) (hf : ∀ b, 𝓖.Triple ks (C b) (f b) X) :
    𝓖.Triple ks B (Prog.call a >>= f) X :=
  fun t _ hA => wp_does_bind ha hB hA fun b h' hC => hf b t h' hC

theorem act {a : Act L S Ω α} (ha : 𝓖.Does ks B a fun b => X (.ok b)) (hB : 𝓖.Steady ks B) :
    𝓖.Triple ks B (Prog.call a) X := by
  intro t h hA h₁ hr hi ω b s hallow he
  exact ha t h₁ ω b s hi (hA.rely hB hr hi) hallow he

/-- A program whose acts keep `B`. -/
theorem of_uses (hm : m.Uses (fun a => 𝓖.Does ks B a fun _ => B) fun c => 𝓖.logic.Safe c)
    (hB : 𝓖.Steady ks B) : 𝓖.Triple ks B m fun _ => B :=
  fun _ _ hA => wp_uses hB (hm.mono (fun _ ha => ha.keeps) fun _ hc => hc) hA

theorem uses_bind {n : Prog L S Ω ε β} {f : β → Prog L S Ω ε α}
    (hn : n.Uses (fun a => 𝓖.Does ks B a fun _ => B) fun c => 𝓖.logic.Safe c)
    (hB : 𝓖.Steady ks B) (hf : ∀ b, 𝓖.Triple ks B (f b) X) (he : ∀ e o, B o → X (.error e) o) :
    𝓖.Triple ks B (n >>= f) X :=
  (of_uses hn hB).bind hf he

theorem spawn_bind {c : Prog L S Ω ε Unit} {f : Unit → Prog L S Ω ε α} (hc : 𝓖.logic.Safe c)
    (hB : 𝓖.Steady ks B) (hf : 𝓖.Triple ks B (f ()) X) :
    𝓖.Triple ks B (Prog.spawn c >>= f) X := by
  intro t h hA
  rw [Logic.wp_bind]
  exact Logic.wp_spawn hc fun h' hr hi => hf t h' (hA.rely hB hr hi)

theorem when {c : Bool} {m : Prog L S Ω ε Unit} {X : Except ε Unit → Obs V L S Ω → Prop}
    (hm : c = true → 𝓖.Triple ks B m X) (h : c = false → ∀ o, B o → X (.ok ()) o) :
    𝓖.Triple ks B (Prog.when c m) X := by
  cases c with
  | true => exact hm rfl
  | false => exact pure (h rfl)

theorem throwIf_bind {c : Bool} {e : ε} {f : Unit → Prog L S Ω ε α}
    (he : c = true → ∀ o, B o → X (.error e) o) (hf : c = false → 𝓖.Triple ks B (f ()) X) :
    𝓖.Triple ks B (Prog.throwIf c e >>= f) X := by
  cases c with
  | true => exact throw (he rfl)
  | false => exact hf rfl

theorem forEach {ι : Type} {xs : List ι} {f : ι → Prog L S Ω ε Unit}
    (hf : ∀ x, 𝓖.Triple ks B (f x) fun _ => B) :
    𝓖.Triple ks B (Prog.forEach xs f) fun _ => B := by
  induction xs with
  | nil => exact pure fun _ ho => ho
  | cons x xs ih => exact (hf x).bind (fun _ => ih) fun _ _ ho => ho

end Triple

end Guarded

end Boltz.Async

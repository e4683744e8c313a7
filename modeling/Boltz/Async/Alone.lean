import Boltz.Async.Prog

/-!
# Programs that run alone

What a program can do while no other task takes a step: `mayEnd` says how it can end, in which
state and with which tasks started, `mayTake` which labelled acts it can take. The answers from
outside are free.
-/

namespace Boltz.Async.Prog

variable {L S Ω ε α β : Type} {t : Nat} {l : L} {s : S}

/-- Some run of `m` by task `t` alone ends as `Q` says. -/
def mayEnd (t : Nat) : {α : Type} → Prog L S Ω ε α →
    (Except ε α → S → List (Prog L S Ω ε Unit) → Prop) → S → Prop
  | _, .pure a, Q, s => Q (.ok a) s []
  | _, .throw e, Q, s => Q (.error e) s []
  | _, .act a k, Q, s => ∃ ω b s', a.run t s ω = some (b, s') ∧ (k b).mayEnd t Q s'
  | _, .fork c k, Q, s => k.mayEnd t (fun r s' cs => Q r s' (c :: cs)) s

/-- Some run of `m` by task `t` alone takes an act labelled `l`. -/
def mayTake (t : Nat) (l : L) : {α : Type} → Prog L S Ω ε α → S → Prop
  | _, .pure _, _ => False
  | _, .throw _, _ => False
  | _, .act a k, s => ∃ ω b s', a.run t s ω = some (b, s') ∧ (a.label = l ∨ (k b).mayTake t l s')
  | _, .fork _ k, s => k.mayTake t l s

/-! ## How a program ends -/

section ends

variable {Q Q' : Except ε α → S → List (Prog L S Ω ε Unit) → Prop}

theorem mayEnd_mono {m : Prog L S Ω ε α} (hm : m.mayEnd t Q s)
    (hQ : ∀ r s cs, Q r s cs → Q' r s cs) : m.mayEnd t Q' s := by
  induction m generalizing s with
  | pure a => exact hQ _ _ _ hm
  | throw e => exact hQ _ _ _ hm
  | act a k ih =>
    obtain ⟨ω, b, s', he, hk⟩ := hm
    exact ⟨ω, b, s', he, ih b hk hQ⟩
  | fork c k _ ih => exact ih hm fun r s cs h => hQ r s (c :: cs) h

theorem not_mayEnd_false {m : Prog L S Ω ε α} : ¬m.mayEnd t (fun _ _ _ => False) s := by
  induction m generalizing s with
  | pure a => exact fun h => h
  | throw e => exact fun h => h
  | act a k ih =>
    rintro ⟨ω, b, s', _, hk⟩
    exact ih b hk
  | fork c k _ ih => exact ih

@[simp] theorem mayEnd_pure (a : α) : (.pure a : Prog L S Ω ε α).mayEnd t Q s ↔ Q (.ok a) s [] :=
  Iff.rfl

@[simp] theorem mayEnd_throw (e : ε) :
    (.throw e : Prog L S Ω ε α).mayEnd t Q s ↔ Q (.error e) s [] := Iff.rfl

theorem mayEnd_bind {Q : Except ε β → S → List (Prog L S Ω ε Unit) → Prop}
    (m : Prog L S Ω ε α) (f : α → Prog L S Ω ε β) :
    (m >>= f).mayEnd t Q s ↔ m.mayEnd t (fun r s' cs => match r with
      | .ok a => (f a).mayEnd t (fun r' s'' cs' => Q r' s'' (cs ++ cs')) s'
      | .error e => Q (.error e) s' cs) s := by
  change (m.bind f).mayEnd t Q s ↔ _
  induction m generalizing s Q with
  | pure a => rfl
  | throw e => rfl
  | act a k ih => simp only [Prog.bind, mayEnd, ih]
  | fork c k _ ih =>
    simp only [Prog.bind, mayEnd]
    rw [ih]
    rfl

theorem mayEnd_attempt {Q : Except ε (Except ε α) → S → List (Prog L S Ω ε Unit) → Prop}
    (m : Prog L S Ω ε α) :
    m.attempt.mayEnd t Q s ↔ m.mayEnd t (fun r s' cs => Q (.ok r) s' cs) s := by
  induction m generalizing s with
  | pure a => rfl
  | throw e => rfl
  | act a k ih => simp only [attempt, mayEnd, ih]
  | fork c k _ ih =>
    simp only [attempt, mayEnd]
    rw [ih]

@[simp] theorem mayEnd_ofExcept (r : Except ε α) :
    (Prog.ofExcept r : Prog L S Ω ε α).mayEnd t Q s ↔ Q r s [] := by
  cases r <;> rfl

theorem mayEnd_act_bind {Q : Except ε β → S → List (Prog L S Ω ε Unit) → Prop} (a : Act L S Ω α)
    (f : α → Prog L S Ω ε β) :
    (Prog.call a >>= f).mayEnd t Q s ↔
      ∃ ω b s', a.run t s ω = some (b, s') ∧ (f b).mayEnd t Q s' := Iff.rfl

@[simp] theorem mayEnd_spawn {Q : Except ε Unit → S → List (Prog L S Ω ε Unit) → Prop}
    (c : Prog L S Ω ε Unit) : (Prog.spawn c).mayEnd t Q s ↔ Q (.ok ()) s [c] := Iff.rfl

/-- A program that ends in one way only. -/
def Ends (t : Nat) (m : Prog L S Ω ε α) (s : S) (r : Except ε α) (s' : S) : Prop :=
  ∀ Q, m.mayEnd t Q s ↔ Q r s' []

theorem ends_pure (a : α) : (.pure a : Prog L S Ω ε α).Ends t s (.ok a) s := fun _ => Iff.rfl

/-- An act that does not depend on the answer. -/
theorem ends_call [Inhabited Ω] {a : Act L S Ω α} {b : α} {s' : S}
    (ha : ∀ ω, a.run t s ω = some (b, s')) :
    (Prog.call a : Prog L S Ω ε α).Ends t s (.ok b) s' := by
  intro Q
  constructor
  · rintro ⟨ω, b', s'', he, hQ⟩
    rw [ha] at he
    cases he
    exact hQ
  · exact fun hQ => ⟨default, b, s', ha default, hQ⟩

theorem Ends.bind {m : Prog L S Ω ε α} {f : α → Prog L S Ω ε β} {a : α} {s' : S}
    {Q : Except ε β → S → List (Prog L S Ω ε Unit) → Prop} (hm : m.Ends t s (.ok a) s') :
    (m >>= f).mayEnd t Q s ↔ (f a).mayEnd t Q s' := by
  rw [mayEnd_bind, hm]
  rfl

theorem Ends.trans {m : Prog L S Ω ε α} {f : α → Prog L S Ω ε β} {a : α} {r : Except ε β}
    {s' s'' : S} (hm : m.Ends t s (.ok a) s') (hf : (f a).Ends t s' r s'') :
    (m >>= f).Ends t s r s'' :=
  fun Q => hm.bind.trans (hf Q)

end ends

/-! ## Which acts a program takes -/

theorem mayTake_bind (m : Prog L S Ω ε α) (f : α → Prog L S Ω ε β) :
    (m >>= f).mayTake t l s ↔ m.mayTake t l s ∨
      m.mayEnd t (fun r s' _ => ∃ a, r = .ok a ∧ (f a).mayTake t l s') s := by
  change (m.bind f).mayTake t l s ↔ _
  induction m generalizing s with
  | pure a => simp [Prog.bind, mayTake, mayEnd]
  | throw e => simp [Prog.bind, mayTake, mayEnd]
  | act a k ih =>
    simp only [Prog.bind, mayTake, mayEnd, ih]
    constructor
    · rintro ⟨ω, b, s', he, hl | hk | hk⟩
      · exact .inl ⟨ω, b, s', he, .inl hl⟩
      · exact .inl ⟨ω, b, s', he, .inr hk⟩
      · exact .inr ⟨ω, b, s', he, hk⟩
    · rintro (⟨ω, b, s', he, hl | hk⟩ | ⟨ω, b, s', he, hk⟩)
      · exact ⟨ω, b, s', he, .inl hl⟩
      · exact ⟨ω, b, s', he, .inr (.inl hk)⟩
      · exact ⟨ω, b, s', he, .inr (.inr hk)⟩
  | fork c k _ ih =>
    simp only [Prog.bind, mayTake, mayEnd]
    exact ih f

theorem Ends.mayTake_bind {m : Prog L S Ω ε α} {f : α → Prog L S Ω ε β} {a : α} {s' : S}
    (hm : m.Ends t s (.ok a) s') (hf : (f a).mayTake t l s') : (m >>= f).mayTake t l s :=
  (Prog.mayTake_bind m f).mpr (.inr ((hm _).mpr ⟨a, rfl, hf⟩))

theorem mayTake_act_bind (a : Act L S Ω α) (f : α → Prog L S Ω ε β) :
    (Prog.call a >>= f).mayTake t l s ↔
      ∃ ω b s', a.run t s ω = some (b, s') ∧ (a.label = l ∨ (f b).mayTake t l s') := Iff.rfl

theorem mayTake_attempt (m : Prog L S Ω ε α) :
    m.attempt.mayTake t l s ↔ m.mayTake t l s := by
  induction m generalizing s with
  | pure a => rfl
  | throw e => rfl
  | act a k ih => simp only [attempt, mayTake, ih]
  | fork c k _ ih =>
    simp only [attempt, mayTake]
    exact ih

@[simp] theorem not_mayTake_ofExcept (r : Except ε α) :
    ¬(Prog.ofExcept r : Prog L S Ω ε α).mayTake t l s := by
  cases r <;> exact fun h => h

/-- The acts of `try … finally` whose last part has none of the label. -/
theorem mayTake_finally {m : Prog L S Ω ε α} {fin : Prog L S Ω ε Unit}
    (hfin : ∀ s, ¬fin.mayTake t l s) : (m.finally_ fin).mayTake t l s ↔ m.mayTake t l s := by
  unfold finally_
  rw [mayTake_bind, mayTake_attempt]
  refine ⟨fun h => h.resolve_right fun hend => ?_, .inl⟩
  rw [mayEnd_attempt] at hend
  have hnone : m.mayEnd t (fun _ _ _ => False) s := by
    refine mayEnd_mono hend fun r s' _ => ?_
    rintro ⟨a, _, htake⟩
    rw [mayTake_bind] at htake
    rcases htake with htake | hrest
    · exact hfin s' htake
    · have hfalse : fin.mayEnd t (fun _ _ _ => False) s' :=
        mayEnd_mono hrest fun _ _ _ ⟨_, _, h⟩ => not_mayTake_ofExcept _ h
      exact not_mayEnd_false hfalse
  exact not_mayEnd_false hnone

/-- A program without acts labelled `l`. -/
theorem not_mayTake_of_uses {C : Prog L S Ω ε Unit → Prop} {m : Prog L S Ω ε α}
    (hm : m.Uses (fun a => a.label ≠ l) C) : ¬m.mayTake t l s := by
  induction m generalizing s with
  | pure a => exact fun h => h
  | throw e => exact fun h => h
  | act a k ih =>
    rintro ⟨ω, b, s', _, hl | hk⟩
    · exact hm.1 hl
    · exact ih b (hm.2 b) hk
  | fork c k _ ih => exact ih hm.2

end Boltz.Async.Prog

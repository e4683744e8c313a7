import Boltz.Async.Rely

/-!
# Facts that last

A logic for states that only grow: every step of every task keeps `Inv` and extends the state in
the sense of `Extends`. What a task learned about the state stays true when it `Lasts` under
extensions, no matter what the other tasks do in between, so that the triples here have no rely.
-/

namespace Boltz.Async

structure Growing (L S Ω : Type) where
  allow : L → Nat → Hist L S Ω → Ω → Bool
  Inv : Hist L S Ω → Prop
  Extends : S → S → Prop
  refl : ∀ s, Extends s s
  trans : ∀ {s₁ s₂ s₃}, Extends s₁ s₂ → Extends s₂ s₃ → Extends s₁ s₃

variable {Entry L S Ω ε α β : Type}

namespace Growing

def logic (𝓖 : Growing L S Ω) : Logic L S Ω where
  allow := 𝓖.allow
  Inv := 𝓖.Inv
  Rely _ h h' := 𝓖.Extends h.world h'.world
  refl _ h := 𝓖.refl h.world
  trans h₁ h₂ := 𝓖.trans h₁ h₂

/-- A fact about the state that stays true. -/
def Lasts (𝓖 : Growing L S Ω) (A : S → Prop) : Prop := ∀ s s', 𝓖.Extends s s' → A s → A s'

/-- Nothing is said about where a program throws. -/
def post (Q : α → S → Prop) : Logic.Post L S Ω ε α
  | .ok a, h => Q a h.world
  | .error _, _ => True

/-- From where `A` holds, `m` may run, and `Q` holds where it returns. -/
def Triple (𝓖 : Growing L S Ω) (A : S → Prop) (m : Prog L S Ω ε α) (Q : α → S → Prop) : Prop :=
  ∀ t h, 𝓖.Inv h → A h.world → 𝓖.logic.wp m t (post Q) h

variable {𝓖 : Growing L S Ω} {A B F : S → Prop} {Q R : α → S → Prop} {t : Nat} {h : Hist L S Ω}

theorem lasts_true : 𝓖.Lasts fun _ => True := fun _ _ _ _ => trivial

theorem lasts_const (p : Prop) : 𝓖.Lasts fun _ => p := fun _ _ _ h => h

theorem Lasts.and (hA : 𝓖.Lasts A) (hB : 𝓖.Lasts B) : 𝓖.Lasts fun s => A s ∧ B s :=
  fun s s' he h => ⟨hA s s' he h.1, hB s s' he h.2⟩

/-- The steps of the task itself extend the state too. -/
theorem wp_frame (hF : 𝓖.Lasts F) {m : Prog L S Ω ε α} {Q : Logic.Post L S Ω ε α}
    (hm : 𝓖.logic.wp m t Q h) (hh : F h.world) :
    𝓖.logic.wp m t (fun r h' => Q r h' ∧ F h'.world) h := by
  induction m generalizing h with
  | pure a => exact ⟨hm, hh⟩
  | throw e => exact ⟨hm, hh⟩
  | act a k ih =>
    intro h₁ hr hi ω b s ha he
    obtain ⟨hst, hk⟩ := hm h₁ hr hi ω b s ha he
    have hext : 𝓖.Extends h₁.world s := hst.2 (t + 1) (Nat.succ_ne_self t)
    exact ⟨hst, ih b hk (hF _ _ hext (hF _ _ hr hh))⟩
  | fork c k _ ih =>
    intro h₁ hr hi
    obtain ⟨hc, hk⟩ := hm h₁ hr hi
    exact ⟨hc, ih hk (hF _ _ hr hh)⟩

namespace Triple

theorem pure {a : α} (h : ∀ s, A s → Q a s) : 𝓖.Triple A (.pure a : Prog L S Ω ε α) Q :=
  fun _ h' _ hA => h h'.world hA

theorem throw {e : ε} : 𝓖.Triple A (.throw e : Prog L S Ω ε α) Q := fun _ _ _ _ => trivial

theorem weaken {m : Prog L S Ω ε α} (hm : 𝓖.Triple A m Q) (hA : ∀ s, B s → A s)
    (hQ : ∀ a s, Q a s → R a s) : 𝓖.Triple B m R := by
  intro t h hi hB
  refine Logic.wp_mono (hm t h hi (hA _ hB)) fun r h' hr => ?_
  cases r with
  | ok a => exact hQ a h'.world hr
  | error e => trivial

theorem bind {m : Prog L S Ω ε α} {f : α → Prog L S Ω ε β} {R : β → S → Prop}
    (hm : 𝓖.Triple A m Q) (hf : ∀ a, 𝓖.Triple (Q a) (f a) R) : 𝓖.Triple A (m >>= f) R := by
  intro t h hi hA
  rw [Logic.wp_bind]
  refine Logic.wp_mono (Logic.wp_inv hi (hm t h hi hA)) fun r h' hr => ?_
  cases r with
  | ok a => exact hf a t h' hr.2 hr.1
  | error e => trivial

/-- What lasts is still true afterwards. -/
theorem frame {m : Prog L S Ω ε α} (hF : 𝓖.Lasts F) (hm : 𝓖.Triple A m Q) :
    𝓖.Triple (fun s => A s ∧ F s) m fun a s => Q a s ∧ F s := by
  intro t h hi hA
  refine Logic.wp_mono (wp_frame hF (hm t h hi hA.1) hA.2) fun r h' hr => ?_
  cases r with
  | ok a => exact hr
  | error e => trivial

/-- A program about which nothing needs to be known, followed by one that needs `A`. -/
theorem next {m : Prog L S Ω ε α} {f : α → Prog L S Ω ε β} {R : β → S → Prop} (hA : 𝓖.Lasts A)
    (hm : 𝓖.Triple (fun _ => True) m fun _ _ => True) (hf : ∀ a, 𝓖.Triple A (f a) R) :
    𝓖.Triple A (m >>= f) R := by
  have hframe := (frame hA hm).weaken (B := A) (R := fun _ => A) (fun s h => ⟨trivial, h⟩)
    fun a s h => h.2
  exact hframe.bind hf

theorem call {a : Act L S Ω α} (hA : 𝓖.Lasts A)
    (ha : ∀ t h ω b s, 𝓖.Inv h → A h.world → 𝓖.allow a.label t h ω = true →
      a.run t h.world ω = some (b, s) →
        𝓖.Inv (h.record t a.label ω s) ∧ 𝓖.Extends h.world s ∧ Q b s) :
    𝓖.Triple A (Prog.call a : Prog L S Ω ε α) Q := by
  intro t h hi hh h₁ hr hi₁ ω b s hallow he
  obtain ⟨hinv, hext, hQ⟩ := ha t h₁ ω b s hi₁ (hA _ _ hr hh) hallow he
  exact ⟨⟨hinv, fun _ _ => hext⟩, hQ⟩

theorem when {m : Prog L S Ω ε Unit} (c : Bool) {Q : Unit → S → Prop} (hm : 𝓖.Triple A m Q)
    (hskip : ∀ s, A s → Q () s) : 𝓖.Triple A (Prog.when c m) Q := by
  cases c
  · exact Triple.pure hskip
  · exact hm

theorem throwIf {c : Bool} {e : ε} {Q : Unit → S → Prop} (h : c = false → ∀ s, A s → Q () s) :
    𝓖.Triple A (Prog.throwIf c e : Prog L S Ω ε Unit) Q := by
  cases c
  · exact Triple.pure (h rfl)
  · exact Triple.throw

theorem forEach {xs : List α} {f : α → Prog L S Ω ε Unit}
    (hf : ∀ x ∈ xs, 𝓖.Triple A (f x) fun _ => A) :
    𝓖.Triple A (Prog.forEach xs f) fun _ => A := by
  induction xs with
  | nil => exact Triple.pure fun _ h => h
  | cons x xs ih =>
    unfold Prog.forEach
    exact (hf x (by simp)).bind fun _ => ih fun y hy => hf y (by simp [hy])

theorem catching {m : Prog L S Ω ε α} {handler : ε → Prog L S Ω ε α} (hA : 𝓖.Lasts A)
    (hm : 𝓖.Triple A m Q) (hh : ∀ e, 𝓖.Triple A (handler e) Q) :
    𝓖.Triple A (m.catching handler) Q := by
  intro t h hi hh'
  rw [Logic.wp_catching]
  refine Logic.wp_mono (Logic.wp_inv hi (wp_frame hA (hm t h hi hh') hh')) fun r h' hr => ?_
  cases r with
  | ok a => exact hr.1.1
  | error e => exact hh e t h' hr.2 hr.1.2

theorem finally_ {m : Prog L S Ω ε α} {fin : Prog L S Ω ε Unit} (hQ : ∀ a, 𝓖.Lasts (Q a))
    (hm : 𝓖.Triple A m Q) (hfin : 𝓖.Triple (fun _ => True) fin fun _ _ => True) :
    𝓖.Triple A (m.finally_ fin) Q := by
  intro t h hi hA
  rw [Logic.wp_finally]
  refine Logic.wp_mono (Logic.wp_inv hi (hm t h hi hA)) fun r h' hr => ?_
  cases r with
  | ok a =>
    refine Logic.wp_mono (wp_frame (hQ a) (hfin t h' hr.2 trivial) hr.1) fun r' h'' hr' => ?_
    cases r' with
    | ok _ => exact hr'.2
    | error _ => trivial
  | error e =>
    refine Logic.wp_mono (hfin t h' hr.2 trivial) fun r' h'' _ => ?_
    cases r' with
    | ok _ => trivial
    | error _ => trivial

theorem spawn {child : Prog L S Ω ε Unit} (hA : 𝓖.Lasts A)
    (hc : 𝓖.Triple A child fun _ _ => True) :
    𝓖.Triple A (Prog.spawn child) fun _ => A := by
  intro t h _ hh h₁ hr hi₁
  have hA₁ := hA _ _ hr hh
  refine ⟨fun u _ => Logic.wp_mono (hc u h₁ hi₁ hA₁) fun _ _ _ => trivial, ?_⟩
  exact hA₁

theorem safe {m : Prog L S Ω ε α} (hm : 𝓖.Triple (fun _ => True) m Q) : 𝓖.logic.Safe m :=
  fun t h hi => Logic.wp_mono (hm t h hi trivial) fun _ _ _ => trivial

end Triple

/-- Every history that an admitted run reaches satisfies the invariant. -/
theorem inv_of_reaches {P : Policy Entry L S Ω} {start : Entry → Prog L S Ω ε Unit} {s : S}
    (hP : P.allow = 𝓖.allow)
    (hstart : ∀ e, P.spawn e = true → 𝓖.Triple (fun _ => True) (start e) fun _ _ => True)
    (h₀ : 𝓖.Inv ⟨s, []⟩) (hr : Reaches P start s h) : 𝓖.Inv h :=
  Logic.inv_of_reaches (𝓛 := 𝓖.logic) hP (fun e he => (hstart e he).safe) h₀ hr

end Growing

end Boltz.Async

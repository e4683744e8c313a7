import Boltz.Async.Promise

/-!
# Sweeps over lists

`for (const x of xs) await body(x)`: an item that throws, or that never settles, keeps the loop
from the items behind it. A sweep is isolated when in every order each item does what it does on
its own.
-/

namespace Boltz.Async.AsyncCall

variable {E ε α : Type}

def forEach (body : α → AsyncCall E ε Unit) : List α → AsyncCall E ε Unit
  | [] => pure ()
  | x :: xs => do
    body x
    forEach body xs

/-- Returns, without an error. -/
def Settles (m : AsyncCall E ε Unit) : Prop := m.promise = .resolved ()

/-- In every order each item does what it does on its own, and nothing else is done. -/
def Isolated (body : α → AsyncCall E ε Unit) (xs : List α) : Prop :=
  ∀ ys, ys.Perm xs → (forEach body ys).acts = ys.flatMap fun y => (body y).acts

variable {body : α → AsyncCall E ε Unit} {x : α} {xs ys pre post : List α}

theorem bind_of_settles {m : AsyncCall E ε Unit} (h : m.Settles) (next : AsyncCall E ε Unit) :
    (do m; next) = ⟨next.promise, m.acts ++ next.acts⟩ := by
  change m.bind (fun _ => next) = _
  unfold AsyncCall.bind
  rw [h]

theorem bind_of_not_settles {m : AsyncCall E ε Unit} (h : ¬m.Settles) (next : AsyncCall E ε Unit) :
    (do m; next) = m := by
  obtain ⟨promise, acts⟩ := m
  cases promise with
  | resolved a => exact absurd rfl h
  | rejected e => rfl
  | unsettled => rfl

theorem act_bind (x : E) (m : AsyncCall E ε Unit) : (do act x; m) = ⟨m.promise, x :: m.acts⟩ := rfl

theorem settles_bind_iff {m next : AsyncCall E ε Unit} :
    (do m; next).Settles ↔ m.Settles ∧ next.Settles := by
  by_cases h : m.Settles
  · rw [bind_of_settles h]
    exact ⟨fun hnext => ⟨h, hnext⟩, And.right⟩
  · rw [bind_of_not_settles h]
    exact ⟨fun hm => absurd hm h, fun hm => absurd hm.1 h⟩

theorem forEach_settles_iff : (forEach body xs).Settles ↔ ∀ x ∈ xs, (body x).Settles := by
  induction xs with
  | nil => exact ⟨fun _ x hx => absurd hx List.not_mem_nil, fun _ => rfl⟩
  | cons x xs ih => rw [forEach, settles_bind_iff, ih, List.forall_mem_cons]

theorem forEach_acts_of_settles (h : ∀ x ∈ xs, (body x).Settles) :
    (forEach body xs).acts = xs.flatMap fun x => (body x).acts := by
  induction xs with
  | nil => rfl
  | cons x xs ih =>
    rw [forEach, bind_of_settles (h x List.mem_cons_self), List.flatMap_cons,
      ih fun y hy => h y (List.mem_cons_of_mem _ hy)]

theorem forEach_acts_of_stops (h : ¬(body x).Settles) :
    (forEach body (x :: xs)).acts = (body x).acts := by
  rw [forEach, bind_of_not_settles h]

theorem forEach_map {β : Type} (body : β → AsyncCall E ε Unit) (g : α → β) (xs : List α) :
    forEach body (xs.map g) = forEach (fun x => body (g x)) xs := by
  induction xs with
  | nil => rfl
  | cons x xs ih => rw [List.map_cons, forEach, forEach, ih]

theorem forEach_congr {body' : α → AsyncCall E ε Unit} (h : ∀ x ∈ xs, body x = body' x) :
    forEach body xs = forEach body' xs := by
  induction xs with
  | nil => rfl
  | cons x xs ih =>
    rw [forEach, forEach, h x List.mem_cons_self, ih fun y hy => h y (List.mem_cons_of_mem _ hy)]

/-- Items that do nothing may be cut off. -/
theorem forEach_acts_of_only
    (h : ∀ y rest, xs.Perm (y :: rest) → ¬(body y).Settles → ∀ z ∈ rest, (body z).acts = []) :
    (forEach body xs).acts = xs.flatMap fun x => (body x).acts := by
  induction xs with
  | nil => rfl
  | cons x xs ih =>
    by_cases hsettles : (body x).Settles
    · rw [forEach, bind_of_settles hsettles, List.flatMap_cons]
      refine congrArg _ (ih fun y rest hperm hstops z hz => ?_)
      have hperm' : (x :: xs).Perm (y :: x :: rest) := (hperm.cons x).trans (.swap y x rest)
      exact h y (x :: rest) hperm' hstops z (List.mem_cons_of_mem _ hz)
    · rw [forEach_acts_of_stops hsettles, List.flatMap_cons]
      have hnone : (xs.flatMap fun y => (body y).acts) = [] :=
        List.flatMap_eq_nil_iff.mpr fun y hy => h x xs (.refl _) hsettles y hy
      rw [hnone, List.append_nil]

/-- An item that does not settle must be the only one that does anything. -/
theorem isolated_iff : Isolated body xs ↔
    ∀ x rest, xs.Perm (x :: rest) → ¬(body x).Settles → ∀ y ∈ rest, (body y).acts = [] := by
  constructor
  · intro h x rest hperm hstops
    have hacts := h (x :: rest) hperm.symm
    rw [forEach_acts_of_stops hstops, List.flatMap_cons, List.self_eq_append_right,
      List.flatMap_eq_nil_iff] at hacts
    exact hacts
  · intro h ys hys
    exact forEach_acts_of_only fun y rest hperm => h y rest (hys.symm.trans hperm)

end Boltz.Async.AsyncCall

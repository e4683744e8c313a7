import Mathlib.Data.List.Sort

/-!
# Sorting by a comparison

Insertion sort is stable, as `sort_by` is.
-/

namespace Boltz.Core

variable {α : Type} {cmp : α → α → Ordering}

theorem isLE_total [Std.OrientedCmp cmp] (a b : α) :
    (cmp a b).isLE = true ∨ (cmp b a).isLE = true := by
  have hswap : cmp b a = (cmp a b).swap := Std.OrientedCmp.eq_swap
  rw [hswap]
  cases cmp a b <;> simp

variable (cmp) in
/-- Sorting by a relation that a comparison decides. -/
theorem pairwise_insertionSort [Std.TransCmp cmp] {r : α → α → Prop} [DecidableRel r]
    (hr : ∀ a b, r a b ↔ (cmp a b).isLE = true) (l : List α) :
    (l.insertionSort r).Pairwise r := by
  have htotal : Std.Total r := ⟨fun a b => by
    rw [hr, hr]
    exact isLE_total a b⟩
  have htrans : IsTrans α r := ⟨fun a b c hab hbc => by
    rw [hr] at hab hbc ⊢
    exact Std.TransCmp.isLE_trans hab hbc⟩
  exact List.pairwise_insertionSort r l

section Majority

variable {r : α → α → Prop} {p : α → Bool} {l : List α} {i : Nat}

/-- What as many elements of a sorted list satisfy as there are from an index on, the element at the
index satisfies, if larger elements do whenever smaller ones do. -/
theorem getElem_of_countP_upward (hl : l.Pairwise r) (hp : ∀ a b, r a b → p a = true → p b = true)
    (hi : i < l.length) (hcount : l.length ≤ l.countP p + i) : p l[i] = true := by
  by_contra hfails
  have hprefix : (l.take (i + 1)).countP p = 0 := by
    rw [List.countP_eq_zero]
    intro a ha hpa
    obtain ⟨j, hj, rfl⟩ := List.mem_take_iff_getElem.mp ha
    rcases Nat.lt_or_eq_of_le (show j ≤ i by omega) with hlt | rfl
    · exact hfails (hp _ _ (List.pairwise_iff_getElem.mp hl j i (by omega) hi hlt) hpa)
    · exact hfails hpa
  have hrest : (l.drop (i + 1)).countP p ≤ l.length - (i + 1) :=
    List.length_drop (l := l) ▸ List.countP_le_length
  have hsplit : l.countP p = (l.take (i + 1)).countP p + (l.drop (i + 1)).countP p := by
    rw [← List.countP_append, List.take_append_drop]
  omega

/-- The same from the other end. -/
theorem getElem_of_countP_downward (hl : l.Pairwise r)
    (hp : ∀ a b, r a b → p b = true → p a = true) (hi : i < l.length)
    (hcount : i < l.countP p) : p l[i] = true := by
  by_contra hfails
  have hrest : (l.drop i).countP p = 0 := by
    rw [List.countP_eq_zero]
    intro a ha hpa
    obtain ⟨j, hj, rfl⟩ := List.mem_drop_iff_getElem.mp ha
    rcases Nat.eq_zero_or_pos j with rfl | hpos
    · exact hfails hpa
    · exact hfails (hp _ _ (List.pairwise_iff_getElem.mp hl i (i + j) hi (by omega) (by omega)) hpa)
  have hprefix : (l.take i).countP p ≤ i :=
    List.countP_le_length.trans (List.length_take_le i l)
  have hsplit : l.countP p = (l.take i).countP p + (l.drop i).countP p := by
    rw [← List.countP_append, List.take_append_drop]
  omega

end Majority

end Boltz.Core

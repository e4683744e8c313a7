import Mathlib.Data.List.Basic

/-!
# Runs of a transition function

`step` is `none` where an operation is not enabled, and `admits` says which operations a policy
lets through. A run is a list of operations; it is `none` as soon as one of them is refused.
-/

namespace Boltz.Async

variable {S O : Type} {step : S → O → Option S} {admits : S → O → Bool}

def runFrom (step : S → O → Option S) (admits : S → O → Bool) : S → List O → Option S
  | s, [] => some s
  | s, op :: ops => if admits s op then (step s op).bind (runFrom step admits · ops) else none

theorem runFrom_cons {s s' : S} {op : O} {ops : List O}
    (h : runFrom step admits s (op :: ops) = some s') :
    ∃ s₁, admits s op = true ∧ step s op = some s₁ ∧ runFrom step admits s₁ ops = some s' := by
  rw [runFrom] at h
  by_cases hop : admits s op = true
  · rw [if_pos hop] at h
    obtain ⟨s₁, hstep, hrest⟩ := Option.bind_eq_some_iff.mp h
    exact ⟨s₁, hop, hstep, hrest⟩
  · rw [if_neg hop] at h
    exact absurd h (Option.some_ne_none s').symm

/-- What every admitted step preserves holds after every run. -/
theorem invariant_of_runFrom {Inv : S → Prop}
    (hstep : ∀ s op s', Inv s → admits s op = true → step s op = some s' → Inv s')
    {ops : List O} {s s' : S} (hinv : Inv s) (h : runFrom step admits s ops = some s') :
    Inv s' := by
  induction ops generalizing s with
  | nil =>
    obtain rfl := Option.some.inj h
    exact hinv
  | cons op ops ih =>
    obtain ⟨s₁, hop, hs₁, hrest⟩ := runFrom_cons h
    exact ih (hstep s op s₁ hinv hop hs₁) hrest

/-! ## Tasks in a list -/

variable {α : Type} {l : List α} {i : Nat} {a b : α}

theorem mem_set_or (hget : l[i]? = some a) (a' : α) (hb : b ∈ l) : b = a ∨ b ∈ l.set i a' := by
  obtain ⟨j, hj⟩ := List.mem_iff_getElem?.mp hb
  by_cases hij : i = j
  · subst hij
    exact .inl (Option.some.inj (hj.symm.trans hget))
  · refine .inr (List.mem_iff_getElem?.mpr ⟨j, ?_⟩)
    rw [List.getElem?_set_ne hij, hj]

theorem mem_eraseIdx_or (hget : l[i]? = some a) (hb : b ∈ l) : b = a ∨ b ∈ l.eraseIdx i := by
  obtain ⟨j, hj⟩ := List.mem_iff_getElem?.mp hb
  by_cases hij : j = i
  · subst hij
    exact .inl (Option.some.inj (hj.symm.trans hget))
  · exact .inr (List.mem_eraseIdx_iff_getElem?.mpr ⟨j, hij, hj⟩)

/-- A task of the list after one was replaced. -/
theorem getElem?_set_cases {j : Nat} {a' : α} (h : (l.set i a')[j]? = some b) :
    j = i ∧ b = a' ∨ j ≠ i ∧ l[j]? = some b := by
  by_cases hj : j = i
  · subst hj
    obtain ⟨hlt, -⟩ := List.getElem?_eq_some_iff.mp h
    rw [List.length_set] at hlt
    exact .inl ⟨rfl, Option.some.inj (h.symm.trans (List.getElem?_set_self hlt))⟩
  · exact .inr ⟨hj, (List.getElem?_set_ne (Ne.symm hj)).symm.trans h⟩

theorem getElem?_singleton_cases (h : [a][i]? = some b) : i = 0 ∧ b = a := by
  cases i with
  | zero => exact ⟨rfl, (Option.some.inj h).symm⟩
  | succ i => cases h

theorem mem_set_self (hget : l[i]? = some a) (a' : α) : a' ∈ l.set i a' := by
  obtain ⟨hlt, -⟩ := List.getElem?_eq_some_iff.mp hget
  exact List.mem_set hlt a'

/-- How many tasks are of a kind after one was replaced by a task of the same kind. -/
theorem countP_set {p : α → Bool} {a' : α} (hget : l[i]? = some a) (hsame : p a' = p a) :
    (l.set i a').countP p = l.countP p := by
  obtain ⟨hlt, rfl⟩ := List.getElem?_eq_some_iff.mp hget
  have hpos : p l[i] = true → 0 < l.countP p :=
    fun h => List.countP_pos_iff.mpr ⟨_, List.getElem_mem hlt, h⟩
  rw [List.countP_set hlt, hsame]
  split
  · rename_i htrue
    have := hpos htrue
    omega
  · omega

theorem countP_eraseIdx {p : α → Bool} (hget : l[i]? = some a) :
    l.countP p = (l.eraseIdx i).countP p + if p a then 1 else 0 := by
  obtain ⟨hlt, rfl⟩ := List.getElem?_eq_some_iff.mp hget
  conv_lhs => rw [← List.take_append_drop i l, List.drop_eq_getElem_cons hlt]
  rw [List.eraseIdx_eq_take_drop_succ, List.countP_append, List.countP_append, List.countP_cons]
  omega

/-- What a list maps to changes at the replaced task only. -/
theorem filterMap_set {β : Type} (f : α → Option β) (hget : l[i]? = some a) (a' : α) :
    ∃ l₁ l₂, l.filterMap f = l₁ ++ (f a).toList ++ l₂ ∧
      (l.set i a').filterMap f = l₁ ++ (f a').toList ++ l₂ := by
  obtain ⟨hlt, rfl⟩ := List.getElem?_eq_some_iff.mp hget
  have hcons : ∀ b (t : List α), (b :: t).filterMap f = (f b).toList ++ t.filterMap f := by
    intro b t
    rw [List.filterMap_cons]
    cases f b with
    | none => rfl
    | some c => rfl
  refine ⟨(l.take i).filterMap f, (l.drop (i + 1)).filterMap f, ?_, ?_⟩
  · conv_lhs => rw [← List.take_append_drop i l, List.drop_eq_getElem_cons hlt]
    rw [List.filterMap_append, hcons, List.append_assoc]
  · rw [List.set_eq_take_append_cons_drop, if_pos hlt, List.filterMap_append, hcons,
      List.append_assoc]

end Boltz.Async

import Mathlib.Data.List.Basic

/-!
# Maps that are iterated while they change

Entries stay in the order in which their keys were inserted, and a slot stays where it is when its
entry is deleted. An iteration is the index of the slot that it goes on at, so that it also gets to
entries that are inserted while it runs.
-/

namespace Boltz.Async

section

variable {α : Type} {a : α} {slots : List (Option α)} {i i' : Nat}

/-- The first value of slots that start at an index, and the index after it. -/
def firstSome : List (Option α) → Nat → Option (α × Nat)
  | [], _ => none
  | some a :: _, i => some (a, i + 1)
  | none :: slots, i => firstSome slots (i + 1)

theorem firstSome_eq_some (h : firstSome slots i = some (a, i')) :
    i < i' ∧ slots[i' - i - 1]? = some (some a) ∧ ∀ j < i' - i - 1, slots[j]? = some none := by
  induction slots generalizing i with
  | nil => cases h
  | cons slot slots ih =>
    cases slot with
    | some first =>
      obtain ⟨rfl, rfl⟩ := Prod.mk.inj (Option.some.inj h)
      refine ⟨Nat.lt_succ_self _, ?_, fun j hj => absurd hj (by omega)⟩
      rw [show i + 1 - i - 1 = 0 by omega]
      rfl
    | none =>
      obtain ⟨hlt, hfound, hskipped⟩ := ih h
      refine ⟨by omega, ?_, fun j hj => ?_⟩
      · rw [show i' - i - 1 = (i' - (i + 1) - 1) + 1 by omega]
        exact hfound
      · cases j with
        | zero => rfl
        | succ j => exact hskipped j (by omega)

theorem firstSome_eq_none (h : firstSome slots i = none) (j : Nat) (a : α) :
    slots[j]? ≠ some (some a) := by
  intro hj
  induction slots generalizing i j with
  | nil => cases hj
  | cons slot slots ih =>
    cases slot with
    | some first => cases h
    | none =>
      cases j with
      | zero => cases hj
      | succ j => exact ih h j hj

end

variable {K V : Type}

structure OrderedMap (K V : Type) where
  slots : List (Option (K × V))
  deriving DecidableEq, Repr

namespace OrderedMap

def empty : OrderedMap K V := { slots := [] }

def isEmpty (m : OrderedMap K V) : Bool := m.slots.all (·.isNone)

/-- The entry that an iteration gets to next. -/
def next (m : OrderedMap K V) (cursor : Nat) : Option ((K × V) × Nat) :=
  firstSome (m.slots.drop cursor) cursor

/-- The slot of a key. -/
def At (m : OrderedMap K V) (i : Nat) (k : K) : Prop := ∃ v, m.slots[i]? = some (some (k, v))

variable {m : OrderedMap K V} {k k' : K} {v : V} {i cursor cursor' : Nat} {entry : K × V}

/-- An iteration gets to an entry of the map, and leaves nothing out before it. -/
theorem next_eq_some (h : m.next cursor = some (entry, cursor')) :
    cursor < cursor' ∧ m.slots[cursor' - 1]? = some (some entry) ∧
      ∀ i, cursor ≤ i → i < cursor' - 1 → m.slots[i]? = some none := by
  obtain ⟨hlt, hfound, hskipped⟩ := firstSome_eq_some h
  refine ⟨hlt, ?_, fun i hge hi => ?_⟩
  · rw [List.getElem?_drop] at hfound
    rwa [show cursor + (cursor' - cursor - 1) = cursor' - 1 by omega] at hfound
  · have hslot := hskipped (i - cursor) (by omega)
    rw [List.getElem?_drop] at hslot
    rwa [show cursor + (i - cursor) = i by omega] at hslot

theorem mem_of_next (h : m.next cursor = some (entry, cursor')) : some entry ∈ m.slots :=
  List.mem_of_getElem? (next_eq_some h).2.1

theorem cursor_le_of_next (h : m.next cursor = some (entry, cursor')) :
    cursor' ≤ m.slots.length := by
  obtain ⟨-, hfound, -⟩ := next_eq_some h
  have hlt := (List.getElem?_eq_some_iff.mp hfound).1
  omega

/-- A slot that an iteration has not got to is what it gets to next, or still before it. -/
theorem At.of_next (hat : m.At i k) (hle : cursor ≤ i)
    (h : m.next cursor = some (entry, cursor')) : entry.1 = k ∨ cursor' ≤ i := by
  obtain ⟨v, hslot⟩ := hat
  obtain ⟨hlt, hfound, hskipped⟩ := next_eq_some h
  rcases Nat.lt_trichotomy i (cursor' - 1) with hi | hi | hi
  · cases (hskipped i hle hi).symm.trans hslot
  · rw [← hi, hslot] at hfound
    cases hfound
    exact .inl rfl
  · exact .inr (by omega)

theorem At.next_ne_none (hat : m.At i k) (hle : cursor ≤ i) : m.next cursor ≠ none := by
  intro h
  obtain ⟨v, hslot⟩ := hat
  refine firstSome_eq_none h (i - cursor) (k, v) ?_
  rw [List.getElem?_drop, show cursor + (i - cursor) = i by omega]
  exact hslot

/-! ## Keys -/

variable [DecidableEq K]

def holds (k : K) (slot : Option (K × V)) : Bool := slot.any fun entry => entry.1 = k

def has (m : OrderedMap K V) (k : K) : Bool := m.slots.any (holds k)

/-- A key that is there keeps its slot. -/
def set (m : OrderedMap K V) (k : K) (v : V) : OrderedMap K V :=
  if m.has k then { slots := m.slots.map fun slot => if holds k slot then some (k, v) else slot }
  else { slots := m.slots ++ [some (k, v)] }

def delete (m : OrderedMap K V) (k : K) : OrderedMap K V :=
  { slots := m.slots.map fun slot => if holds k slot then none else slot }

@[simp] theorem holds_some : holds k (some entry) = decide (entry.1 = k) := rfl

@[simp] theorem holds_none : holds k (none : Option (K × V)) = false := rfl

@[simp] theorem has_empty : (empty : OrderedMap K V).has k = false := rfl

theorem has_of_mem (h : some (k, v) ∈ m.slots) : m.has k = true :=
  List.any_eq_true.mpr ⟨_, h, decide_eq_true rfl⟩

theorem exists_mem_of_has (h : m.has k = true) : ∃ v, some (k, v) ∈ m.slots := by
  obtain ⟨slot, hslot, hkey⟩ := List.any_eq_true.mp h
  cases slot with
  | none => cases hkey
  | some entry =>
    obtain rfl := of_decide_eq_true hkey
    exact ⟨entry.2, hslot⟩

theorem At.has (h : m.At i k) : m.has k = true := by
  obtain ⟨v, h⟩ := h
  exact has_of_mem (List.mem_of_getElem? h)

theorem exists_at (h : m.has k = true) : ∃ i, m.At i k := by
  obtain ⟨v, hmem⟩ := exists_mem_of_has h
  obtain ⟨i, hi⟩ := List.mem_iff_getElem?.mp hmem
  exact ⟨i, v, hi⟩

/-- What is in a map after a key was set. -/
theorem mem_set (h : some entry ∈ (m.set k v).slots) :
    entry = (k, v) ∨ entry.1 ≠ k ∧ some entry ∈ m.slots := by
  unfold set at h
  split at h
  · obtain ⟨slot, hslot, heq⟩ := List.mem_map.mp h
    split at heq
    · exact .inl (Option.some.inj heq).symm
    · rename_i hother
      subst heq
      exact .inr ⟨fun hkey => hother (decide_eq_true hkey), hslot⟩
  · rename_i hnone
    rcases List.mem_append.mp h with hold | hnew
    · refine .inr ⟨fun hkey => hnone ?_, hold⟩
      rw [← hkey]
      exact has_of_mem hold
    · exact .inl (Option.some.inj (List.mem_singleton.mp hnew))

theorem mem_delete (h : some entry ∈ (m.delete k).slots) :
    entry.1 ≠ k ∧ some entry ∈ m.slots := by
  obtain ⟨slot, hslot, heq⟩ := List.mem_map.mp h
  split at heq
  · cases heq
  · rename_i hother
    subst heq
    exact ⟨fun hkey => hother (decide_eq_true hkey), hslot⟩

/-- The slot of a key that is set, and those of all other keys. -/
theorem At.set (h : m.At i k') : (m.set k v).At i k' := by
  obtain ⟨value, hslot⟩ := h
  have hlt : i < m.slots.length := (List.getElem?_eq_some_iff.mp hslot).1
  unfold OrderedMap.set
  split
  · rw [At]
    dsimp only
    rw [List.getElem?_map, hslot, Option.map_some, holds_some]
    by_cases hkey : k' = k
    · subst hkey
      exact ⟨v, by rw [if_pos (decide_eq_true rfl)]⟩
    · exact ⟨value, by rw [if_neg (by simpa using hkey)]⟩
  · exact ⟨value, (List.getElem?_append_left hlt).trans hslot⟩

theorem at_set_new (h : m.has k = false) : (m.set k v).At m.slots.length k := by
  unfold OrderedMap.set
  rw [if_neg (Bool.eq_false_iff.mp h)]
  exact ⟨v, List.getElem?_concat_length⟩

theorem At.delete (h : m.At i k') (hne : k' ≠ k) : (m.delete k).At i k' := by
  obtain ⟨value, hslot⟩ := h
  refine ⟨value, ?_⟩
  rw [OrderedMap.delete, List.getElem?_map, hslot, Option.map_some, holds_some,
    if_neg (by simpa using hne)]

theorem has_set_self : (m.set k v).has k = true := by
  cases h : m.has k with
  | true =>
    obtain ⟨i, hi⟩ := exists_at h
    exact hi.set.has
  | false => exact (at_set_new h).has

theorem has_set_of_ne (hne : k' ≠ k) : (m.set k v).has k' = m.has k' := by
  rw [Bool.eq_iff_iff]
  constructor
  · intro h
    obtain ⟨value, hmem⟩ := exists_mem_of_has h
    rcases mem_set hmem with heq | ⟨-, hmem⟩
    · exact absurd (congrArg Prod.fst heq) hne
    · exact has_of_mem hmem
  · intro h
    obtain ⟨i, hi⟩ := exists_at h
    exact hi.set.has

theorem has_delete_self : (m.delete k).has k = false := by
  rw [Bool.eq_false_iff]
  intro h
  obtain ⟨value, hmem⟩ := exists_mem_of_has h
  exact (mem_delete hmem).1 rfl

theorem has_delete_of_ne (hne : k' ≠ k) : (m.delete k).has k' = m.has k' := by
  rw [Bool.eq_iff_iff]
  constructor
  · intro h
    obtain ⟨value, hmem⟩ := exists_mem_of_has h
    exact has_of_mem (mem_delete hmem).2
  · intro h
    obtain ⟨i, hi⟩ := exists_at h
    exact (hi.delete hne).has

/-! ## Values -/

def valueOf (k : K) (slot : Option (K × V)) : Option V :=
  slot.bind fun entry => if entry.1 = k then some entry.2 else none

def get (m : OrderedMap K V) (k : K) : Option V := m.slots.findSome? (valueOf k)

theorem mem_of_get (h : m.get k = some v) : some (k, v) ∈ m.slots := by
  obtain ⟨slot, hslot, hvalue⟩ := List.exists_of_findSome?_eq_some h
  obtain ⟨entry, rfl, hentry⟩ := Option.bind_eq_some_iff.mp hvalue
  split at hentry
  · rename_i hkey
    obtain rfl := Option.some.inj hentry
    rwa [← hkey]
  · cases hentry

theorem isEmpty_eq_false (h : m.has k = true) : m.isEmpty = false := by
  obtain ⟨v, hmem⟩ := exists_mem_of_has h
  rw [Bool.eq_false_iff]
  intro hempty
  cases List.all_eq_true.mp hempty _ hmem

@[simp] theorem length_delete : (m.delete k).slots.length = m.slots.length := List.length_map _

theorem length_le_set : m.slots.length ≤ (m.set k v).slots.length := by
  unfold OrderedMap.set
  split
  · exact Nat.le_of_eq (List.length_map _).symm
  · rw [List.length_append]
    exact Nat.le_add_right _ _

end OrderedMap

end Boltz.Async

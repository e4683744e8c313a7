import Mathlib.Data.List.Basic

/-!
# Database tables

A table lists its keys and gives the row of each; an `Instance` is a row together with its
key, as it was when it was read.
-/

namespace Boltz

structure Instance (α : Type) where
  id : Nat
  row : α
  deriving DecidableEq, Repr

structure Table (α : Type) where
  ids : List Nat
  get : Nat → Option α

namespace Table

variable {α : Type}

def empty : Table α := ⟨[], fun _ => none⟩

/-- `findOne({ where: { id } })`. -/
def byId (t : Table α) (id : Nat) : Option (Instance α) := (t.get id).map (⟨id, ·⟩)

/-- `findAll({ where: p })`. -/
def all (t : Table α) (p : α → Bool) : List (Instance α) :=
  (t.ids.filterMap t.byId).filter fun i => p i.row

/-- `findOne({ where: p })`. -/
def find (t : Table α) (p : α → Bool) : Option (Instance α) := (t.all p).head?

def modify (t : Table α) (id : Nat) (f : α → α) : Table α :=
  { t with get := fun j => if j = id then (t.get j).map f else t.get j }

/-- Inserts the row, or replaces the one with this key. -/
def put (t : Table α) (id : Nat) (a : α) : Table α where
  ids := if t.ids.contains id then t.ids else t.ids ++ [id]
  get := fun j => if j = id then some a else t.get j

def erase (t : Table α) (id : Nat) : Table α where
  ids := t.ids.filter (· != id)
  get := fun j => if j = id then none else t.get j

theorem get_modify (t : Table α) (id j : Nat) (f : α → α) :
    (t.modify id f).get j = if j = id then (t.get j).map f else t.get j := rfl

@[simp] theorem get_modify_self (t : Table α) (id : Nat) (f : α → α) :
    (t.modify id f).get id = (t.get id).map f := by simp [modify]

theorem get_modify_ne (t : Table α) {id j : Nat} (h : j ≠ id) (f : α → α) :
    (t.modify id f).get j = t.get j := by simp [modify, h]

theorem byId_eq_some {t : Table α} {id : Nat} {i : Instance α} :
    t.byId id = some i ↔ i.id = id ∧ t.get id = some i.row := by
  simp only [byId, Option.map_eq_some_iff]
  constructor
  · rintro ⟨a, ha, rfl⟩
    exact ⟨rfl, ha⟩
  · rintro ⟨rfl, h⟩
    exact ⟨i.row, h, rfl⟩

theorem of_mem_all {t : Table α} {p : α → Bool} {i : Instance α} (h : i ∈ t.all p) :
    t.get i.id = some i.row ∧ p i.row = true := by
  simp only [all, List.mem_filter, List.mem_filterMap] at h
  obtain ⟨⟨id, _, hid⟩, hp⟩ := h
  obtain ⟨rfl, hget⟩ := byId_eq_some.mp hid
  exact ⟨hget, hp⟩

theorem of_find {t : Table α} {p : α → Bool} {i : Instance α} (h : t.find p = some i) :
    t.get i.id = some i.row ∧ p i.row = true :=
  of_mem_all (List.mem_of_mem_head? h)

end Table

end Boltz

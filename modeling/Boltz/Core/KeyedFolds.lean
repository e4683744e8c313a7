import Mathlib.Data.List.AList

/-!
# Folds into maps

A map that is built from a list by updating the entry of each element's key. Every key gets what the
elements with this key make, in the order of the list.
-/

namespace Boltz.Core

variable {A K V W : Type} [DecidableEq K]

/-- `entry(k)` and an update of it. -/
def upsert (m : AList fun _ : K => V) (k : K) (update : Option V → V) : AList fun _ : K => V :=
  m.insert k (update (m.lookup k))

theorem lookup_upsert (m : AList fun _ : K => V) (k k' : K) (update : Option V → V) :
    (upsert m k update).lookup k' = if k = k' then some (update (m.lookup k')) else m.lookup k' := by
  by_cases hkey : k = k'
  · subst hkey
    rw [upsert, AList.lookup_insert, if_pos rfl]
  · rw [upsert, AList.lookup_insert_ne (Ne.symm hkey), if_neg hkey]

/-- What a list makes of the entry of one key. -/
theorem lookup_foldl_upsert (key : A → K) (update : A → Option V → V) (l : List A)
    (m : AList fun _ : K => V) (k : K) :
    (l.foldl (fun m a => upsert m (key a) (update a)) m).lookup k =
      (l.filter fun a => key a = k).foldl (fun v a => some (update a v)) (m.lookup k) := by
  induction l generalizing m with
  | nil => rfl
  | cons a l ih =>
    rw [List.foldl_cons, ih, lookup_upsert]
    by_cases hkey : key a = k
    · rw [if_pos hkey, List.filter_cons, if_pos (decide_eq_true hkey), List.foldl_cons]
    · rw [if_neg hkey, List.filter_cons, if_neg (by simpa using hkey)]

/-! ## Maps that are written out -/

section

variable [DecidableEq W] {name : K → W} {value : V → A} {store : W → Option A}

/-- Writes all entries of a map, each under the name that its key has. -/
def writeAll (name : K → W) (value : V → A) (m : AList fun _ : K => V) (store : W → Option A) :
    W → Option A :=
  m.entries.foldl (fun store entry => Function.update store (name entry.1) (some (value entry.2)))
    store

omit [DecidableEq K] in
theorem foldl_update_of_ne {entries : List (Sigma fun _ : K => V)} {w : W}
    (h : ∀ entry ∈ entries, name entry.1 ≠ w) :
    entries.foldl (fun store entry => Function.update store (name entry.1) (some (value entry.2)))
      store w = store w := by
  induction entries generalizing store with
  | nil => rfl
  | cons entry entries ih =>
    obtain ⟨hfirst, hrest⟩ := List.forall_mem_cons.mp h
    rw [List.foldl_cons, ih hrest, Function.update_of_ne (Ne.symm hfirst)]

omit [DecidableEq K] in
/-- What was not written stays. -/
theorem writeAll_of_ne {m : AList fun _ : K => V} {w : W} (h : ∀ k, name k ≠ w) :
    writeAll name value m store w = store w :=
  foldl_update_of_ne fun entry _ => h entry.1

/-- What is found where a map was written. -/
theorem writeAll_self {m : AList fun _ : K => V} (hname : Function.Injective name) (k : K) :
    writeAll name value m store (name k) = ((m.lookup k).map value).or (store (name k)) := by
  obtain ⟨entries, hnodup⟩ := m
  unfold writeAll AList.lookup
  dsimp only
  induction entries generalizing store with
  | nil => rfl
  | cons entry entries ih =>
    obtain ⟨hnew, hrest⟩ := List.nodupKeys_cons.mp hnodup
    rw [List.foldl_cons]
    by_cases hkey : entry.1 = k
    · subst hkey
      rw [foldl_update_of_ne, Function.update_self, List.dlookup_cons_eq]
      · rfl
      · intro other hother heq
        rw [← hname heq] at hnew
        exact hnew (List.mem_keys_of_mem hother)
    · rw [ih hrest, Function.update_of_ne fun heq => hkey (hname heq).symm,
        List.dlookup_cons_ne _ _ (Ne.symm hkey)]

end

/-! ## First elements -/

/-- The elements whose key neither was seen nor has occurred before. -/
def firstsFrom (key : A → K) : List K → List A → List A
  | _, [] => []
  | seen, a :: l =>
    if key a ∈ seen then firstsFrom key seen l else a :: firstsFrom key (key a :: seen) l

def firsts (key : A → K) (l : List A) : List A := firstsFrom key [] l

section

variable {key : A → K} {seen : List K} {l : List A}

theorem not_mem_seen {a : A} (h : a ∈ firstsFrom key seen l) : key a ∉ seen := by
  induction l generalizing seen with
  | nil => cases h
  | cons b l ih =>
    unfold firstsFrom at h
    split at h
    · exact ih h
    · rename_i hnew
      rcases List.mem_cons.mp h with rfl | h
      · exact hnew
      · exact fun hseen => ih h (List.mem_cons_of_mem _ hseen)

/-- No key occurs twice. -/
theorem firsts_pairwise (key : A → K) (l : List A) :
    (firsts key l).Pairwise fun a b => key a ≠ key b := by
  unfold firsts
  generalize ([] : List K) = seen
  induction l generalizing seen with
  | nil => exact .nil
  | cons a l ih =>
    unfold firstsFrom
    split
    · exact ih seen
    · refine List.pairwise_cons.mpr ⟨fun b hb heq => not_mem_seen hb ?_, ih _⟩
      rw [heq]
      exact List.mem_cons_self

theorem find?_firstsFrom {k : K} (hk : k ∉ seen) :
    (firstsFrom key seen l).find? (fun a => key a = k) = l.find? fun a => key a = k := by
  induction l generalizing seen with
  | nil => rfl
  | cons a l ih =>
    unfold firstsFrom
    by_cases hkey : key a = k
    · rw [if_neg (hkey ▸ hk), List.find?_cons, List.find?_cons, decide_eq_true hkey]
    · have hother : decide (key a = k) = false := decide_eq_false hkey
      split
      · rw [List.find?_cons, hother]
        exact ih hk
      · rw [List.find?_cons, List.find?_cons, hother]
        exact ih fun hmem => (List.mem_cons.mp hmem).elim (fun heq => hkey heq.symm) hk

/-- Every key keeps its first element. -/
theorem find?_firsts (key : A → K) (l : List A) (k : K) :
    (firsts key l).find? (fun a => key a = k) = l.find? fun a => key a = k :=
  find?_firstsFrom List.not_mem_nil

end

end Boltz.Core

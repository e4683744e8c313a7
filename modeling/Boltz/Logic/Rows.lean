import Boltz.Logic.Sends

/-!
# Writes of one row

A statement about one swap sees its row. A write of another row is not seen, and a write of the
row itself is described by what it makes of the row.
-/

namespace Boltz

open Async SwapUpdateEvent

namespace Rules

variable {K V T : Type} {𝓡 : Rules K V} {ks : List K} {B C : Obs V Label World Answer → Prop}

/-- The view contains the row `id` of a table: `row` is the row, and `put` replaces it. -/
structure RowOf (𝓡 : Rules K V) (get : World → Table T) (set : Table T → World → World)
    (id : Nat) (row : V → Option T) (put : Option T → V → V) : Prop where
  row_view : ∀ w, row (𝓡.view w) = (get w).get id
  view_set : ∀ w x, 𝓡.view (set x w) = put (x.get id) (𝓡.view w)
  put_row : ∀ v, put (row v) v = v
  locks_set : ∀ w x, (set x w).locks = w.locks

/-- What a step with the locks `ks` has to show about what is seen. -/
structure Moves (𝓡 : Rules K V) (ks : List K) (o o' : Obs V Label World Answer)
    (C : Obs V Label World Answer → Prop) : Prop where
  inv : 𝓡.Inv o'
  any : 𝓡.Any o o'
  keep : ∀ k, k ∉ ks → 𝓡.Keep k o o'
  after : C o'

theorem moves_refl {o : Obs V Label World Answer} (hi : 𝓡.Inv o) (hC : C o) :
    𝓡.Moves ks o o C :=
  ⟨hi, 𝓡.any_refl o, fun k _ => 𝓡.keep_refl k o, hC⟩

/-- An act of task `t` that changes no lock, by its moves. -/
theorem doesBy_of_moves {β : Type} {a : Act Label World Answer β} {t : Nat}
    {C : β → Obs V Label World Answer → Prop}
    (hlocks : ∀ w ω b w', a.run t w ω = some (b, w') → w'.locks = w.locks)
    (hmoves : ∀ h ω b w, 𝓡.Inv (𝓡.obs h) → B (𝓡.obs h) → 𝓡.allow a.label t h ω = true →
      a.run t h.world ω = some (b, w) →
        𝓡.Moves ks (𝓡.obs h) (𝓡.obs (h.record t a.label ω w)) (C b)) : 𝓡.DoesBy t ks B a C := by
  refine Guarded.doesBy_of_obs (fun w ω b w' he => holder_congr (hlocks w ω b w' he))
    fun h ω b w hi hB ha he => ?_
  obtain ⟨hinv, hany, hkeep, hC⟩ := hmoves h ω b w hi hB ha he
  exact ⟨hinv, hany, hkeep, hC⟩

theorem does_of_moves {β : Type} {a : Act Label World Answer β}
    {C : β → Obs V Label World Answer → Prop}
    (hlocks : ∀ t w ω b w', a.run t w ω = some (b, w') → w'.locks = w.locks)
    (hmoves : ∀ t h ω b w, 𝓡.Inv (𝓡.obs h) → B (𝓡.obs h) → 𝓡.allow a.label t h ω = true →
      a.run t h.world ω = some (b, w) →
        𝓡.Moves ks (𝓡.obs h) (𝓡.obs (h.record t a.label ω w)) (C b)) : 𝓡.Does ks B a C :=
  fun t => doesBy_of_moves (hlocks t) (hmoves t)

section row

variable {get : World → Table T} {set : Table T → World → World} {id j : Nat}
  {row : V → Option T} {put : Option T → V → V} {f : T → T} {l : Label}

theorem RowOf.view_modify (hr : 𝓡.RowOf get set id row put) (w : World) :
    𝓡.view (set ((get w).modify j f) w) =
      if j = id then put ((row (𝓡.view w)).map f) (𝓡.view w) else 𝓡.view w := by
  rw [hr.view_set, Table.get_modify, hr.row_view w]
  split_ifs with h₁ h₂ h₂
  · rfl
  · exact absurd h₁.symm h₂
  · exact absurd h₂.symm h₁
  · rw [← hr.row_view w, hr.put_row]

/-- A write of the row `j` of the table. -/
theorem does_modify (hr : 𝓡.RowOf get set id row put) (hl : 𝓡.relevant l = false)
    (hrest : ∀ o, (j = id → row o.now = none) → B o → C o)
    (hown : j = id → ∀ t h ω r, 𝓡.Inv (𝓡.obs h) → B (𝓡.obs h) → 𝓡.allow l t h ω = true →
      row (𝓡.obs h).now = some r →
        𝓡.Moves ks (𝓡.obs h) ⟨put (some (f r)) (𝓡.obs h).now, (𝓡.obs h).past⟩ C) :
    𝓡.Does ks B (writeAct l fun w => set ((get w).modify j f) w) fun _ => C := by
  refine does_of_moves (fun t w ω b w' he => ?_) fun t h ω b w hi hB ha he => ?_
  · cases he
    exact hr.locks_set w _
  · cases he
    change 𝓡.Moves ks (𝓡.obs h) (𝓡.obs (h.record t l ω _)) C
    rw [Guarded.obs_changed hl, hr.view_modify]
    by_cases hj : j = id
    · rw [if_pos hj]
      cases hrow : row (𝓡.obs h).now with
      | some r =>
        have hview : row (𝓡.view h.world) = some r := hrow
        rw [hview]
        exact hown hj t h ω r hi hB ha hrow
      | none =>
        have hview : row (𝓡.view h.world) = none := hrow
        have hput := hr.put_row (𝓡.view h.world)
        rw [hview] at hput
        rw [hview, Option.map_none, hput]
        exact moves_refl hi (hrest _ (fun _ => hrow) hB)
    · rw [if_neg hj]
      exact moves_refl hi (hrest _ (fun he => absurd he hj) hB)

/-- A write of the row `j` outside the locks, when it matters who holds them. -/
theorem free_modify (hr : 𝓡.RowOf get set id row put) (hl : 𝓡.relevant l = false)
    (hown : j = id → ∀ t h ω r, 𝓡.logic.Inv h → 𝓡.allow l t h ω = true →
      row (𝓡.obs h).now = some r → ∀ o', o' = ⟨put (some (f r)) (𝓡.obs h).now, (𝓡.obs h).past⟩ →
        𝓡.Inv o' ∧ 𝓡.Any (𝓡.obs h) o' ∧ (∀ k, 𝓡.holder h.world k = none → 𝓡.Res k o') ∧
          ∀ k u, 𝓡.holder h.world k = some u → u ≠ t → 𝓡.Keep k (𝓡.obs h) o') :
    𝓡.logic.Free (writeAct l fun w => set ((get w).modify j f) w) := by
  intro t h ω b w hi ha he
  cases he
  have hh : 𝓡.holder (set ((get h.world).modify j f) h.world) = 𝓡.holder h.world :=
    holder_congr (hr.locks_set h.world _)
  have hobs : 𝓡.obs (h.record t l ω (set ((get h.world).modify j f) h.world)) =
      ⟨if j = id then put ((row (𝓡.obs h).now).map f) (𝓡.obs h).now else (𝓡.obs h).now,
        (𝓡.obs h).past⟩ := by
    rw [Guarded.obs_changed hl, hr.view_modify]
    rfl
  by_cases hj : j = id
  · rw [if_pos hj] at hobs
    cases hrow : row (𝓡.obs h).now with
    | some r =>
      rw [hrow, Option.map_some] at hobs
      obtain ⟨hinv, hany, hres, hkeep⟩ := hown hj t h ω r hi ha hrow _ rfl
      rw [← hobs] at hinv hany hres hkeep
      exact Guarded.step_of_held hh hinv hany hres hkeep
    | none =>
      have hput := hr.put_row (𝓡.obs h).now
      rw [hrow] at hput
      rw [hrow, Option.map_none, hput] at hobs
      exact Guarded.step_of_obs_eq hi hh hobs
  · rw [if_neg hj] at hobs
    exact Guarded.step_of_obs_eq hi hh hobs

end row

/-- The transaction of `setUserLockupTransaction` for the row `j`. -/
theorem does_userLockup {id j : Nat} {row : V → Option ChainSwap} {put : Option ChainSwap → V → V}
    (hr : 𝓡.RowOf (·.chainSwaps) (fun x w => { w with chainSwaps := x }) id row put)
    {incoming : LockupIdentity} {amount : Nat} {status : SwapUpdateEvent}
    {options : ChainSwapRepository.Options}
    (hrest : ∀ o, (j = id → row o.now = none) → B o → C o)
    (hown : j = id → ∀ h r, 𝓡.Inv (𝓡.obs h) → B (𝓡.obs h) → row (𝓡.obs h).now = some r →
      𝓡.Moves ks (𝓡.obs h) ⟨put (some
        (ChainSwapRepository.userLockupWrite r incoming amount status options).2) (𝓡.obs h).now,
        (𝓡.obs h).past⟩ C) :
    𝓡.Does ks B (userLockupAct j incoming amount status options) fun _ => C := by
  refine does_of_moves (fun t w ω b w' he => ?_) fun t h ω b w hi hB ha he => ?_
  · simp only [userLockupAct] at he
    split at he <;> cases he <;> rfl
  · change 𝓡.Moves ks (𝓡.obs h) (𝓡.obs (h.record t .other ω w)) C
    rw [Guarded.obs_changed 𝓡.relevant_other]
    simp only [userLockupAct] at he
    split at he
    · rename_i hnone
      cases he
      refine moves_refl hi (hrest _ (fun hj => ?_) hB)
      have hview := hr.row_view h.world
      rw [← hj, hnone] at hview
      exact hview
    · rename_i r hsome
      cases he
      rw [hr.view_modify]
      by_cases hj : j = id
      · have hrow : row (𝓡.view h.world) = some r := by rw [hr.row_view, ← hj, hsome]
        rw [if_pos hj, hrow]
        exact hown hj h r hi hB hrow
      · rw [if_neg hj]
        exact moves_refl hi (hrest _ (fun he => absurd he hj) hB)

/-- The view is the row. -/
theorem rowOf_self {T : Type} {𝓡 : Rules K (Option T)} {get : World → Table T}
    {set : Table T → World → World} {id : Nat} (hv : ∀ w, 𝓡.view w = (get w).get id)
    (hset : ∀ w x, get (set x w) = x) (hlocks : ∀ w x, (set x w).locks = w.locks) :
    𝓡.RowOf get set id (fun v => v) fun x _ => x where
  row_view := hv
  view_set w x := by rw [hv, hset]
  put_row _ := rfl
  locks_set := hlocks

end Rules

/-! ## The three tables -/

abbrev setReverseSwaps (x : Table ReverseSwap) (w : World) : World := { w with reverseSwaps := x }
abbrev setChainSwaps (x : Table ChainSwap) (w : World) : World := { w with chainSwaps := x }
abbrev setSwaps (x : Table Swap) (w : World) : World := { w with swaps := x }

end Boltz

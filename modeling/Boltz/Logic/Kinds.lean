import Boltz.Logic.Locked

/-!
# Statements about one row

A `RowLogic` is a statement about one swap that sees its row, or a little more, and some labels of
its kind, and that uses the lock of the kind. What the other kinds of swaps do is framed once here.
-/

namespace Boltz

open Async SwapUpdateEvent

abbrev Seen (V : Type) := Obs V Label World Answer
abbrev RowObs (T : Type) := Seen (Option T)

structure RowLogic (V : Type) (isKind : Label → Bool) where
  relevant : Label → Bool
  allow : Label → Nat → History → Answer → Bool
  Inv : Seen V → Prop
  Res : Seen V → Prop
  Keep : Seen V → Seen V → Prop
  Any : Seen V → Seen V → Prop
  keep_refl : ∀ o, Keep o o
  keep_trans : ∀ {o₁ o₂ o₃}, Keep o₁ o₂ → Keep o₂ o₃ → Keep o₁ o₃
  any_refl : ∀ o, Any o o
  any_trans : ∀ {o₁ o₂ o₃}, Any o₁ o₂ → Any o₂ o₃ → Any o₁ o₃
  res_keep : ∀ {o o'}, Keep o o' → Res o → Res o'
  kind : ∀ l, relevant l = true → isKind l = true
  other : relevant .other = false

/-- The logic over a view of the state and the lock of its rows. -/
def RowLogic.guarded {V : Type} {isKind : Label → Bool} (𝓢 : RowLogic V isKind)
    (view : World → V) (lock : Lock) : Guarded Unit V Label World Answer where
  holder w _ := w.locks lock
  view := view
  relevant := 𝓢.relevant
  allow := 𝓢.allow
  Inv := 𝓢.Inv
  Res _ := 𝓢.Res
  Keep _ := 𝓢.Keep
  Any := 𝓢.Any
  keep_refl _ := 𝓢.keep_refl
  keep_trans := 𝓢.keep_trans
  any_refl := 𝓢.any_refl
  any_trans := 𝓢.any_trans
  res_keep := 𝓢.res_keep

/-- Labels of two kinds are not about a swap. -/
theorem Label.eq_other_of_reverse_chain {l : Label} (hr : l.isReverse = true)
    (hc : l.isChain = true) : l = .other := by
  cases l <;> simp_all [Label.isReverse, Label.isChain]

theorem Label.eq_other_of_reverse_submarine {l : Label} (hr : l.isReverse = true)
    (hs : l.isSubmarine = true) : l = .other := by
  cases l <;> simp_all [Label.isReverse, Label.isSubmarine]

theorem Label.eq_other_of_chain_submarine {l : Label} (hc : l.isChain = true)
    (hs : l.isSubmarine = true) : l = .other := by
  cases l <;> simp_all [Label.isChain, Label.isSubmarine]

namespace RowLogic

variable {V : Type} {isKind isOther : Label → Bool}

/-- A label of another kind is not seen. -/
theorem irrelevant (𝓢 : RowLogic V isKind)
    (hdisj : ∀ {l}, isKind l = true → isOther l = true → l = .other) (l : Label)
    (hl : isOther l = true) : 𝓢.relevant l = false := by
  cases hrel : 𝓢.relevant l with
  | false => rfl
  | true =>
    have hother := hdisj (𝓢.kind l hrel) hl
    rw [hother, 𝓢.other] at hrel
    cases hrel

theorem irrelevant_of_not (𝓢 : RowLogic V isKind) {l : Label} (hl : isKind l = false) :
    𝓢.relevant l = false := by
  cases hrel : 𝓢.relevant l with
  | false => rfl
  | true => rw [𝓢.kind l hrel] at hl; cases hl

end RowLogic

/-! ## Reverse swaps -/

def reverseRules (𝓢 : RowLogic (Option ReverseSwap) Label.isReverse) (id : Nat) :
    Rules Unit (Option ReverseSwap) where
  toGuarded := 𝓢.guarded (·.reverseSwaps.get id) .reverseSwap
  lock _ := .reverseSwap
  lock_inj _ _ _ := rfl
  holder_eq _ _ := rfl
  lock_helper _ := rfl
  view_locks _ _ := rfl
  view_aside _ _ h := by obtain ⟨_, _, _, rfl⟩ := h; rfl
  relevant_other := 𝓢.other

namespace reverseRules

variable {𝓢 : RowLogic (Option ReverseSwap) Label.isReverse} {id : Nat}

theorem row : (reverseRules 𝓢 id).RowOf (·.reverseSwaps) setReverseSwaps id (fun v => v)
    fun x _ => x :=
  Rules.rowOf_self (fun _ => rfl) (fun _ _ => rfl) fun _ _ => rfl

theorem ignoresSubmarine : (reverseRules 𝓢 id).IgnoresSubmarine where
  view _ _ _ _ := rfl
  labels := 𝓢.irrelevant Label.eq_other_of_reverse_submarine
  lock _ := by simp [reverseRules]

theorem ignoresChain : (reverseRules 𝓢 id).IgnoresChain where
  view _ _ := rfl
  labels := 𝓢.irrelevant Label.eq_other_of_reverse_chain
  lock _ := by simp [reverseRules]
  refundLock _ := by simp [reverseRules]

theorem ignoresClaims : (reverseRules 𝓢 id).IgnoresClaims where
  view _ _ := rfl
  lock _ := by simp [reverseRules, Rules.claimKeys]
  sign _ := 𝓢.irrelevant_of_not rfl
  broadcast _ := 𝓢.irrelevant_of_not rfl

theorem base : Base (reverseRules 𝓢 id).FreeAct :=
  Rules.base_of_ignores ignoresClaims (fun _ _ => rfl) fun _ _ => rfl

theorem quiet_holds : Holds fun a => (reverseRules 𝓢 id).Quiet a :=
  Rules.quiet_holds fun _ _ => rfl

theorem quiet_refunds : Refunds fun a => (reverseRules 𝓢 id).Quiet a :=
  Rules.quiet_refunds fun _ _ => rfl

theorem refunds : Refunds ((reverseRules 𝓢 id).KeepsRes ()) := Rules.within_keepsRes quiet_refunds

theorem safe_start (hs : SharedTasks (reverseRules 𝓢 id).SafeTask)
    (hr : ReverseTasks (reverseRules 𝓢 id).SafeTask)
    (hpaid : ∀ swapId, (reverseRules 𝓢 id).logic.Safe (invoicePaidHandler swapId)) (e : Entry) :
    (reverseRules 𝓢 id).logic.Safe (start e) :=
  Rules.safe_start_reverse base ignoresClaims.session ignoresSubmarine ignoresChain hs hr hpaid e

end reverseRules

/-! ## Chain swaps -/

/-- A view of the chain swaps and of the outputs that pay to them. -/
structure OfChain {V : Type} (view : World → V) : Prop where
  congr : ∀ {w w'}, w'.chainSwaps = w.chainSwaps → w'.lockupOutput = w.lockupOutput →
    view w' = view w

theorem ofChain_row (id : Nat) : OfChain fun w => w.chainSwaps.get id :=
  ⟨fun h _ => by rw [h]⟩

def chainRules {V : Type} (𝓢 : RowLogic V Label.isChain) {view : World → V} (hv : OfChain view) :
    Rules Unit V where
  toGuarded := 𝓢.guarded view .chainSwap
  lock _ := .chainSwap
  lock_inj _ _ _ := rfl
  holder_eq _ _ := rfl
  lock_helper _ := rfl
  view_locks _ _ := hv.congr rfl rfl
  view_aside _ _ h := by obtain ⟨_, _, _, rfl⟩ := h; exact hv.congr rfl rfl
  relevant_other := 𝓢.other

namespace chainRules

variable {V : Type} {𝓢 : RowLogic V Label.isChain} {view : World → V} {hv : OfChain view}

theorem row {𝓢 : RowLogic (Option ChainSwap) Label.isChain} {id : Nat} :
    (chainRules 𝓢 (ofChain_row id)).RowOf (·.chainSwaps) setChainSwaps id (fun v => v)
      fun x _ => x :=
  Rules.rowOf_self (fun _ => rfl) (fun _ _ => rfl) fun _ _ => rfl

theorem ignoresSubmarine : (chainRules 𝓢 hv).IgnoresSubmarine where
  view _ _ _ _ := hv.congr rfl rfl
  labels := 𝓢.irrelevant Label.eq_other_of_chain_submarine
  lock _ := by simp [chainRules]

theorem ignoresReverse : (chainRules 𝓢 hv).IgnoresReverse where
  view _ _ := hv.congr rfl rfl
  labels := 𝓢.irrelevant fun hc hr => Label.eq_other_of_reverse_chain hr hc
  lock _ := by simp [chainRules]

theorem ignoresClaims : (chainRules 𝓢 hv).IgnoresClaims where
  view _ _ := hv.congr rfl rfl
  lock _ := by simp [chainRules, Rules.claimKeys]
  sign _ := 𝓢.irrelevant_of_not rfl
  broadcast _ := 𝓢.irrelevant_of_not rfl

theorem base : Base (chainRules 𝓢 hv).FreeAct :=
  Rules.base_of_ignores ignoresClaims (fun _ _ => hv.congr rfl rfl) fun _ _ => hv.congr rfl rfl

theorem quiet_holds : Holds fun a => (chainRules 𝓢 hv).Quiet a := by
  refine Rules.quiet_holds fun _ _ => ?_
  exact hv.congr rfl rfl

theorem quiet_refunds : Refunds fun a => (chainRules 𝓢 hv).Quiet a := by
  refine Rules.quiet_refunds fun _ _ => ?_
  exact hv.congr rfl rfl

theorem refunds : Refunds ((chainRules 𝓢 hv).KeepsRes ()) := Rules.within_keepsRes quiet_refunds

theorem refundLocks : Locks (chainRules 𝓢 hv).FreeAct .refundSignature :=
  Rules.free_locks fun _ => by simp [chainRules]

/-- A claim of the server, outside the lock. -/
theorem claimActs
    (hclaimed : ∀ (swap : Instance ChainSwap) preimage minerFee, (chainRules 𝓢 hv).logic.Free
      (chainUpdateAct swap (swap.row.claimed preimage minerFee) (.settleChainSwap swap.id)))
    (hpending : ∀ (swap : Instance ChainSwap) preimage, (chainRules 𝓢 hv).logic.Free
      (chainUpdateAct swap (swap.row.claimPending preimage) (.settleChainSwap swap.id))) :
    ClaimActs (chainRules 𝓢 hv).FreeAct :=
  claimActs_of_chain base (Rules.free_of_quiet_frame ignoresSubmarine.quiet) hclaimed hpending

/-- A claim of the server, with the lock. -/
theorem settleActs
    (hclaimed : ∀ (swap : Instance ChainSwap) preimage minerFee, (chainRules 𝓢 hv).KeepsRes ()
      (chainUpdateAct swap (swap.row.claimed preimage minerFee) (.settleChainSwap swap.id)))
    (hpending : ∀ (swap : Instance ChainSwap) preimage, (chainRules 𝓢 hv).KeepsRes ()
      (chainUpdateAct swap (swap.row.claimPending preimage) (.settleChainSwap swap.id))) :
    ClaimActs ((chainRules 𝓢 hv).KeepsRes ()) where
  plain := Rules.plain_keepsRes
  claims := Rules.within_keepsRes ignoresClaims.quiet
  locks := ignoresClaims.keepsRes
  claimed swap preimage minerFee := by
    cases swap with
    | submarine swap => exact (SubmarineFrame.update ignoresSubmarine.quiet rfl _ _).does
    | chain swap => exact hclaimed swap preimage minerFee
  pending swap preimage := by
    cases swap with
    | submarine swap => exact (SubmarineFrame.update ignoresSubmarine.quiet rfl _ _).does
    | chain swap => exact hpending swap preimage

theorem safe_start (hca : ClaimActs (chainRules 𝓢 hv).FreeAct)
    (hs : SharedTasks (chainRules 𝓢 hv).SafeTask) (hc : ChainTasks (chainRules 𝓢 hv).SafeTask)
    (e : Entry) (he : ChainEntry (chainRules 𝓢 hv).SafeTask e) :
    (chainRules 𝓢 hv).logic.Safe (start e) :=
  Rules.safe_start_chain base ignoresClaims.session hca ignoresSubmarine ignoresReverse hs hc e he

end chainRules

/-! ## Submarine swaps -/

/-- A view of the submarine swaps and of the refunds that were allowed. -/
structure OfSubmarine {V : Type} (view : World → V) : Prop where
  congr : ∀ {w w'}, w'.swaps = w.swaps → w'.allowedRefunds = w.allowedRefunds → view w' = view w

theorem ofSubmarine_row (id : Nat) : OfSubmarine fun w => w.swaps.get id :=
  ⟨fun h _ => by rw [h]⟩

def swapRules {V : Type} (𝓢 : RowLogic V Label.isSubmarine) {view : World → V}
    (hv : OfSubmarine view) : Rules Unit V where
  toGuarded := 𝓢.guarded view .swap
  lock _ := .swap
  lock_inj _ _ _ := rfl
  holder_eq _ _ := rfl
  lock_helper _ := rfl
  view_locks _ _ := hv.congr rfl rfl
  view_aside _ _ h := by obtain ⟨_, _, _, rfl⟩ := h; exact hv.congr rfl rfl
  relevant_other := 𝓢.other

namespace swapRules

variable {V : Type} {𝓢 : RowLogic V Label.isSubmarine} {view : World → V} {hv : OfSubmarine view}

theorem ignoresChain : (swapRules 𝓢 hv).IgnoresChain where
  view _ _ := hv.congr rfl rfl
  labels := 𝓢.irrelevant fun hs hc => Label.eq_other_of_chain_submarine hc hs
  lock _ := by simp [swapRules]
  refundLock _ := by simp [swapRules]

theorem ignoresReverse : (swapRules 𝓢 hv).IgnoresReverse where
  view _ _ := hv.congr rfl rfl
  labels := 𝓢.irrelevant fun hs hr => Label.eq_other_of_reverse_submarine hr hs
  lock _ := by simp [swapRules]

theorem ignoresClaims : (swapRules 𝓢 hv).IgnoresClaims where
  view _ _ := hv.congr rfl rfl
  lock _ := by simp [swapRules, Rules.claimKeys]
  sign _ := 𝓢.irrelevant_of_not rfl
  broadcast _ := 𝓢.irrelevant_of_not rfl

theorem base : Base (swapRules 𝓢 hv).FreeAct :=
  Rules.base_of_ignores ignoresClaims (fun _ _ => hv.congr rfl rfl) fun _ _ => hv.congr rfl rfl

theorem shared : SharedTasks (swapRules 𝓢 hv).SafeTask :=
  Rules.sharedTasks_of_frames ignoresReverse ignoresChain

end swapRules

def submarineRules (𝓢 : RowLogic (Option Swap) Label.isSubmarine) (id : Nat) :
    Rules Unit (Option Swap) where
  toGuarded := 𝓢.guarded (·.swaps.get id) .swap
  lock _ := .swap
  lock_inj _ _ _ := rfl
  holder_eq _ _ := rfl
  lock_helper _ := rfl
  view_locks _ _ := rfl
  view_aside _ _ h := by obtain ⟨_, _, _, rfl⟩ := h; rfl
  relevant_other := 𝓢.other

namespace submarineRules

variable {𝓢 : RowLogic (Option Swap) Label.isSubmarine} {id : Nat}

theorem eq_swapRules : submarineRules 𝓢 id = swapRules 𝓢 (ofSubmarine_row id) := rfl

theorem row : (submarineRules 𝓢 id).RowOf (·.swaps) setSwaps id (fun v => v) fun x _ => x :=
  Rules.rowOf_self (fun _ => rfl) (fun _ _ => rfl) fun _ _ => rfl

theorem ignoresChain : (submarineRules 𝓢 id).IgnoresChain :=
  eq_swapRules ▸ swapRules.ignoresChain

theorem ignoresReverse : (submarineRules 𝓢 id).IgnoresReverse :=
  eq_swapRules ▸ swapRules.ignoresReverse

theorem ignoresClaims : (submarineRules 𝓢 id).IgnoresClaims :=
  eq_swapRules ▸ swapRules.ignoresClaims

theorem base : Base (submarineRules 𝓢 id).FreeAct :=
  Rules.base_of_ignores ignoresClaims (fun _ _ => rfl) fun _ _ => rfl

theorem shared : SharedTasks (submarineRules 𝓢 id).SafeTask :=
  Rules.sharedTasks_of_frames ignoresReverse ignoresChain

theorem safe_start (hclaims : ClaimActs (submarineRules 𝓢 id).FreeAct)
    (htasks : (∀ invoice,
      (submarineRules 𝓢 id).logic.Safe (LightningNursery.htlcAccepted invoice)) →
        SubmarineTasks (submarineRules 𝓢 id).SafeTask) (e : Entry) :
    (submarineRules 𝓢 id).logic.Safe (start e) := by
  refine Rules.safe_start_submarine base ignoresClaims.session hclaims ignoresChain ignoresReverse
    shared htasks e fun swapId _ => ?_
  refine Rules.closed (uses_allowRefund Rules.free_plain (fun _ => ?_) swapId)
  exact Guarded.Quiet.free (Rules.quiet_write 𝓢.other fun _ => ⟨rfl, rfl⟩)

end submarineRules

end Boltz

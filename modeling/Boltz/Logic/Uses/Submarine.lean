import Boltz.Logic.Uses.Chain
import Boltz.Logic.Uses.Claims
import Boltz.Logic.Uses.Payments

/-!
# Acts of the settlement of swaps and of the tasks about submarine swaps
-/

namespace Boltz

open Async SwapUpdateEvent

variable {P : OnActs} {C : M Unit → Prop}

/-! ## Claims of the server -/

/-- What a claim of the server is made of. -/
structure ClaimActs (P : OnActs) : Prop where
  plain : Plain P
  claims : Claims P
  locks : ClaimLocks P
  claimed : ∀ swap preimage minerFee, P (claimedAct swap preimage minerFee)
  pending : ∀ swap preimage, P (claimPendingAct swap preimage)

theorem uses_claimUtxo (hc : ClaimActs P) (swap : ClaimSwap) (preimage : Nat) :
    (claimUtxo swap preimage).Uses P C := by
  have hp := hc.plain
  refine .bind (uses_deferClaim hp hc.claims hc.locks hc.claimed (hc.pending _ _)) fun deferred => ?_
  split
  · trivial
  · refine .bind (uses_external hp) fun _ => .bind (uses_ask (hp.ask _)) fun _ => ?_
    exact .bind (uses_external hp) fun _ => uses_storeClaimed (hc.claimed _ _ _)

theorem uses_claimVtxo (hc : ClaimActs P) (swap : ClaimSwap) (preimage : Nat) :
    (claimVtxo swap preimage).Uses P C :=
  .bind (uses_external hc.plain) fun _ => uses_storeClaimed (hc.claimed _ _ _)

theorem uses_claim (hc : ClaimActs P) (swap : ClaimSwap) (preimage : Nat) :
    (claim swap preimage).Uses P C := by
  have hp := hc.plain
  unfold claim
  split
  · exact .bind (uses_external hp) fun _ => uses_claimUtxo hc swap preimage
  · refine .bind (uses_external hp) fun _ => .bind (uses_external hp) fun _ => ?_
    refine .bind (uses_external hp) fun _ => .bind (uses_ask (hp.ask _)) fun _ => ?_
    exact uses_storeClaimed (hc.claimed _ _ _)
  · exact uses_claimVtxo hc swap preimage

/-- What `attemptSettleSwap` does once the swap is fetched again. -/
def settleFetched (preimage : Option Nat) : Option ClaimSwap → M Unit
  | none => pure ()
  | some swap => do
    match ← preimageForSettlement swap preimage with
    | (_, none) => pure ()
    | (swap, some preimage) =>
      if ← DeferredClaimer.deferClaim swap preimage then pure () else claim swap preimage

theorem attemptSettleSwap_eq (swap : ClaimSwap) (preimage : Option Nat) :
    attemptSettleSwap swap preimage =
      fetchSwapForSettlement swap >>= settleFetched preimage := by
  unfold attemptSettleSwap
  congr 1

theorem uses_settleFetched (hc : ClaimActs P) (swap : ClaimSwap) {preimage : Option Nat}
    (hpre : (preimageForSettlement swap preimage).Uses P C) :
    (settleFetched preimage (some swap)).Uses P C := by
  refine .bind hpre fun r => ?_
  obtain ⟨swap, preimage⟩ := r
  cases preimage with
  | none => trivial
  | some preimage =>
    refine .bind (uses_deferClaim hc.plain hc.claims hc.locks hc.claimed (hc.pending _ _))
      fun deferred => ?_
    split
    · trivial
    · exact uses_claim hc swap preimage

theorem uses_settleChain (hc : ClaimActs P) (swap : Instance ChainSwap) (preimage : Option Nat) :
    (attemptSettleSwap (.chain swap) preimage).Uses P C := by
  rw [attemptSettleSwap_eq]
  refine ⟨hc.plain.read _, fun fetched => ?_⟩
  change (settleFetched preimage ((fetched.filter _).map .chain)).Uses P C
  cases fetched.filter fun f => !isSettled f.row.status with
  | none => trivial
  | some swap =>
    exact uses_settleFetched hc (.chain swap) trivial

theorem uses_settleSubmarine (hc : ClaimActs P) (hh : Holds P) (hpay : Payments P)
    (ha : ∀ id, PaymentActs P C id)
    (hread : ∀ id {β : Type} (f : World → β), P (readAct (.fetchForPayment id) f))
    (swap : Instance Swap) (preimage : Option Nat) :
    (attemptSettleSwap (.submarine swap) preimage).Uses P C := by
  rw [attemptSettleSwap_eq]
  refine ⟨hread _ _, fun fetched => ?_⟩
  change (settleFetched preimage ((fetched.filter _).map .submarine)).Uses P C
  cases fetched.filter fun f => !isSettled f.row.status with
  | none => trivial
  | some swap =>
    refine uses_settleFetched hc (.submarine swap) ?_
    exact .bind (uses_payInvoice hc.plain hh hpay ha swap) fun _ => trivial

/-! ## Claims of chain swaps by the user -/

theorem uses_chainSwapClaimed (hc : ClaimActs P) (hlock : Locks P .chainSwap)
    (swap : Instance ChainSwap) (preimage : Nat) : (chainSwapClaimed swap preimage).Uses P C :=
  uses_withLock hlock (.bind (uses_settleChain hc swap preimage) fun _ =>
    uses_removeFromClaimable hc.claims hc.locks.chainSwapsToClaim _)

theorem uses_chainSwapClaimedEvm (hc : ClaimActs P) (hlock : Locks P .chainSwap)
    (swap : Instance ChainSwap) (preimage : Nat) : (chainSwapClaimedEvm swap preimage).Uses P C :=
  uses_withLock hlock (uses_settleChain hc swap preimage)

theorem uses_checkChainSwapClaim (hp : Plain P) (hC : ∀ swap p, C (chainSwapClaimed swap p))
    (input : UtxoNursery.SpentInput) : (UtxoNursery.checkChainSwapClaim input).Uses P C := by
  refine .bind (uses_read (hp.read _)) fun swap => ?_
  split
  · trivial
  · split
    · exact uses_spawn (hC _ _)
    · trivial

theorem uses_checkSwapClaims (hp : Plain P) (hC : ∀ swap p, C (chainSwapClaimed swap p))
    (hR : ∀ input, C (UtxoNursery.checkReverseSwapClaim input)) (transactionId : Nat)
    (inputs : List UtxoNursery.SpentInput) :
    (UtxoNursery.checkSwapClaims transactionId inputs).Uses P C := by
  refine .bind (uses_read (hp.read _)) fun refund => ?_
  split
  · trivial
  · exact .forEach fun input => .bind (uses_spawn (hR input)) fun _ =>
      uses_checkChainSwapClaim hp hC input

theorem uses_evmChainClaim (hp : Plain P) (hC : ∀ swap p, C (chainSwapClaimedEvm swap p))
    (preimageHash preimage : Nat) : (evmChainClaim preimageHash preimage).Uses P C := by
  refine .bind (uses_read (hp.read _)) fun swap => ?_
  split
  · trivial
  · exact .when _ (uses_spawn (hC _ _))

theorem uses_arkChainClaim (hp : Plain P) (hC : ∀ swap p, C (chainSwapClaimed swap p))
    (txid vout preimage : Nat) : (arkChainClaim txid vout preimage).Uses P C := by
  refine .bind (uses_read (hp.read _)) fun swap => ?_
  split
  · trivial
  · exact .bind (uses_ask (hp.ask _)) fun _ => .when _ (uses_spawn (hC _ _))

/-! ## Lockups of submarine swaps -/

/-- What the handlers of a lockup of a submarine swap are made of. -/
structure PayerActs (P : OnActs) (C : M Unit → Prop) : Prop where
  claim : ClaimActs P
  holds : Holds P
  payments : Payments P
  pay : ∀ id, PaymentActs P C id
  fetch : ∀ id {β : Type} (f : World → β), P (readAct (.fetchForPayment id) f)
  rate : ∀ (swap : Instance Swap) rate,
    P (swapUpdateAct swap { swap.row with rate := some rate } .other)
  lock : Locks P .swap

theorem uses_setSwapRate (hp : Plain P)
    (hw : ∀ (swap : Instance Swap) rate,
      P (swapUpdateAct swap { swap.row with rate := some rate } .other))
    (swap : Instance Swap) : (setSwapRate swap).Uses P C :=
  .when _ (.bind (uses_ask (hp.ask _)) fun _ => .bind (uses_update_swap (hw _ _)) fun _ => trivial)

theorem uses_nurserySwapLockup (ha : PayerActs P C) {stops : SwapUpdateEvent → Bool}
    {claim : ClaimSwap → Nat → M Unit} (hclaim : ∀ swap preimage, (claim swap preimage).Uses P C)
    (id transactionId vout : Nat) :
    (nurserySwapLockup stops claim id transactionId vout).Uses P C := by
  have hc := ha.claim
  refine uses_withLock ha.lock (.bind (uses_read (ha.fetch _ _)) fun swap => ?_)
  split
  · trivial
  split
  · trivial
  split
  · trivial
  split
  · trivial
  split
  · exact uses_setSwapRate hc.plain ha.rate _
  refine .bind (uses_payInvoice hc.plain ha.holds ha.payments ha.pay _) fun r => ?_
  split
  · trivial
  · exact hclaim _ _

theorem uses_evmSwapLockup (ha : PayerActs P C) (id transactionHash logIndex : Nat) :
    (evmSwapLockup id transactionHash logIndex).Uses P C := by
  have hc := ha.claim
  refine uses_withLock ha.lock (.bind (uses_read (hc.plain.read _)) fun swap => ?_)
  split
  · trivial
  split
  · trivial
  split
  · trivial
  split
  · exact uses_setSwapRate hc.plain ha.rate _
  split
  · trivial
  · exact uses_settleSubmarine hc ha.holds ha.payments ha.pay ha.fetch _ _

theorem uses_retryPendingInvoices (ha : PayerActs P C) : retryPendingInvoices.Uses P C :=
  uses_withLock ha.lock (.bind (uses_read (ha.claim.plain.read _)) fun _ => .forEach fun _ =>
    uses_settleSubmarine ha.claim ha.holds ha.payments ha.pay ha.fetch _ _)

theorem uses_swapLockupFailed (hlock : Locks P .swap) {swap : Instance Swap}
    {reason : SwapError}
    (hread : ∀ {β : Type} (f : World → β), P (readAct (.lockupFailed swap.id) f))
    (hw : P (swapUpdateAct swap (swap.row.withStatus transactionLockupFailed (some reason))
      .other)) : (swapLockupFailed swap reason).Uses P C := by
  refine uses_withLock hlock (.bind (uses_read (hread _)) fun loaded => ?_)
  split
  · trivial
  split
  · trivial
  · exact .bind (uses_update_swap hw) fun _ => trivial

theorem uses_swapZeroConfRejected (hp : Plain P) (hlock : Locks P .swap)
    (hw : ∀ (swap : Instance Swap) rate,
      P (swapUpdateAct swap { swap.row with rate := some rate } .other))
    (swap : Instance Swap) : (swapZeroConfRejected swap).Uses P C :=
  uses_withLock hlock (.when _ (uses_setSwapRate hp hw swap))

/-- The transaction of `setLockupTransaction`. -/
def swapLockupAct (id : Nat) (incoming : LockupIdentity) (amount : Nat)
    (status : SwapUpdateEvent) : Act Label World Answer LockupWriteOutcome where
  label := .other
  run := fun _ w _ => match w.swaps.get id with
    | none => some (LockupWriteOutcome.rejected, w)
    | some row =>
      let r := SwapRepository.lockupWrite row incoming amount status
      some (r.1, { w with swaps := w.swaps.modify id fun _ => r.2 })

theorem uses_setLockupTransaction (hp : Plain P) {swap : Instance Swap}
    {incoming : LockupIdentity} {amount : Nat} {status : SwapUpdateEvent}
    (hw : P (swapLockupAct swap.id incoming amount status)) :
    (SwapRepository.setLockupTransaction swap incoming amount status).Uses P C :=
  .bind (uses_call hw) fun _ => .bind (uses_read (hp.read _)) fun _ => trivial

/-- The transaction of `setZeroConfRejected`. -/
def swapZeroConfRejectedAct (id : Nat) (incoming : LockupIdentity) :
    Act Label World Answer Unit :=
  writeAct .other fun w =>
    { w with swaps := w.swaps.modify id (SwapRepository.zeroConfRejectedWrite · incoming) }

/-- The tasks that a lockup of a submarine swap starts, and what its checks write. -/
structure SwapCheckActs (P : OnActs) (C : M Unit → Prop) : Prop where
  plain : Plain P
  lockup : ∀ id incoming amount status,
    status ∈ [transactionConfirmed, transactionMempool, transactionLockupFailed] →
      P (swapLockupAct id incoming amount status)
  zeroConfRejected : ∀ id incoming, P (swapZeroConfRejectedAct id incoming)
  refundAddress : ∀ (swap : Instance Swap) address,
    P (swapUpdateAct swap { swap.row with refundAddress := some address } .other)
  failed : ∀ swap reason, C (swapLockupFailed swap reason)
  rejected : ∀ swap, C (swapZeroConfRejected swap)
  utxo : ∀ id transactionId vout, C (utxoSwapLockup id transactionId vout)
  ark : ∀ id transactionId vout, C (arkSwapLockup id transactionId vout)
  evm : ∀ id transactionHash logIndex, C (evmSwapLockup id transactionHash logIndex)

theorem uses_checkSwap (ha : SwapCheckActs P C) (address transactionId : Nat)
    (status : TransactionStatus) :
    (UtxoNursery.checkSwap address transactionId status).Uses P C := by
  have hp := ha.plain
  refine .bind (uses_read (hp.read _)) fun swap => ?_
  split
  · trivial
  refine .bind (uses_read (hp.read _)) fun output => ?_
  split
  · trivial
  dsimp only
  split
  · trivial
  refine .bind (uses_setLockupTransaction hp (ha.lockup _ _ _ _ ?_)) fun r => ?_
  · split <;> simp
  obtain ⟨outcome, updated⟩ := r
  dsimp only
  split
  · trivial
  split
  · trivial
  refine .bind ?_ fun reason => ?_
  · unfold checkExpectedAmount
    dsimp only
    split
    · trivial
    split
    · trivial
    · exact .bind (uses_ask (hp.ask _)) fun _ => trivial
  split
  · exact uses_spawn (ha.failed _ _)
  refine .bind (uses_ask (hp.ask _)) fun _ => ?_
  split
  · exact uses_spawn (ha.failed _ _)
  split
  · exact uses_spawn (ha.utxo _ _ _)
  refine .bind (uses_rejectsZeroConf hp _ _) fun _ => ?_
  split
  · refine .bind (.bind (uses_write (ha.zeroConfRejected _ _)) fun _ => ?_) fun _ => ?_
    · exact .bind (uses_read (hp.read _)) fun _ => trivial
    · exact .when _ (uses_spawn (ha.rejected _))
  · exact uses_spawn (ha.utxo _ _ _)

theorem uses_swapLockupEvent (ha : SwapCheckActs P C) (preimageHash : Nat) (values : EvmLockup) :
    (EthereumNursery.swapLockupEvent preimageHash values).Uses P C := by
  have hp := ha.plain
  refine .bind (uses_read (hp.read _)) fun swap => ?_
  split
  · trivial
  refine .when _ (uses_withLock (hp.locks rfl) ?_)
  dsimp only
  split
  · trivial
  refine .bind (uses_validateLockup hp _ _ _) fun reason => ?_
  refine .bind (uses_setLockupTransaction hp (ha.lockup _ _ _ _ ?_)) fun r => ?_
  · split <;> simp
  obtain ⟨outcome, updated⟩ := r
  dsimp only
  split
  · trivial
  refine .bind ?_ fun updated => ?_
  · unfold EthereumNursery.setMissingRefundAddress
    split
    · exact uses_update_swap (ha.refundAddress _ _)
    · trivial
  split
  · exact .when _ (uses_spawn (ha.failed _ _))
  · refine .bind ?_ fun updated => uses_spawn (ha.evm _ _ _)
    unfold EthereumNursery.setOtherRefundAddress
    split
    · exact uses_update_swap (ha.refundAddress _ _)
    · trivial

theorem uses_checkSubmarineLockup (ha : SwapCheckActs P C) (vHtlc : CreatedVHtlc) :
    (ArkNursery.checkSubmarineLockup vHtlc).Uses P C := by
  have hp := ha.plain
  refine .bind (uses_read (hp.read _)) fun swap => ?_
  split
  · trivial
  dsimp only
  split
  · trivial
  refine .bind (uses_setLockupTransaction hp (ha.lockup _ _ _ _ (by simp))) fun r => ?_
  obtain ⟨outcome, updated⟩ := r
  dsimp only
  split
  · trivial
  split
  · exact uses_spawn (ha.failed _ _)
  refine .bind (uses_ask (hp.ask _)) fun _ => ?_
  split
  · exact uses_spawn (ha.failed _ _)
  · exact uses_spawn (ha.ark _ _ _)

/-! ## Expiry and the retry loop -/

theorem uses_swapExpiredHandler (hlock : Locks P .swap) {swap : Instance Swap}
    (hread : ∀ {β : Type} (f : World → β), P (readAct (.expireSwap swap.id) f))
    (hw : P (swapUpdateAct swap (swap.row.withStatus swapExpired (some .onchainHtlcTimedOut))
      .other)) : (swapExpiredHandler swap).Uses P C := by
  refine uses_withLock hlock (.bind (uses_read (hread _)) fun queried => ?_)
  split
  · trivial
  split
  · trivial
  · exact .bind (uses_update_swap hw) fun _ => trivial

theorem uses_checkExpiredSwaps (hp : Plain P) (hC : ∀ swap, C (swapExpiredHandler swap))
    (watches : Currency → Bool) (height : Nat) : (checkExpiredSwaps watches height).Uses P C :=
  .bind (uses_read (hp.read _)) fun _ => .forEach fun swap => .when _ (uses_spawn (hC swap))

theorem uses_pruneStaleSubmarineHolds (hp : Plain P) (hh : Holds P) (swapId : Nat) :
    (pruneStaleSubmarineHolds swapId).Uses P C :=
  .bind (uses_read (hp.read _)) fun _ => .when _ (uses_removeHold hh swapId)

end Boltz

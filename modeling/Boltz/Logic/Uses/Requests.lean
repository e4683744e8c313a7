import Boltz.Logic.Uses.Submarine

/-!
# Acts of the requests of clients
-/

namespace Boltz

open Async SwapUpdateEvent

variable {P : OnActs} {C : M Unit → Prop}

/-! ## Refunds of submarine swaps -/

/-- The acts of a refund signature for the swap, besides the plain ones. -/
structure RefundActs (P : OnActs) (type : SwapType) (id : Nat) : Prop where
  read : ∀ {β : Type} (f : World → β), P (readAct (.signRefund type id) f)
  eligible : P (writeAct (.refundEligible type id) fun w => w)
  signed : P (writeAct (.refundSigned type id) fun w => w)

/-- The write of `setRefundSignatureCreated` for a submarine swap. -/
def swapRefundSignedAct (id : Nat) : Act Label World Answer Unit :=
  writeAct (.setRefundSignatureCreated .submarine id) fun w =>
    { w with swaps := w.swaps.modify id fun s => { s with createdRefundSignature := true } }

def chainRefundSignedAct (id : Nat) : Act Label World Answer Unit :=
  writeAct (.setRefundSignatureCreated .chain id) fun w =>
    { w with
      chainSwaps := w.chainSwaps.modify id fun s => { s with createdRefundSignature := true } }

theorem uses_eligibleForRefund (hp : Plain P) {id : Nat} (ha : RefundActs P .submarine id)
    (backend : Backend) : (MusigSigner.eligibleForRefund id backend).Uses P C := by
  refine .bind (uses_read (ha.read _)) fun swap => ?_
  split
  · trivial
  refine .bind (uses_ask (hp.ask _)) fun _ => .bind (.throwIf _ _) fun _ => ?_
  refine .bind (.throwIf _ _) fun _ => .bind ?_ fun _ => ?_
  · refine .bind ?_ fun reason => ?_
    · unfold MusigSigner.refundNonEligibilityReason
      split
      · trivial
      split
      · trivial
      · exact .bind (uses_ask (hp.ask _)) fun _ => trivial
    · split
      · trivial
      · exact .bind (uses_read (hp.read _)) fun _ => .throwIf _ _
  · exact .bind (uses_mark ha.eligible) fun _ => trivial

theorem uses_signRefund (hp : Plain P) {id : Nat} (ha : RefundActs P .submarine id)
    (hw : P (swapRefundSignedAct id)) : (MusigSigner.signRefund id).Uses P C := by
  refine .bind (uses_eligibleForRefund hp ha _) fun _ => .bind (uses_external hp) fun _ => ?_
  exact .bind (uses_write hw) fun _ => uses_mark ha.signed

theorem uses_signRefundArk (hp : Plain P) {id : Nat} (ha : RefundActs P .submarine id)
    (hw : P (swapRefundSignedAct id)) : (MusigSigner.signRefundArk id).Uses P C := by
  refine .bind (uses_eligibleForRefund hp ha _) fun _ => .bind (uses_external hp) fun _ => ?_
  refine .bind (uses_write hw) fun _ => .bind (uses_external hp) fun _ => uses_mark ha.signed

theorem uses_allowRefund (hp : Plain P)
    (hw : ∀ id, P (writeAct .other fun w => { w with allowedRefunds := id :: w.allowedRefunds }))
    (id : Nat) : (MusigSigner.allowRefund id).Uses P C := by
  refine .bind (uses_read (hp.read _)) fun swap => ?_
  split
  · trivial
  refine .bind (uses_ask (hp.ask _)) fun _ => .bind (.throwIf _ _) fun _ => ?_
  exact uses_write (hw _)

/-! ## Chain swaps -/

theorem uses_signChainRefund (hp : Plain P) (hlock : Locks P .refundSignature) {id : Nat}
    (ha : RefundActs P .chain id) (hw : P (chainRefundSignedAct id)) (backend : Backend) :
    (ChainSwapSigner.signRefund id backend).Uses P C := by
  refine uses_withLock hlock (.bind (uses_read (ha.read _)) fun swap => ?_)
  split
  · trivial
  refine .bind (.throwIf _ _) fun _ => .bind (uses_ask (hp.ask _)) fun _ => ?_
  refine .bind (.throwIf _ _) fun _ => .bind ?_ fun reason => ?_
  · unfold ChainSwapSigner.refundNonEligibilityReason
    split
    · trivial
    split
    · trivial
    · exact .bind (uses_read (hp.read _)) fun _ => trivial
  split
  · trivial
  · refine .bind (uses_mark ha.eligible) fun _ => .bind (uses_external hp) fun _ => ?_
    exact .bind (uses_write hw) fun _ => uses_mark ha.signed

theorem uses_chainDetails (hc : ClaimActs P) (swap : Instance ChainSwap) :
    (ChainSwapSigner.getCooperativeDetails swap).Uses P C := by
  have hp := hc.plain
  refine .bind (uses_ask (hp.ask _)) fun _ => .bind (.throwIf _ _) fun _ => ?_
  refine .bind (.throwIf _ _) fun _ => .bind ?_ fun object => ?_
  · exact uses_withLock hc.locks.chainSwapsToClaim (uses_read (hp.read _))
  · split
    · trivial
    · exact uses_createCoopDetails hp hc.claims _

theorem uses_claimCooperatively (hc : ClaimActs P) (hs : SessionActs P)
    (swap : Instance ChainSwap) (preimage : Nat) :
    (ChainSwapSigner.claimCooperatively swap preimage).Uses P C := by
  have hp := hc.plain
  refine .bind ?_ fun object => ?_
  · exact uses_withLock hc.locks.chainSwapsToClaim (uses_read (hp.read _))
  · split
    · trivial
    refine .bind (uses_read (hp.read _)) fun nonce => ?_
    split
    · trivial
    refine .bind (uses_broadcastCooperativeTransaction hp hs _) fun fee => ?_
    refine .bind (uses_removeFromClaimable hc.claims hc.locks.chainSwapsToClaim _) fun _ => ?_
    exact .bind (uses_update_chain (hc.claimed (.chain swap) _ _)) fun _ => trivial

theorem uses_signClaim (hc : ClaimActs P) (hs : SessionActs P)
    (hpre : ∀ (swap : Instance ChainSwap) preimage,
      P (chainUpdateAct swap { swap.row with preimage := some preimage } .other))
    (swap : Instance ChainSwap) (preimage : Nat) :
    (ChainSwapSigner.signClaim swap preimage).Uses P C := by
  have hp := hc.plain
  refine .bind (.throwIf _ _) fun _ => uses_withLock hc.locks.cooperativeBroadcast ?_
  refine .bind (uses_ask (hp.ask _)) fun _ => .bind (.throwIf _ _) fun _ => ?_
  refine .bind (.when _ ?_) fun _ => uses_external hp
  refine .bind (uses_ask (hp.ask _)) fun _ => .bind (.throwIf _ _) fun _ => ?_
  refine .bind (uses_update_chain (hpre _ _)) fun swap => ?_
  split
  · exact uses_claimCooperatively hc hs swap preimage
  · exact uses_settleChain hc swap preimage

/-- What a check of a user lockup of a chain swap is made of, with these options. -/
structure ChainCheckActs (P : OnActs) (C : M Unit → Prop)
    (options : ChainSwapRepository.Options) : Prop where
  plain : Plain P
  lockup : ∀ id incoming amount status,
    status ∈ [transactionConfirmed, transactionMempool, transactionLockupFailed] →
      P (userLockupAct id incoming amount status options)
  zeroConfRejected : ∀ id incoming, P (zeroConfRejectedAct id incoming)
  tasks : ChainLockupTasks C

theorem uses_checkLockupAgain
    (ha : ChainCheckActs P C { allowLockupFailedUpdate := true }) (swap : Instance ChainSwap)
    (values : EvmLockup) (status : TransactionStatus) :
    (Renegotiator.checkLockupAgain swap values status).Uses P C := by
  unfold Renegotiator.checkLockupAgain
  dsimp only
  split
  · refine uses_checkChainSwapTransaction ha.plain ha.tasks (fun _ _ _ status hs => ?_)
      ha.zeroConfRejected _ _
    exact ha.lockup _ _ _ _ (by rcases hs with rfl | rfl <;> simp)
  · refine uses_checkChainSwapLockupEvm ha.plain ha.tasks (fun _ _ status _ hs => ?_) _
    exact ha.lockup _ _ _ _ (by rcases hs with rfl | rfl <;> simp)
  · exact uses_checkChainSwapLockupArk ha.plain ha.tasks
      (fun _ _ _ _ => ha.lockup _ _ _ _ (by simp)) _

/-- The row after `setExpectedAmounts`. -/
def ChainSwap.withExpectedAmounts (fee userLockAmount serverLockAmount : Nat)
    (acceptZeroConf : Bool) (s : ChainSwap) : ChainSwap :=
  { s with
    fee := some fee
    failureReason := none
    acceptZeroConf
    receivingData := { s.receivingData with expectedAmount := userLockAmount }
    sendingData := { s.sendingData with expectedAmount := serverLockAmount } }

theorem uses_validateQuoteEligibility (hp : Plain P) (swap : ChainSwap) :
    (Renegotiator.validateEligibility swap).Uses P C := by
  refine .bind (.throwIf _ _) fun _ => .bind (.throwIf _ _) fun _ => ?_
  exact .bind (.throwIf _ _) fun _ => .bind (uses_ask (hp.ask _)) fun _ => .throwIf _ _

theorem uses_acceptQuote (ha : ChainCheckActs P C { allowLockupFailedUpdate := true })
    (hlock : Locks P .refundSignature)
    (hw : ∀ (swap : Instance ChainSwap) fee user server zeroConf,
      P (chainUpdateAct swap (swap.row.withExpectedAmounts fee user server zeroConf) .other))
    (id fee serverLockAmount : Nat) (values : EvmLockup) (status : TransactionStatus) :
    (Renegotiator.acceptQuote id fee serverLockAmount values status).Uses P C := by
  have hp := ha.plain
  refine uses_withLock hlock (uses_withLock (hp.locks rfl)
    (.bind (uses_read (hp.read _)) fun swap => ?_))
  split
  · trivial
  refine .bind (uses_validateQuoteEligibility hp _) fun _ => .bind (uses_external hp) fun _ => ?_
  refine .bind (uses_ask (hp.ask _)) fun _ => .bind (uses_update_chain (hw _ _ _ _ _)) fun _ => ?_
  exact uses_checkLockupAgain ha _ _ _

/-! ## Claims -/

theorem uses_getSubmarineClaimDetails (hc : ClaimActs P) (id : Nat) :
    (SwapRouter.getSubmarineClaimDetails id).Uses P C := by
  refine .bind (uses_read (hc.plain.read _)) fun swap => ?_
  split
  · trivial
  · exact uses_getCooperativeDetails hc.plain hc.claims hc.locks _

theorem uses_claimSubmarine (hc : ClaimActs P) (hs : SessionActs P) (id : Nat) :
    (SwapRouter.claimSubmarine id).Uses P C := by
  refine .bind (uses_read (hc.plain.read _)) fun swap => ?_
  split
  · trivial
  · exact uses_broadcastCooperative hc.plain hc.claims hc.locks hs hc.claimed _

theorem uses_getChainSwapClaimDetails (hc : ClaimActs P) (id : Nat) :
    (SwapRouter.getChainSwapClaimDetails id).Uses P C := by
  refine .bind (uses_read (hc.plain.read _)) fun swap => ?_
  split
  · trivial
  split
  · exact uses_chainDetails hc _
  · exact uses_getCooperativeDetails hc.plain hc.claims hc.locks _

theorem uses_claimChainSwap (hc : ClaimActs P) (hs : SessionActs P)
    (hpre : ∀ (swap : Instance ChainSwap) preimage,
      P (chainUpdateAct swap { swap.row with preimage := some preimage } .other))
    (id preimage : Nat) : (SwapRouter.claimChainSwap id preimage).Uses P C := by
  refine .bind (uses_read (hc.plain.read _)) fun swap => ?_
  split
  · trivial
  split
  · exact uses_signClaim hc hs hpre _ _
  · exact uses_broadcastCooperative hc.plain hc.claims hc.locks hs hc.claimed _

/-! ## Rescues -/

theorem uses_createRescue (hp : Plain P) (hc : Claims P) (id : Nat) :
    (AssetRescue.create id).Uses P C := by
  refine .bind (uses_read (hp.read _)) fun pending => ?_
  split
  · trivial
  refine .bind (uses_external hp) fun _ => .bind (uses_call (hc _ rfl fun t w ω b w' he => ?_))
    fun _ => uses_write (hc.write fun _ => ⟨_, rfl⟩)
  cases he
  exact ⟨_, rfl⟩

theorem uses_broadcastRescue (hp : Plain P) (hc : Claims P) (hs : SessionActs P) (id : Nat) :
    (AssetRescue.broadcast id).Uses P C := by
  refine .bind (uses_call (hc _ rfl fun t w ω b w' he => ?_)) fun pending => ?_
  · cases he
    exact ⟨_, rfl⟩
  split
  · trivial
  refine .bind (uses_external hp) fun _ => .bind (uses_mark (hs.sign _)) fun _ => ?_
  exact uses_external hp

theorem uses_expireRescue (hc : Claims P) (id : Nat) : (AssetRescue.expire id).Uses P C :=
  uses_write (hc.write fun _ => ⟨_, rfl⟩)

end Boltz

import Boltz.Backend
import Boltz.Logic.Acts

/-!
# Which acts the programs take

One lemma for each program of the backend. A predicate on acts that contains the families of acts
a program is made of contains all of its acts; the rows it writes are named one by one.
-/

namespace Boltz

open Async SwapUpdateEvent

variable {P : OnActs} {C : M Unit → Prop}

/-! ## Repositories -/

theorem uses_update_reverse {swap : Instance ReverseSwap} {values : ReverseSwap → ReverseSwap}
    {l : Label} (h : P (reverseUpdateAct swap (values swap.row) l)) :
    (ReverseSwapRepository.update swap values l).Uses P C :=
  (uses_call h).bind fun _ => trivial

theorem uses_update_chain {swap : Instance ChainSwap} {values : ChainSwap → ChainSwap}
    {l : Label} (h : P (chainUpdateAct swap (values swap.row) l)) :
    (ChainSwapRepository.update swap values l).Uses P C :=
  (uses_call h).bind fun _ => trivial

theorem uses_update_swap {swap : Instance Swap} {values : Swap → Swap} {l : Label}
    (h : P (swapUpdateAct swap (values swap.row) l)) :
    (SwapRepository.update swap values l).Uses P C :=
  (uses_call h).bind fun _ => trivial

theorem uses_update_server {swap : ServerSwap} {onReverse : ReverseSwap → ReverseSwap}
    {onChain : ChainSwap → ChainSwap} {l : Label}
    (h : P (serverUpdateAct swap onReverse onChain l)) :
    (WrappedSwapRepository.update swap onReverse onChain l).Uses P C := by
  cases swap with
  | reverse swap => exact (uses_update_reverse h).bind fun _ => trivial
  | chain swap => exact (uses_update_chain h).bind fun _ => trivial

theorem uses_addTransaction (hr : Refunds P) (swapId id : Nat) (vin : Option Nat) :
    (RefundTransactionRepository.addTransaction swapId id vin).Uses P C :=
  (uses_write (hr.write fun _ => ⟨_, rfl⟩)).bind fun _ => trivial

theorem uses_setStatusConfirmed (hr : Refunds P) (swapId : Nat) :
    (RefundTransactionRepository.setStatusConfirmedIfPending swapId).Uses P C := by
  refine uses_call (hr _ rfl fun t w ω b w' he => ?_)
  simp only at he
  split at he <;> cases he
  · exact ⟨_, rfl⟩
  · exact ⟨w.refundTransactions, rfl⟩

theorem uses_createHold (hh : Holds P) (swapId : Nat) (type : SwapType) :
    (SendApprovalHoldRepository.create swapId type).Uses P C := by
  refine uses_write (hh.write fun w => ?_)
  split
  · exact ⟨w.sendApprovalHolds, rfl⟩
  · exact ⟨_, rfl⟩

theorem uses_removeHold (hh : Holds P) (swapId : Nat) :
    (SendApprovalHoldRepository.remove swapId).Uses P C :=
  uses_write (hh.write fun _ => ⟨_, rfl⟩)

/-! ## Approval of sends -/

theorem uses_resolveSendApprovalDecision (hp : Plain P) {l : Label}
    (hask : P (askAct l Answer.approval?)) (hread : P (readAct l fun w => w.defaultAction))
    (swapId : Nat) : (resolveSendApprovalDecision swapId l).Uses P C := by
  refine .bind (uses_read (hp.read _)) fun held => .bind (uses_ask hask) fun action => ?_
  split
  · trivial
  · exact .bind (uses_read hread) fun _ => trivial

theorem uses_persistSendApprovalDecision (hh : Holds P) (swapId : Nat) (type : SwapType)
    (action : SendApprovalAction) :
    (persistSendApprovalDecision swapId type action).Uses P C := by
  unfold persistSendApprovalDecision
  split
  · exact (uses_createHold hh swapId type).bind fun _ => trivial
  · exact (uses_removeHold hh swapId).bind fun _ => trivial

theorem uses_deletePendingSendApproval (hp : Plain P) (swapId : Nat) :
    (deletePendingSendApproval swapId).Uses P C :=
  uses_write (hp.write fun _ => ⟨_, _, _, rfl⟩)

theorem uses_settleSendApproval (hp : Plain P) (promise : Nat) (action : SendApprovalAction) :
    (settleSendApproval promise action).Uses P C :=
  uses_write (hp.write fun _ => ⟨_, _, _, rfl⟩)

theorem uses_awaitSendApproval (hp : Plain P) (promise : Nat) :
    (awaitSendApproval promise).Uses P C := by
  refine uses_call (hp.aside _ rfl fun t w ω b w' he => ?_)
  obtain ⟨_, _, rfl, rfl⟩ := by simpa using he
  exact ⟨_, _, _, rfl⟩

theorem uses_pendingSendApproval (hp : Plain P) (swapId : Nat) :
    (pendingSendApproval swapId).Uses P C := by
  refine uses_call (hp.aside _ rfl fun t w ω b w' he => ?_)
  simp only at he
  split at he <;> cases he <;> exact ⟨_, _, _, rfl⟩

/-- The task that asks the approver. -/
def approvalTask (swapId promise : Nat) : M Unit := do
  let action ← resolveSendApprovalDecision swapId
  settleSendApproval promise action

theorem uses_approvalTask (hp : Plain P) (swapId promise : Nat) :
    (approvalTask swapId promise).Uses P C :=
  (uses_resolveSendApprovalDecision hp (hp.ask _) (hp.read _) swapId).bind fun action =>
    uses_settleSendApproval hp promise action

theorem uses_resolveSendApproval (hp : Plain P) (hC : ∀ i p, C (approvalTask i p))
    (swapId : Nat) : (resolveSendApproval swapId).Uses P C := by
  refine .bind (uses_pendingSendApproval hp swapId) fun r => ?_
  obtain ⟨promise, fresh⟩ := r
  exact .bind (.when _ (uses_spawn (hC swapId promise))) fun _ => trivial

theorem uses_handleSendApproval (hp : Plain P) (hh : Holds P) (swapId : Nat) (type : SwapType)
    (approval : SendApprovalAction) : (handleSendApproval swapId type approval).Uses P C := by
  refine .bind (uses_persistSendApprovalDecision hh swapId type approval) fun _ => ?_
  exact .bind (uses_deletePendingSendApproval hp swapId) fun _ => trivial

theorem uses_withSendApproval (hp : Plain P) (hh : Holds P) (hC : ∀ i p, C (approvalTask i p))
    {α : Type} {id : Nat} {type : SwapType} {loadEligible : Label → M (Option α)}
    {proceed : α → SendApprovalAction → M Unit}
    (hl : ∀ l, l = .other ∨ l = .loadLockup id → (loadEligible l).Uses P C)
    (hlock : Locks P (lockForSwapType type)) (hproceed : ∀ a r, (proceed a r).Uses P C) :
    (withSendApproval id type loadEligible proceed).Uses P C := by
  refine .bind (hl _ (.inl rfl)) fun eligible => ?_
  split
  · exact uses_removeHold hh id
  · refine .bind (uses_resolveSendApproval hp hC id) fun promise => ?_
    refine .bind (uses_awaitSendApproval hp promise) fun approval => ?_
    refine .finally_ (uses_withLock hlock (.bind (hl _ (.inr rfl)) fun fresh => ?_))
      (uses_deletePendingSendApproval hp id)
    split
    · exact uses_removeHold hh id
    · exact .bind (uses_handleSendApproval hp hh _ _ _) fun _ => .when _ (hproceed _ _)

/-! ## Lockups of the server -/

theorem uses_cancelReverseInvoices (hp : Plain P) : cancelReverseInvoices.Uses P C :=
  uses_external hp

/-- The row after `setStatus`. -/
def ReverseSwap.withStatus (status : SwapUpdateEvent) (reason : Option SwapError)
    (s : ReverseSwap) : ReverseSwap :=
  { s with status, failureReason := s.failureReason.or reason }

def ChainSwap.withStatus (status : SwapUpdateEvent) (reason : Option SwapError)
    (s : ChainSwap) : ChainSwap :=
  { s with status, failureReason := s.failureReason.or reason }

/-- The write of `WrappedSwapRepository.setStatus`. -/
def setStatusAct (swap : ServerSwap) (status : SwapUpdateEvent) (reason : Option SwapError)
    (l : Label) : Act Label World Answer Unit :=
  serverUpdateAct swap (ReverseSwap.withStatus status reason)
    (ChainSwap.withStatus status reason) l

theorem uses_setStatus {swap : ServerSwap} {status : SwapUpdateEvent}
    {reason : Option SwapError} {l : Label} (h : P (setStatusAct swap status reason l)) :
    (WrappedSwapRepository.setStatus swap status reason l).Uses P C :=
  uses_update_server h

theorem uses_handleSwapSendFailed (hp : Plain P) {swap : ServerSwap}
    (hw : P (setStatusAct swap transactionFailed (some .coinsCouldNotBeSent) .other))
    (lightningClient : Bool) : (handleSwapSendFailed swap lightningClient).Uses P C := by
  refine .bind (.when _ (.catching (uses_cancelReverseInvoices hp) fun _ => trivial)) fun _ => ?_
  exact .bind (uses_setStatus hw) fun _ => trivial

theorem uses_lockupFailedToSend (hp : Plain P) {swap : ServerSwap}
    (hlock : Locks P (lockForSwapType swap.type))
    (hw : P (setStatusAct swap transactionFailed (some .coinsCouldNotBeSent) .other)) :
    (lockupFailedToSend swap).Uses P C := by
  cases swap with
  | reverse swap =>
    exact uses_withLock hlock (.bind (uses_ask (hp.ask _)) fun _ =>
      uses_handleSwapSendFailed hp hw _)
  | chain swap => exact uses_withLock hlock (uses_handleSwapSendFailed hp hw _)

/-- The swap after `setStatus`. -/
def ServerSwap.withStatus (status : SwapUpdateEvent) (reason : Option SwapError) :
    ServerSwap → ServerSwap
  | .reverse swap => .reverse ⟨swap.id, swap.row.withStatus status reason⟩
  | .chain swap => .chain ⟨swap.id, swap.row.withStatus status reason⟩

/-- `setStatus`, followed by a program that goes on with the updated swap. -/
theorem uses_setStatus_bind {α : Type} {swap : ServerSwap} {status : SwapUpdateEvent}
    {reason : Option SwapError} {l : Label} {f : ServerSwap → M α}
    (h : P (setStatusAct swap status reason l))
    (hf : (f (swap.withStatus status reason)).Uses P C) :
    (WrappedSwapRepository.setStatus swap status reason l >>= f).Uses P C := by
  cases swap with
  | reverse swap => exact ⟨h, fun _ => hf⟩
  | chain swap => exact ⟨h, fun _ => hf⟩

/-- The status that a scan stores for a confirmed lockup. -/
def ServerSwap.confirmedStatus : ServerSwap → SwapUpdateEvent
  | .reverse _ => transactionConfirmed
  | .chain _ => transactionServerConfirmed

theorem uses_scanTransaction (hp : Plain P)
    (hC : ∀ swap : ServerSwap, C (lockupFailedToSend (swap.withStatus transactionFailed none)))
    (hw : ∀ swap status, status = transactionFailed ∨ status = swap.confirmedStatus →
      P (setStatusAct swap status none (.confirmationTracker swap.type swap.id)))
    (transactionHash : Nat) (swap : ServerSwap) :
    (EthereumConfirmationTracker.scanTransaction transactionHash swap lockupFailedToSend).Uses
      P C := by
  refine .bind (uses_ask (hp.ask _)) fun status => ?_
  split
  · trivial
  · refine .bind (uses_write (hp.write fun _ => ⟨_, _, _, rfl⟩)) fun _ => ?_
    split
    · exact uses_setStatus_bind (hw swap _ (.inl rfl)) (uses_spawn (hC swap))
    · refine .bind (uses_setStatus (hw swap _ (.inr ?_))) fun _ => trivial
      cases swap <;> rfl

theorem uses_scanPendingTransactions (hp : Plain P)
    (hC : ∀ swap : ServerSwap, C (lockupFailedToSend (swap.withStatus transactionFailed none)))
    (hw : ∀ swap status, status = transactionFailed ∨ status = swap.confirmedStatus →
      P (setStatusAct swap status none (.confirmationTracker swap.type swap.id))) :
    scanPendingTransactions.Uses P C := by
  refine .bind (uses_call (hp.aside _ rfl fun t w ω b w' he => ?_)) fun start => ?_
  · simp only at he
    split at he <;> cases he <;> exact ⟨_, _, _, rfl⟩
  · refine .when _ (.finally_ (.bind (uses_read (hp.read _)) fun pending => ?_)
      (uses_write (hp.write fun _ => ⟨_, _, _, rfl⟩)))
    exact .forEach fun p => uses_scanTransaction hp hC hw p.id p.row

theorem uses_registerForClaim (hc : Claims P) (hlock : Locks P .chainSwapsToClaim)
    (swap : Instance ChainSwap) : (ChainSwapSigner.registerForClaim swap).Uses P C := by
  refine uses_withLock hlock (uses_write (hc.write fun w => ?_))
  dsimp only
  split
  · exact ⟨w.cooperative, rfl⟩
  · exact ⟨_, rfl⟩

theorem uses_removeFromClaimable (hc : Claims P) (hlock : Locks P .chainSwapsToClaim)
    (id : Nat) : (ChainSwapSigner.removeFromClaimable id).Uses P C :=
  uses_withLock hlock (uses_write (hc.write fun _ => ⟨_, rfl⟩))

theorem uses_assertLockupSignerEnabled (hp : Plain P) : assertLockupSignerEnabled.Uses P C :=
  .bind (uses_ask (hp.ask _)) fun _ => .throwIf _ _

theorem uses_assertSendApproved (action : SendApprovalAction) :
    (assertSendApproved action).Uses P C := by
  unfold assertSendApproved
  split <;> trivial

theorem uses_mark {l : Label} (h : P (writeAct l fun w => w)) : (mark l).Uses P C := uses_write h

theorem uses_sendLockup {swap : ServerSwap} (hb : P (writeAct (.beginLockup swap) fun w => w))
    (hs : P (askAct (.sendLockup swap) Answer.send?)) : (sendLockup swap).Uses P C := by
  refine .bind (uses_mark hb) fun _ => .bind (uses_ask hs) fun r => ?_
  split <;> trivial

/-- The row after `setServerLockupTransaction`. -/
def ReverseSwap.withLockup (transactionId fee : Nat) (vout : Option Nat) (s : ReverseSwap) :
    ReverseSwap :=
  { s with
    transactionId := some transactionId
    minerFee := some fee
    transactionVout := vout.or s.transactionVout
    status := transactionMempool }

def ChainSwap.withLockup (transactionId amount fee : Nat) (vout : Option Nat) (s : ChainSwap) :
    ChainSwap :=
  { s with
    status := transactionServerMempool
    sendingData :=
      { s.sendingData with
        transactionId := some transactionId
        fee := some fee
        transactionVout := vout.or s.sendingData.transactionVout
        amount := some amount } }

/-- The write of `setServerLockupTransaction`. -/
def setServerLockupAct (swap : ServerSwap) (transactionId amount fee : Nat) (vout : Option Nat) :
    Act Label World Answer Unit :=
  serverUpdateAct swap (ReverseSwap.withLockup transactionId fee vout)
    (ChainSwap.withLockup transactionId amount fee vout) .other

/-- The acts of a lockup of the swap, besides the plain ones. -/
structure LockupActs (P : OnActs) (C : M Unit → Prop) (swap : ServerSwap) : Prop where
  begin : P (writeAct (.beginLockup swap) fun w => w)
  send : P (askAct (.sendLockup swap) Answer.send?)
  sent : ∀ transactionId amount fee vout,
    P (setServerLockupAct swap transactionId amount fee vout)
  failed : P (setStatusAct swap transactionFailed (some .coinsCouldNotBeSent) .other)
  scan : C scanPendingTransactions

theorem uses_lockup (hp : Plain P) (hc : Claims P) (hlock : Locks P .chainSwapsToClaim)
    {swap : ServerSwap} (ha : LockupActs P C swap) (approval : SendApprovalAction)
    (lightningClient : Bool) : (lockup swap approval lightningClient).Uses P C := by
  have hfailed := uses_handleSwapSendFailed (C := C) hp ha.failed lightningClient
  unfold lockup
  split
  · refine .bind (.catching ?_ fun _ => hfailed.bind fun _ => trivial) fun locked => ?_
    · refine .bind (uses_assertLockupSignerEnabled hp) fun _ => ?_
      refine .bind (uses_assertSendApproved _) fun _ => .bind (uses_external hp) fun _ => ?_
      refine .bind (uses_sendLockup ha.begin ha.send) fun r => ?_
      exact .bind (uses_update_server (ha.sent _ _ _ _)) fun _ => trivial
    · split
      · exact uses_registerForClaim hc hlock _
      · trivial
  · refine .catching ?_ fun _ => hfailed
    refine .bind (uses_assertLockupSignerEnabled hp) fun _ => ?_
    refine .bind (uses_assertSendApproved _) fun _ => .bind (uses_external hp) fun _ => ?_
    refine .bind (uses_sendLockup ha.begin ha.send) fun r => ?_
    refine .bind (uses_update_server (ha.sent _ _ _ _)) fun _ => ?_
    refine .bind (uses_write (hp.write fun _ => ⟨_, _, _, rfl⟩)) fun _ => uses_spawn ha.scan
  · refine .catching ?_ fun _ => hfailed
    refine .bind (uses_assertLockupSignerEnabled hp) fun _ => ?_
    refine .bind (uses_assertSendApproved _) fun _ => ?_
    refine .bind (uses_sendLockup ha.begin ha.send) fun r => ?_
    exact .bind (uses_update_server (ha.sent _ _ _ _)) fun _ => trivial

/-! ## Refunds -/

theorem uses_refundConfirmed (hp : Plain P) (hlock : Locks P .reverseSwap) (swap : ServerSwap) :
    (refundConfirmed swap).Uses P C := by
  refine .bind (.catching (uses_external hp) fun _ => trivial) fun _ => ?_
  cases swap with
  | chain swap => trivial
  | reverse swap =>
    refine uses_withLock hlock (.bind (uses_ask (hp.ask _)) fun _ => .when _ ?_)
    exact .catching (uses_cancelReverseInvoices hp) fun _ => trivial

theorem uses_checkTransaction (hp : Plain P) (hr : Refunds P)
    (hC : ∀ swap, C (refundConfirmed swap)) (swap : ServerSwap) :
    (RefundWatcher.checkTransaction swap).Uses P C := by
  refine .catching (.bind ?_ fun confirmations => .when _ ?_) fun _ => trivial
  · unfold RefundWatcher.getConfirmations
    split
    · trivial
    · refine .bind (uses_ask (hp.ask _)) fun c => ?_
      split <;> trivial
  · exact .bind (uses_setStatusConfirmed hr _) fun _ => .when _ (uses_spawn (hC swap))

theorem uses_checkPendingTransactions (hp : Plain P) (hr : Refunds P)
    (hC : ∀ swap, C (refundConfirmed swap)) :
    RefundWatcher.checkPendingTransactions.Uses P C := by
  refine uses_withLock (hp.locks rfl) (.bind (uses_read (hp.read _)) fun txs => ?_)
  refine .forEach fun tx => .bind (uses_read (hp.read _)) fun swap => ?_
  split
  · exact uses_checkTransaction hp hr hC _
  · trivial

/-- The row after `setTransactionRefunded`. -/
def ReverseSwap.withRefund (minerFee : Nat) (reason : SwapError) (s : ReverseSwap) :
    ReverseSwap :=
  { s with
    failureReason := some reason
    status := transactionRefunded
    minerFee := some (s.minerFee.getD 0 + minerFee) }

def ChainSwap.withRefund (minerFee : Nat) (reason : SwapError) (s : ChainSwap) : ChainSwap :=
  { s with
    failureReason := some reason
    status := transactionRefunded
    sendingData := { s.sendingData with fee := some (s.sendingData.fee.getD 0 + minerFee) } }

/-- The write of `setTransactionRefunded`. -/
def setRefundedAct (swap : ServerSwap) (minerFee : Nat) (reason : SwapError) :
    Act Label World Answer Unit :=
  serverUpdateAct swap (ReverseSwap.withRefund minerFee reason)
    (ChainSwap.withRefund minerFee reason) .other

theorem uses_refundSwap (hp : Plain P) (hr : Refunds P) {swap : ServerSwap}
    (hC : ∀ swap, C (refundConfirmed swap))
    (hw : ∀ minerFee reason, P (setRefundedAct swap minerFee reason)) :
    (refundSwap swap).Uses P C := by
  unfold refundSwap
  split
  · refine .bind (uses_external hp) fun _ => .bind (uses_external hp) fun _ => ?_
    refine .bind (uses_ask (hp.ask _)) fun _ => .bind (uses_ask (hp.ask _)) fun _ => ?_
    refine .bind (uses_addTransaction hr _ _ _) fun _ => .bind (uses_external hp) fun _ => ?_
    exact .bind (uses_update_server (hw _ _)) fun _ => trivial
  · refine .bind (uses_external hp) fun _ => .bind (uses_external hp) fun _ => ?_
    refine .bind (uses_ask (hp.ask _)) fun txId => ?_
    split
    · trivial
    · refine .bind (uses_addTransaction hr _ _ _) fun _ => .bind (uses_ask (hp.ask _)) fun _ => ?_
      exact .bind (uses_update_server (hw _ _)) fun _ => trivial
  · refine .bind (uses_ask (hp.ask _)) fun txId => ?_
    split
    · trivial
    · refine .bind (uses_addTransaction hr _ _ _) fun _ => ?_
      exact .bind (uses_update_server (hw _ _)) fun _ => uses_checkTransaction hp hr hC _

/-- The acts of an expiry of the swap, besides the plain ones. -/
structure ExpiryActs (P : OnActs) (C : M Unit → Prop) (swap : ServerSwap) (l : Label) : Prop where
  expired : P (setStatusAct swap swapExpired (some .onchainHtlcTimedOut) l)
  refunded : ∀ minerFee reason, P (setRefundedAct swap minerFee reason)
  confirmed : ∀ swap, C (refundConfirmed swap)

theorem uses_expireReverseSwap (hp : Plain P) (hr : Refunds P) {swap : Instance ReverseSwap}
    (hread : ∀ {β : Type} (f : World → β), P (readAct (.expireReverseSwap swap) f))
    (ha : ExpiryActs P C (.reverse swap) (.setReverseSwapExpired swap.id)) :
    (expireReverseSwap swap).Uses P C := by
  refine .bind (uses_read (hread _)) fun queried => ?_
  split
  · trivial
  · split
    · trivial
    · refine .catching ?_ fun _ => trivial
      split
      · exact uses_refundSwap hp hr ha.confirmed ha.refunded
      · exact .bind (uses_setStatus ha.expired) fun _ => trivial

theorem uses_expireChainSwap (hp : Plain P) (hr : Refunds P) {id : Nat}
    (hread : ∀ {β : Type} (f : World → β), P (readAct (.expireChainSwap id) f))
    (ha : ∀ swap, ExpiryActs P C (.chain swap) (.setChainSwapExpired swap.id)) :
    (expireChainSwap id).Uses P C := by
  refine .bind (uses_read (hread _)) fun queried => ?_
  split
  · trivial
  · rename_i swap
    split
    · trivial
    · refine .catching ?_ fun _ => trivial
      split
      · exact uses_refundSwap hp hr (ha swap).confirmed (ha swap).refunded
      · exact .bind (uses_setStatus (ha swap).expired) fun _ => trivial

end Boltz

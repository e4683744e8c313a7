import Boltz.Logic.Uses.Lockups

/-!
# Acts of the payments of invoices
-/

namespace Boltz

open Async SwapUpdateEvent

variable {P : OnActs} {C : M Unit → Prop}

/-! ## Payments -/

/-- The acts of `payInvoice` of the swap, besides the plain ones. -/
structure PaymentActs (P : OnActs) (C : M Unit → Prop) (id : Nat) : Prop where
  read : ∀ q {β : Type} (f : World → β), P (readAct (.payInvoice id q) f)
  ask : ∀ q {β : Type} (f : Answer → Option β), P (askAct (.payInvoice id q) f)
  mark : P (writeAct (.sendPayment id) fun w => w)
  reject : ∀ reverseId, P (writeAct (.rejectSelfPayment id reverseId) fun w => w)
  update : ∀ (swap : Instance Swap) new l, swap.id = id →
    l ∈ [Label.other, .setInvoicePending id, .abandonSwap id, .abandonSelfPayment id] →
      P (swapUpdateAct swap new l)
  accepted : ∀ invoice, C (LightningNursery.htlcAccepted invoice)

theorem uses_createPayment (hpay : Payments P) (preimageHash nodeId : Nat) :
    (LightningPaymentRepository.create preimageHash nodeId).Uses P C := by
  refine .bind (uses_call (hpay _ rfl fun t w ω b w' he => ?_)) fun _ => .throwIf _ _
  simp only at he
  split at he
  · cases he
    exact ⟨_, rfl⟩
  · split at he <;> cases he
    · exact ⟨w.lightningPayments, rfl⟩
    · exact ⟨_, rfl⟩

theorem uses_setPaymentStatus (hpay : Payments P) (preimageHash nodeId : Nat)
    (status : LightningPaymentStatus) (error : Option PaymentError) :
    (LightningPaymentRepository.setStatus preimageHash nodeId status error).Uses P C :=
  uses_write (hpay.write fun _ => ⟨_, rfl⟩)

theorem uses_sendPayment (hp : Plain P) (hpay : Payments P) {swap : Instance Swap}
    (ha : PaymentActs P C swap.id) (nodeId paymentHash : Nat)
    (payments : List LightningPayment) :
    (PendingPaymentTracker.sendPayment swap nodeId paymentHash payments).Uses P C := by
  refine .bind (uses_mark ha.mark) fun _ => ?_
  split
  · trivial
  split
  · refine .bind (uses_ask (hp.ask _)) fun _ => ?_
    split
    · trivial
    · refine .bind (uses_ask (ha.ask _ _)) fun r => ?_
      split <;> trivial
  split
  · trivial
  · refine .bind ?_ fun _ => .bind (uses_createPayment hpay _ _) fun _ => ?_
    · unfold PendingPaymentTracker.checkInvoiceTimeout
      split
      · refine .bind (uses_ask (ha.ask _ _)) fun _ => .when _ ?_
        exact .bind (uses_setPaymentStatus hpay _ _ _ _) fun _ => trivial
      · trivial
    · refine .bind (uses_ask (ha.ask _ _)) fun r => ?_
      split
      · exact .bind (uses_setPaymentStatus hpay _ _ _ _) fun _ => trivial
      · trivial
      · refine .bind (uses_read (hp.read _)) fun _ => ?_
        split
        · trivial
        · exact .bind (uses_setPaymentStatus hpay _ _ _ _) fun _ => trivial

theorem uses_waitForPreimage (hp : Plain P) (reverseId : Nat) :
    (SelfPaymentClient.waitForPreimage reverseId).Uses P C := by
  refine uses_call (hp.aside _ rfl fun t w ω b w' he => ?_)
  simp only at he
  split at he
  · split at he
    · split at he
      · obtain ⟨_, _, _, rfl⟩ := by simpa using he
        exact ⟨_, _, _, rfl⟩
      · cases he
    · cases he
  · cases he
    exact ⟨_, _, _, rfl⟩
  · cases he

theorem uses_handleSelfPayment (hp : Plain P) {swap : Instance Swap}
    (ha : PaymentActs P C swap.id) (cltvLimit : Nat) (isExpired : Bool)
    (payments : List LightningPayment) :
    (SelfPaymentClient.handleSelfPayment swap cltvLimit isExpired payments).Uses P C := by
  unfold SelfPaymentClient.handleSelfPayment
  split
  · trivial
  refine uses_withLock (hp.locks rfl) (.bind (uses_read (ha.read _ _)) fun reverse => ?_)
  split
  · trivial
  rename_i reverse
  split
  · trivial
  split
  · refine .bind (.bind (uses_ask (hp.ask _)) fun _ => .bind (uses_read (hp.read _)) fun _ => ?_)
      fun _ => .bind (uses_spawn (ha.accepted _)) fun _ => ?_
    · split
      · trivial
      · exact .bind (uses_mark (ha.reject _)) fun _ => trivial
    · refine .bind (.catching (.bind (uses_external hp) fun _ => ?_) fun _ => trivial) fun _ => ?_
      · exact uses_cancelReverseInvoices hp
      · exact .bind (uses_waitForPreimage hp _) fun _ => trivial
  · refine .bind ?_ fun _ => trivial
    unfold SelfPaymentClient.getPreimage
    split
    · trivial
    · split
      · exact .bind (uses_read (hp.read _)) fun _ => .bind (.throwIf _ _) fun _ => trivial
      · exact .bind (.throwIf _ _) fun _ => trivial

theorem uses_abandonSwap {swap : Instance Swap} (ha : PaymentActs P C swap.id) {l : Label}
    (hl : l ∈ [Label.abandonSwap swap.id, .abandonSelfPayment swap.id]) :
    (PaymentHandler.abandonSwap swap l).Uses P C := by
  unfold PaymentHandler.abandonSwap SwapRepository.setSwapStatus
  refine uses_update_swap (ha.update swap _ l rfl ?_)
  simp only [List.mem_cons, List.not_mem_nil, or_false] at hl ⊢
  rcases hl with rfl | rfl <;> simp

theorem uses_settleInvoice {swap : Instance Swap} (ha : PaymentActs P C swap.id)
    (response : PaymentResponse) : (PaymentHandler.settleInvoice swap response).Uses P C :=
  .bind (uses_update_swap (ha.update swap _ _ rfl (by simp))) fun _ => trivial

theorem uses_pay (hp : Plain P) (hpay : Payments P) {swap : Instance Swap}
    (ha : PaymentActs P C swap.id) (nodeId paymentHash cltvLimit : Nat)
    (payments : List LightningPayment) :
    (PaymentHandler.pay swap nodeId paymentHash cltvLimit payments).Uses P C := by
  refine .bind (.attempt (.bind (.throwIf _ _) fun _ => ?_)) fun r => ?_
  · exact uses_sendPayment hp hpay ha _ _ _
  · split
    · exact uses_settleInvoice ha _
    · trivial
    · refine .bind (uses_read (hp.read _)) fun _ => .bind ?_ fun r => ?_
      · unfold PaymentHandler.trackFailedPayment
        split
        · exact uses_ask (ha.ask _ _)
        · trivial
      · split
        · exact uses_settleInvoice ha _
        · trivial
        · split
          · exact .bind (uses_abandonSwap ha (by simp)) fun _ => trivial
          · trivial

theorem uses_payWithNode (hp : Plain P) (hh : Holds P) (hpay : Payments P)
    {swap : Instance Swap} (ha : PaymentActs P C swap.id) (nodeId cltvLimit : Nat)
    (signerDisabled : Bool) (payments : List LightningPayment) :
    (PaymentHandler.payWithNode swap nodeId cltvLimit signerDisabled payments).Uses P C := by
  unfold PaymentHandler.payWithNode
  dsimp only
  split
  · exact uses_pay hp hpay ha _ _ _ _
  split
  · exact .bind (uses_abandonSwap ha (by simp)) fun _ => trivial
  refine .bind (uses_resolveSendApprovalDecision hp (ha.ask _ _) (ha.read _ _) _) fun _ => ?_
  refine .bind (uses_persistSendApprovalDecision hh _ _ _) fun _ => ?_
  split
  · trivial
  split
  · exact .bind (uses_abandonSwap ha (by simp)) fun _ => trivial
  · exact uses_pay hp hpay ha _ _ _ _

theorem uses_payInvoice (hp : Plain P) (hh : Holds P) (hpay : Payments P)
    (ha : ∀ id, PaymentActs P C id) (swap : Instance Swap) :
    (PaymentHandler.payInvoice swap).Uses P C := by
  refine .bind ?_ fun swap => ?_
  · unfold PaymentHandler.setInvoicePending
    split
    · trivial
    · exact uses_update_swap ((ha swap.id).update swap _ _ rfl (by simp))
  refine .bind (uses_external hp) fun _ => .bind (uses_ask (hp.ask _)) fun cltvLimit => ?_
  refine .bind (uses_ask (hp.ask _)) fun _ => .bind (uses_ask (hp.ask _)) fun held => ?_
  split
  · trivial
  refine .bind (uses_ask (hp.ask _)) fun _ => .bind (uses_read ((ha _).read _ _)) fun _ => ?_
  refine .bind (uses_ask ((ha _).ask _ _)) fun _ => ?_
  refine .bind (.attempt (uses_handleSelfPayment hp (ha _) _ _ _)) fun r => ?_
  split
  · exact .bind (uses_abandonSwap (ha _) (by simp)) fun _ => trivial
  · exact uses_settleInvoice (ha _) _
  · trivial
  · exact uses_payWithNode hp hh hpay (ha _) _ _ _ _

end Boltz

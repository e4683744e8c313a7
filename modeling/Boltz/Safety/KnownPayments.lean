import Boltz.Swap.InvoicePayment

/-!
# Payments that are known to have succeeded

The CLTV limit is checked before the rows of the payments are looked at. LND is asked afterwards
whether the invoice is paid already, CLN is not.
-/

namespace Boltz.InvoicePayment

open Async Lightning

def IsAbandon (act : Act) : Prop := ∃ errorMessage, act = .abandoned errorMessage

variable (calls : Calls) (preimage : Nat)

/-- The node reports the payment as succeeded. -/
def Reports : LightningClient → Prop
  | .lnd client => ∃ payment, client.trackPayment calls.preimageHash = .resolved payment ∧
      payment.status = .succeeded ∧ payment.paymentPreimage = preimage
  | .cln client => ∃ feeMsat,
      client.checkPayStatus calls.invoice = .resolved (some ⟨feeMsat, some preimage⟩)

/-- A row says that the invoice is paid, and its node knows the preimage. -/
def KnownPayment : Prop :=
  ∃ row ∈ calls.payments, row.status = .success ∧
    ∃ client, nodeThatPaid calls row.nodeId = some client ∧ Reports calls preimage client

/-- The error is one for which LND is asked again, and it reports the payment. -/
def Recovers (client : LightningClient) (e : Thrown) : Prop :=
  ∃ lnd errorMessage, client = .lnd lnd ∧ LndClient.errorMessage e = .resolved errorMessage ∧
    isTracked e errorMessage = true ∧ Reports calls preimage (.lnd lnd)

/-- The node of the first successful row answers with the preimage, or its error is recovered
from. -/
def Answered (client : LightningClient) : Prop :=
  calls.payments.any (hasStatus .pending) = false ∧
    ∃ row node, calls.payments.find? (hasStatus .success) = some row ∧
      nodeThatPaid calls row.nodeId = some node ∧
      ((∃ feeMsat, paymentDetails calls node = .resolved (some ⟨feeMsat, some preimage⟩)) ∨
        ∃ e, paymentDetails calls node = .rejected e ∧ Recovers calls preimage client e)

/-- Nothing of what `payInvoice` does first keeps it from the payment. -/
def Unshadowed : Prop :=
  ∃ cltvLimit preferredNode, calls.getCltvLimit = .resolved cltvLimit ∧
    calls.decodeInvoiceOrOffer = .resolved () ∧
    calls.getPreferredNode = .resolved (.continue preferredNode) ∧
    calls.decodePaymentHash = .resolved () ∧
    if cltvLimit < 2 then
      ∃ lnd, getRelevantNode calls preferredNode = .lnd lnd ∧ Reports calls preimage (.lnd lnd)
    else Answered calls preimage (getRelevantNode calls preferredNode)

variable {calls preimage}

/-! ## Results and failures -/

theorem settleInvoice_ends {response : PaymentResponse} :
    (settleInvoice response).Ends IsAbandon (.resolved (some preimage)) ↔
      response.preimage = some preimage := by
  unfold settleInvoice
  cases response.preimage with
  | none => simp
  | some p => simp [AsyncCall.ends_bind_resolved, IsAbandon]

/-- The error of a payment without a preimage. -/
theorem settleInvoice_rejected {response : PaymentResponse} {e : Thrown}
    (h : (settleInvoice response).Ends IsAbandon (.rejected e)) :
    e = .object (.error "The first argument must be of type string") := by
  unfold settleInvoice at h
  cases hp : response.preimage with
  | none =>
    rw [hp, AsyncCall.ends_throw] at h
    exact (Promise.rejected.inj h).symm
  | some p => simp [hp, AsyncCall.ends_bind_rejected] at h

theorem trackFailedPayment_eq_paid {client : LndClient} {response : PaymentResponse} :
    trackFailedPayment calls client = .resolved (.paid response) ↔
      ∃ payment, client.trackPayment calls.preimageHash = .resolved payment ∧
        payment.status = .succeeded ∧
        response = ⟨payment.feeMsat, some payment.paymentPreimage⟩ := by
  unfold trackFailedPayment
  cases client.trackPayment calls.preimageHash with
  | unsettled => simp [Promise.mapRejected]
  | rejected e => simp [Promise.mapRejected]
  | resolved payment =>
    by_cases hsucceeded : payment.status = .succeeded
    · simp [Promise.mapRejected, hsucceeded, eq_comm]
    · by_cases hpending : payment.status = .inFlight <;>
        simp [Promise.mapRejected, hsucceeded, hpending]

/-- What was paid is not found out any more. -/
theorem not_lndPaymentFailed_ends {client : LndClient} {e : Thrown} {errorMessage : String} :
    ¬(lndPaymentFailed calls client e errorMessage).Ends IsAbandon (.resolved (some preimage)) := by
  unfold lndPaymentFailed
  split
  · simp [AsyncCall.ends_bind_resolved]
  split
  · simp
  split <;> simp [AsyncCall.ends_bind_resolved]

theorem not_handleClnPaymentFailure_ends {e : Thrown} :
    ¬(handleClnPaymentFailure e).Ends IsAbandon (.resolved (some preimage)) := by
  unfold handleClnPaymentFailure
  rw [AsyncCall.ends_bind_resolved]
  rintro ⟨errorMessage, -, h⟩
  split at h
  · simp [AsyncCall.ends_bind_resolved] at h
  · simp at h

theorem handleLndPaymentFailure_ends {client : LndClient} {e : Thrown} :
    (handleLndPaymentFailure calls client e).Ends IsAbandon (.resolved (some preimage)) ↔
      Recovers calls preimage (.lnd client) e := by
  unfold handleLndPaymentFailure Recovers
  simp only [AsyncCall.ends_bind_resolved, AsyncCall.ends_await]
  constructor
  · rintro ⟨errorMessage, hmessage, tracked, htracked, h⟩
    by_cases hask : isTracked e errorMessage = true
    swap
    · obtain rfl : Tracked.unknown = tracked := by simpa [hask] using htracked
      exact absurd h not_lndPaymentFailed_ends
    rw [if_pos hask] at htracked
    cases tracked with
    | unknown => exact absurd h not_lndPaymentFailed_ends
    | pending => simp at h
    | paid response =>
      obtain ⟨payment, htrack, hstatus, rfl⟩ := trackFailedPayment_eq_paid.mp htracked
      have hpreimage := Option.some.inj (settleInvoice_ends.mp h)
      exact ⟨client, errorMessage, rfl, hmessage, hask, payment, htrack, hstatus, hpreimage⟩
  · rintro ⟨lnd, errorMessage, hlnd, hmessage, hask, payment, htrack, hstatus, hpreimage⟩
    obtain rfl : client = lnd := LightningClient.lnd.inj hlnd
    refine ⟨errorMessage, hmessage, .paid ⟨payment.feeMsat, some payment.paymentPreimage⟩, ?_, ?_⟩
    · rw [if_pos hask]
      exact trackFailedPayment_eq_paid.mpr ⟨payment, htrack, hstatus, rfl⟩
    · exact settleInvoice_ends.mpr (congrArg some hpreimage)

theorem handlePaymentFailure_ends {client : LightningClient} {e : Thrown} :
    (handlePaymentFailure calls client e).Ends IsAbandon (.resolved (some preimage)) ↔
      Recovers calls preimage client e := by
  cases client with
  | lnd client => exact handleLndPaymentFailure_ends
  | cln client =>
    refine iff_of_false not_handleClnPaymentFailure_ends ?_
    rintro ⟨lnd, errorMessage, hlnd, -⟩
    cases hlnd

theorem recovers_cltvTooSmall {client : LightningClient} :
    Recovers calls preimage client (.string errCltvTooSmall) ↔
      ∃ lnd, client = .lnd lnd ∧ Reports calls preimage (.lnd lnd) := by
  constructor
  · rintro ⟨lnd, errorMessage, hlnd, -, -, hreports⟩
    exact ⟨lnd, hlnd, hreports⟩
  · rintro ⟨lnd, hlnd, hreports⟩
    exact ⟨lnd, errCltvTooSmall, hlnd, rfl, by simp [isTracked], hreports⟩

/-! ## The payment -/

theorem not_recovers_of_settleInvoice {response : PaymentResponse} {client : LightningClient}
    {e : Thrown} (h : (settleInvoice response).Ends IsAbandon (.rejected e)) :
    ¬Recovers calls preimage client e := by
  obtain rfl := settleInvoice_rejected h
  rintro ⟨lnd, errorMessage, -, hmessage, hask, -⟩
  obtain rfl := Promise.resolved.inj hmessage
  revert hask
  decide +kernel

/-- With a row that succeeded, no payment is started and no permanent failure is thrown. -/
theorem sendPayment_of_success {row : LightningPayment} {client : LightningClient}
    {cltvLimit : Int} (hrow : calls.payments.find? (hasStatus .success) = some row) :
    sendPayment calls client cltvLimit =
      if calls.payments.any (hasStatus .pending) then pure none
      else .await (getSuccessfulPaymentDetails calls row) := by
  unfold sendPayment
  rw [hrow]

theorem getSuccessfulPaymentDetails_eq_some {row : LightningPayment}
    {response : PaymentResponse} :
    getSuccessfulPaymentDetails calls row = .resolved (some response) ↔
      ∃ node, nodeThatPaid calls row.nodeId = some node ∧
        paymentDetails calls node = .resolved (some response) := by
  unfold getSuccessfulPaymentDetails
  cases nodeThatPaid calls row.nodeId <;> simp

theorem getSuccessfulPaymentDetails_eq_rejected {row : LightningPayment} {e : Thrown} :
    getSuccessfulPaymentDetails calls row = .rejected e ↔
      ∃ node, nodeThatPaid calls row.nodeId = some node ∧
        paymentDetails calls node = .rejected e := by
  unfold getSuccessfulPaymentDetails
  cases nodeThatPaid calls row.nodeId <;> simp

/-- The limit is checked before the rows. -/
theorem pay_ends_of_small {client : LightningClient} {cltvLimit : Int} (hlimit : cltvLimit < 2) :
    (pay calls client cltvLimit).Ends IsAbandon (.resolved (some preimage)) ↔
      ∃ lnd, client = .lnd lnd ∧ Reports calls preimage (.lnd lnd) := by
  unfold pay
  rw [if_pos hlimit, AsyncCall.ends_catching_resolved]
  simp only [AsyncCall.ends_throw, reduceCtorEq, false_or, Promise.rejected.injEq,
    exists_eq_left', handlePaymentFailure_ends, recovers_cltvTooSmall]

theorem pay_ends {client : LightningClient} {cltvLimit : Int} (hlimit : ¬cltvLimit < 2)
    {row : LightningPayment} (hrow : calls.payments.find? (hasStatus .success) = some row) :
    (pay calls client cltvLimit).Ends IsAbandon (.resolved (some preimage)) ↔
      Answered calls preimage client := by
  unfold pay Answered
  rw [if_neg hlimit, sendPayment_of_success hrow, AsyncCall.ends_catching_resolved]
  simp only [handlePaymentFailure_ends, AsyncCall.ends_bind_resolved,
    AsyncCall.ends_bind_rejected, hrow, Option.some.injEq]
  by_cases hpending : calls.payments.any (hasStatus .pending) = true
  · simp [hpending]
  simp only [if_neg hpending, AsyncCall.ends_await]
  rw [Bool.not_eq_true] at hpending
  constructor
  · rintro (⟨response, hresponse, h⟩ | ⟨e, hrejected | ⟨response, hresponse, h⟩, hrecovers⟩)
    · cases response with
      | none => simp at h
      | some response =>
        obtain ⟨node, hnode, hdetails⟩ := getSuccessfulPaymentDetails_eq_some.mp hresponse
        have hpreimage := settleInvoice_ends.mp h
        refine ⟨hpending, row, node, rfl, hnode, .inl ⟨response.feeMsat, ?_⟩⟩
        rw [hdetails, ← hpreimage]
    · obtain ⟨node, hnode, hdetails⟩ := getSuccessfulPaymentDetails_eq_rejected.mp hrejected
      exact ⟨hpending, row, node, rfl, hnode, .inr ⟨e, hdetails, hrecovers⟩⟩
    · cases response with
      | none => simp at h
      | some response => exact absurd hrecovers (not_recovers_of_settleInvoice h)
  · rintro ⟨-, _, node, rfl, hnode, ⟨feeMsat, hdetails⟩ | ⟨e, hdetails, hrecovers⟩⟩
    · refine .inl ⟨some ⟨feeMsat, some preimage⟩, ?_, settleInvoice_ends.mpr rfl⟩
      exact getSuccessfulPaymentDetails_eq_some.mpr ⟨node, hnode, hdetails⟩
    · exact .inr ⟨e, .inl (getSuccessfulPaymentDetails_eq_rejected.mpr ⟨node, hnode, hdetails⟩),
        hrecovers⟩

/-! ## The whole call -/

theorem KnownPayment.exists_success (h : KnownPayment calls preimage) :
    ∃ row, calls.payments.find? (hasStatus .success) = some row := by
  obtain ⟨row, hrow, hstatus, -⟩ := h
  cases hfind : calls.payments.find? (hasStatus .success) with
  | some first => exact ⟨first, rfl⟩
  | none => exact absurd (List.find?_eq_none.mp hfind row hrow) (by simp [hasStatus, hstatus])

theorem KnownPayment.relevant (h : KnownPayment calls preimage) :
    (existingRelevantAction calls.payments).isSome = true := by
  obtain ⟨row, hrow, hstatus, -⟩ := h
  rw [existingRelevantAction, List.find?_isSome]
  exact ⟨row, hrow, by simp [hstatus]⟩

/-- A payment that a node has tried is no self payment. -/
theorem KnownPayment.paySelf_eq (h : KnownPayment calls preimage) :
    paySelf calls = pure none := by
  obtain ⟨row, hrow, -⟩ := h
  have hempty : calls.payments.isEmpty = false := by
    cases hpayments : calls.payments with
    | nil => rw [hpayments] at hrow; cases hrow
    | cons _ _ => rfl
  unfold paySelf handleSelfPayment
  rw [hempty]
  rfl

/-- When a successful payment that a node knows is returned, and the swap is not abandoned. -/
theorem known_payment_returned_iff (h : KnownPayment calls preimage) :
    (payInvoice calls).Ends IsAbandon (.resolved (some preimage)) ↔
      Unshadowed calls preimage := by
  obtain ⟨row, hrow⟩ := h.exists_success
  have hpending : (setInvoicePending calls).Ends IsAbandon (.resolved ()) := by
    unfold setInvoicePending
    split <;> simp [IsAbandon]
  have hpay : ∀ client cltvLimit, (payApproved calls client cltvLimit).Ends IsAbandon
      (.resolved (some preimage)) ↔
        if cltvLimit < 2 then ∃ lnd, client = .lnd lnd ∧ Reports calls preimage (.lnd lnd)
        else Answered calls preimage client := by
    intro client cltvLimit
    rw [payApproved, if_pos h.relevant]
    split
    next hlimit => exact pay_ends_of_small hlimit
    next hlimit => exact pay_ends hlimit hrow
  unfold payInvoice Unshadowed
  simp only [AsyncCall.ends_bind_resolved, AsyncCall.ends_await, hpending, true_and,
    exists_const]
  constructor
  · rintro ⟨cltvLimit, hcltv, ⟨⟩, hdecode, preferred, hpreferred, hend⟩
    cases preferred with
    | hold => simp at hend
    | «continue» preferredNode =>
      simp only [AsyncCall.ends_bind_resolved, AsyncCall.ends_await, h.paySelf_eq,
        AsyncCall.ends_pure, Promise.resolved.injEq, exists_eq_left'] at hend
      obtain ⟨⟨⟩, hhash, hend⟩ := hend
      exact ⟨cltvLimit, preferredNode, hcltv, hdecode, hpreferred, hhash, (hpay _ _).mp hend⟩
  · rintro ⟨cltvLimit, preferredNode, hcltv, hdecode, hpreferred, hhash, hend⟩
    refine ⟨cltvLimit, hcltv, (), hdecode, .continue preferredNode, hpreferred, ?_⟩
    simp only [AsyncCall.ends_bind_resolved, AsyncCall.ends_await, h.paySelf_eq,
      AsyncCall.ends_pure, Promise.resolved.injEq, exists_eq_left']
    exact ⟨(), hhash, (hpay _ _).mpr hend⟩

/-! ## A CLN node that has paid -/

/-- It answers every look-up. -/
def paidCln : ClnClient where
  id := 2
  pays _ := [{ status := .complete, amountSentMsat := some 1001000, preimage := some 9 }]
  channels := []
  decodeInvoice _ := .resolved { paymentHash := 7, valueMsat := 1000000 }
  listPaysCall _ :=
    .resolved [{ status := .complete, amountSentMsat := some 1001000, preimage := some 9 }]
  listPeerChannels := .resolved []
  listPaysCall_reports := by
    intro _ _ _ _ h
    exact (Promise.resolved.inj h).symm
  listPeerChannels_reports := by
    intro _ h
    exact (Promise.resolved.inj h).symm

/-- The payment of the invoice succeeded on the CLN node. -/
def paidCalls (cltvLimit : Int) : Calls where
  preimageHash := 7
  invoice := 70
  status := .invoicePending
  currency := { clnClient := some paidCln }
  getCltvLimit := .resolved cltvLimit
  decodeInvoiceOrOffer := .resolved ()
  getPreferredNode := .resolved (.continue (.cln paidCln))
  decodePaymentHash := .resolved ()
  payments := [{ nodeId := 2, status := .success }]

theorem paidCln_checkPayStatus :
    paidCln.checkPayStatus 70 = .resolved (some ⟨1000, some 9⟩) := by
  decide +kernel

theorem knownPayment_paidCalls (cltvLimit : Int) : KnownPayment (paidCalls cltvLimit) 9 :=
  ⟨_, List.mem_singleton_self _, rfl, .cln paidCln, rfl, 1000, paidCln_checkPayStatus⟩

/-- With blocks left, the payment is returned. -/
theorem paid_in_time_returned :
    KnownPayment (paidCalls 100) 9 ∧
      (payInvoice (paidCalls 100)).Ends IsAbandon (.resolved (some 9)) :=
  ⟨knownPayment_paidCalls 100, (known_payment_returned_iff (knownPayment_paidCalls 100)).mpr
    ⟨100, .cln paidCln, rfl, rfl, rfl, rfl, rfl, _, .cln paidCln, rfl, rfl,
      .inl ⟨1000, paidCln_checkPayStatus⟩⟩⟩

/-- One block is left: the paid invoice is not looked at, and nothing is returned. -/
theorem paid_late_dropped : KnownPayment (paidCalls 1) 9 ∧
    (payInvoice (paidCalls 1)).promise = .resolved none :=
  ⟨knownPayment_paidCalls 1, by decide +kernel⟩

end Boltz.InvoicePayment

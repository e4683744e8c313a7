import Boltz.Async.Promise
import Mathlib.Algebra.Order.Field.Basic

/-!
# Lightning nodes (`lib/lightning/LndClient.ts`, `lib/lightning/cln/ClnClient.ts`)

A client is what its node holds and what the calls to it settle with. The node does not change
while it is asked, and an answer is what it holds; a call can fail or never settle.
-/

namespace Boltz.Lightning

open Async

/-- What a call to a node is rejected with. -/
inductive CallError where
  | rpc (details : String)
  | error (message : String)
  deriving DecidableEq, Repr

/-- A value that is thrown. -/
inductive Thrown where
  | string (text : String)
  | number (value : Nat)
  | object (error : CallError)
  | null
  deriving DecidableEq, Repr

/-! ## LND -/

/-- `Payment_PaymentStatus`. -/
inductive PaymentStatus where
  | unknown | inFlight | succeeded | failed | initiated
  deriving DecidableEq, Repr

/-- `lndrpc.Payment`. -/
structure LndPayment where
  status : PaymentStatus
  feeMsat : Nat := 0
  paymentPreimage : Nat := 0
  deriving DecidableEq, Repr

structure LndClient where
  id : Nat
  /-- The payment of a hash. -/
  payments : Nat → Option LndPayment
  trackPayment : Nat → Promise CallError LndPayment
  trackPayment_reports : ∀ paymentHash payment,
    trackPayment paymentHash = .resolved payment → payments paymentHash = some payment

namespace LndClient

variable (client : LndClient) (paymentHash : Nat)

/-- The node has a payment that is pending or succeeded. -/
def HasPayment : Prop :=
  ∃ payment, client.payments paymentHash = some payment ∧ payment.status ≠ .failed

/-- The node says so. -/
def ReportsPayment : Prop :=
  ∃ payment, client.trackPayment paymentHash = .resolved payment ∧ payment.status ≠ .failed

end LndClient

/-! ## CLN -/

/-- `ListpaysPays_ListpaysPaysStatus`. -/
inductive PayStatus where
  | pending | failed | complete
  deriving DecidableEq, Repr

/-- `noderpc.ListpaysPays`. -/
structure Pay where
  status : PayStatus
  amountSentMsat : Option Nat := none
  preimage : Option Nat := none
  deriving DecidableEq, Repr

structure DecodedInvoice where
  paymentHash : Nat
  valueMsat : Nat
  deriving DecidableEq, Repr

structure PaymentResponse where
  feeMsat : Int
  preimage : Option Nat
  deriving DecidableEq, Repr

structure ClnClient where
  id : Nat
  /-- The pays of a payment hash. -/
  pays : Nat → List Pay
  /-- The payment hashes of the HTLCs in each channel. -/
  channels : List (List Nat)
  decodeInvoice : Nat → Promise CallError DecodedInvoice
  listPaysCall : Nat → Promise CallError (List Pay)
  listPeerChannels : Promise CallError (List (List Nat))
  listPaysCall_reports : ∀ invoice decoded answer, decodeInvoice invoice = .resolved decoded →
    listPaysCall invoice = .resolved answer → answer = pays decoded.paymentHash
  listPeerChannels_reports : ∀ answer, listPeerChannels = .resolved answer → answer = channels

namespace ClnClient

def paymentPendingError : Thrown := .string "payment already pending"

def paymentAllAttemptsFailed : Thrown := .string "all attempts failed"

variable (client : ClnClient)

def listPays (invoice : Nat) : Promise CallError (DecodedInvoice × List Pay) := do
  let decoded ← client.decodeInvoice invoice
  let pays ← client.listPaysCall invoice
  pure (decoded, pays)

/-- What a complete payment cost more than its invoice. -/
def completedFee (decoded : DecodedInvoice) (completedAttempts : List Pay) : Int :=
  (completedAttempts.map fun attempt => (attempt.amountSentMsat.getD 0 : Int)).sum -
    decoded.valueMsat

/-- The end of `checkListPaysStatus`, when no payment is complete or has HTLCs. -/
def checkFailedAttempts (pays : List Pay) : Promise Thrown (Option PaymentResponse) :=
  if !pays.isEmpty && pays.all (·.status = .failed) then .rejected paymentAllAttemptsFailed
  else pure none

def hasPendingHtlc (paymentHash : Nat) (channels : List (List Nat)) : Bool :=
  channels.any fun htlcs => htlcs.any (paymentHash == ·)

def checkListPaysStatus (decoded : DecodedInvoice) (pays : List Pay) :
    Promise Thrown (Option PaymentResponse) := do
  match pays.filter (·.status = .complete) with
  | attempt :: rest => pure (some ⟨completedFee decoded (attempt :: rest), attempt.preimage⟩)
  | [] =>
    if pays.any (·.status = .pending) then
      let channels ← client.listPeerChannels.mapRejected .object
      if hasPendingHtlc decoded.paymentHash channels then .rejected paymentPendingError
      else checkFailedAttempts pays
    else checkFailedAttempts pays

def checkPayStatus (invoice : Nat) : Promise Thrown (Option PaymentResponse) := do
  let (decoded, pays) ← (client.listPays invoice).mapRejected .object
  client.checkListPaysStatus decoded pays

/-! ### What the node holds and what it says -/

/-- A pay of them succeeded, or one is pending that has an HTLC in a channel. -/
def IsPayment (paymentHash : Nat) (pays : List Pay) (channels : List (List Nat)) : Prop :=
  (∃ pay ∈ pays, pay.status = .complete) ∨
    (∃ pay ∈ pays, pay.status = .pending) ∧ ∃ htlcs ∈ channels, paymentHash ∈ htlcs

/-- The node has a payment that is pending or succeeded. -/
def HasPayment (paymentHash : Nat) : Prop :=
  IsPayment paymentHash (client.pays paymentHash) client.channels

/-- The node says so: the channels are asked for only when no pay is complete. -/
def ReportsPayment (invoice : Nat) : Prop :=
  ∃ decoded pays, client.listPays invoice = .resolved (decoded, pays) ∧
    ((∃ pay ∈ pays, pay.status = .complete) ∨
      (∃ pay ∈ pays, pay.status = .pending) ∧ ∃ channels,
        client.listPeerChannels = .resolved channels ∧
          ∃ htlcs ∈ channels, decoded.paymentHash ∈ htlcs)

variable {client} {invoice : Nat} {decoded : DecodedInvoice} {pays : List Pay}

theorem hasPendingHtlc_iff {paymentHash : Nat} {channels : List (List Nat)} :
    hasPendingHtlc paymentHash channels = true ↔ ∃ htlcs ∈ channels, paymentHash ∈ htlcs := by
  simp [hasPendingHtlc]

/-- What `checkPayStatus` says of a payment that is pending or succeeded. -/
def ShowsPayment (answer : Promise Thrown (Option PaymentResponse)) : Prop :=
  answer = .rejected paymentPendingError ∨ ∃ payment, answer = .resolved (some payment)

@[simp] theorem not_showsPayment_object {e : CallError} :
    ¬ShowsPayment (.rejected (.object e)) := by
  simp [ShowsPayment, paymentPendingError]

@[simp] theorem not_showsPayment_unsettled : ¬ShowsPayment .unsettled := by
  simp [ShowsPayment]

theorem not_showsPayment_checkFailedAttempts : ¬ShowsPayment (checkFailedAttempts pays) := by
  unfold checkFailedAttempts
  split
  · simp [ShowsPayment, paymentPendingError, paymentAllAttemptsFailed]
  · simp [ShowsPayment]

theorem showsPayment_checkListPaysStatus : ShowsPayment (client.checkListPaysStatus decoded pays) ↔
    (∃ pay ∈ pays, pay.status = .complete) ∨
      (∃ pay ∈ pays, pay.status = .pending) ∧ ∃ channels,
        client.listPeerChannels = .resolved channels ∧
          ∃ htlcs ∈ channels, decoded.paymentHash ∈ htlcs := by
  unfold checkListPaysStatus
  split
  next attempt rest hfilter =>
    have hcomplete : attempt ∈ pays.filter (·.status = .complete) := by simp [hfilter]
    rw [List.mem_filter, decide_eq_true_iff] at hcomplete
    exact iff_of_true (.inr ⟨_, rfl⟩) (.inl ⟨attempt, hcomplete⟩)
  next hfilter =>
    have hno : ¬∃ pay ∈ pays, pay.status = .complete := by
      rintro ⟨pay, hpay, hstatus⟩
      have hmem : pay ∈ pays.filter (·.status = .complete) := by simp [hpay, hstatus]
      simp [hfilter] at hmem
    rw [or_iff_right hno]
    by_cases hpending : ∃ pay ∈ pays, pay.status = .pending
    · rw [if_pos (by simpa using hpending), and_iff_right hpending]
      cases hchannels : client.listPeerChannels with
      | rejected e => simp [Promise.mapRejected]
      | unsettled => simp [Promise.mapRejected]
      | resolved channels =>
        simp only [Promise.mapRejected, Promise.resolved_bind, Promise.resolved.injEq,
          exists_eq_left', ← hasPendingHtlc_iff]
        split
        next htlc => exact iff_of_true (.inl rfl) htlc
        next htlc => exact iff_of_false not_showsPayment_checkFailedAttempts htlc
    · rw [if_neg (by simpa using hpending)]
      exact iff_of_false not_showsPayment_checkFailedAttempts fun h => hpending h.1

theorem showsPayment_checkPayStatus :
    ShowsPayment (client.checkPayStatus invoice) ↔ client.ReportsPayment invoice := by
  unfold checkPayStatus ReportsPayment
  cases hlist : client.listPays invoice with
  | rejected e => simp [Promise.mapRejected]
  | unsettled => simp [Promise.mapRejected]
  | resolved answer =>
    obtain ⟨decoded, pays⟩ := answer
    simp only [Promise.mapRejected, Promise.resolved_bind, showsPayment_checkListPaysStatus]
    simp

end ClnClient

/-! ## Currencies -/

/-- The Lightning nodes of a currency. -/
structure LightningCurrency where
  lndClients : List LndClient := []
  clnClient : Option ClnClient := none

inductive LightningClient where
  | lnd (client : LndClient)
  | cln (client : ClnClient)

def LightningClient.id : LightningClient → Nat
  | lnd client => client.id
  | cln client => client.id

/-- The map of the LND clients comes first. -/
def getLightningClientById (currency : LightningCurrency) (nodeId : Nat) :
    Option LightningClient :=
  match currency.lndClients.find? (·.id = nodeId) with
  | some client => some (.lnd client)
  | none => (currency.clnClient.filter (·.id = nodeId)).map .cln

/-- A configured node has a payment that is pending or succeeded. -/
def LightningCurrency.HasPayment (currency : LightningCurrency) (paymentHash : Nat) : Prop :=
  (∃ client ∈ currency.lndClients, client.HasPayment paymentHash) ∨
    ∃ client ∈ currency.clnClient, client.HasPayment paymentHash

end Boltz.Lightning

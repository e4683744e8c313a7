import Boltz.Db.Models
import Boltz.Lightning.Errors

/-!
# Payment of one invoice (`PaymentHandler.ts`, `PendingPaymentTracker.ts`)

One call of `payInvoice`, with each look-up of the nodes. What other services answer is given, and
so is how a new payment ends.
-/

namespace Boltz.InvoicePayment

open Async Lightning SwapUpdateEvent

/-- A row of `lightningPayments` with the payment hash. -/
structure LightningPayment where
  nodeId : Nat
  status : LightningPaymentStatus
  error : Option String := none
  createdAt : Nat := 0
  deriving DecidableEq, Repr

inductive Act where
  | invoicePending
  /-- `invoice.failedToPay`. -/
  | abandoned (errorMessage : String)
  /-- `invoice.paid`. -/
  | invoicePaid (feeMsat : Int) (preimage : Nat)
  | setStatus (nodeId : Nat) (status : LightningPaymentStatus) (error : Option String)
  | createdPayment (nodeId : Nat)
  /-- The promise of the payment is left to the tracker. -/
  | trackPayment (nodeId : Nat)
  | watchPayment (nodeId : Nat)
  | resetMissionControl (nodeId : Nat)
  deriving DecidableEq, Repr

abbrev Call := AsyncCall Act Thrown

/-- What `getPreferredNode` decides. -/
inductive PreferredNode where
  | hold
  | continue (client : LightningClient)

/-- How the race of a payment with its timeout ends. -/
inductive Race where
  | settled (payment : Promise Thrown PaymentResponse)
  | timeout

/-- A submarine swap whose invoice is paid, and what the call reads from outside. `payments` are
the rows with the payment hash of the invoice, which is the one of the swap. -/
structure Calls where
  preimageHash : Nat
  invoice : Nat
  status : SwapUpdateEvent
  currency : LightningCurrency
  getCltvLimit : Promise Thrown Int
  decodeInvoiceOrOffer : Promise Thrown Unit
  getPreferredNode : Promise Thrown PreferredNode
  /-- `getRelevantNode` decodes the invoice once more. -/
  decodePaymentHash : Promise Thrown Unit
  payments : List LightningPayment
  signerDisabled : Bool := false
  /-- `handleSelfPayment` when there are no rows; `none` is no self payment. -/
  selfPayment : Promise Thrown (Option (Option PaymentResponse)) := .resolved none
  resolveSendApprovalDecision : Promise Thrown SendApprovalAction := .resolved .accept
  /-- In milliseconds; of the swap or else of the configuration. -/
  paymentTimeout : Option Nat := none
  now : Nat := 0
  createPayment : Promise Thrown Unit := .resolved ()
  sendPayment : LightningClient → Int → Race := fun _ _ => .timeout
  resetMissionControlDue : Bool := false
  resetMissionControl : Promise Thrown Unit := .resolved ()

variable (calls : Calls)

/-! ## Results -/

def errCltvTooSmall : String := "CLTV limit too small"

def disabledSignerMessage : String := "signer SIGNER_SUBMARINE_INVOICE_PAYMENT is disabled"

def hookRejected : String := "rejected"

def abandonSwap (errorMessage : String) : Call Unit := .act (.abandoned errorMessage)

/-- The preimage of a CLN payment may be missing. -/
def settleInvoice (response : PaymentResponse) : Call (Option Nat) :=
  match response.preimage with
  | none => .throw (.object (.error "The first argument must be of type string"))
  | some preimage => do
    AsyncCall.act (.invoicePaid response.feeMsat preimage)
    pure (some preimage)

/-! ## `PendingPaymentTracker` -/

def hasStatus (status : LightningPaymentStatus) (payment : LightningPayment) : Bool :=
  payment.status = status

def existingRelevantAction (payments : List LightningPayment) : Option LightningPayment :=
  payments.find? fun p =>
    p.status = .success || p.status = .pending || p.status = .permanentFailure

/-- The node of the relevant row, when it is still configured. -/
def getRelevantNode (preferredNode : LightningClient) : LightningClient :=
  match existingRelevantAction calls.payments with
  | none => preferredNode
  | some payment =>
    (getLightningClientById calls.currency payment.nodeId).getD preferredNode

/-- `lightningNodes`: the CLN node is put into the map last. -/
def nodeThatPaid (nodeId : Nat) : Option LightningClient :=
  match calls.currency.clnClient.filter (·.id = nodeId) with
  | some client => some (.cln client)
  | none => (calls.currency.lndClients.find? (·.id = nodeId)).map .lnd

/-- What a node answers about a payment that has succeeded on it. -/
def paymentDetails : LightningClient → Promise Thrown (Option PaymentResponse)
  | .lnd client => do
    let trackedPayment ← (client.trackPayment calls.preimageHash).mapRejected .object
    pure (some ⟨trackedPayment.feeMsat, some trackedPayment.paymentPreimage⟩)
  | .cln client => client.checkPayStatus calls.invoice

def getSuccessfulPaymentDetails (payment : LightningPayment) :
    Promise Thrown (Option PaymentResponse) :=
  match nodeThatPaid calls payment.nodeId with
  | none => pure none
  | some client => paymentDetails calls client

/-- The error of a row may be missing. -/
def getPermanentFailureDetails (payment : LightningPayment) :
    Promise Thrown (Option PaymentResponse) :=
  .rejected (match payment.error with
    | none => .null
    | some error => .string error)

def relevantTimestamps : List Nat :=
  (calls.payments.filter (hasStatus .temporaryFailure)).map (·.createdAt)

def timedOut : Bool :=
  match calls.paymentTimeout, relevantTimestamps calls with
  | some timeout, first :: rest => timeout < calls.now - rest.foldl min first
  | _, _ => false

def checkInvoiceTimeout (client : LightningClient) : Call Unit :=
  if timedOut calls then do
    AsyncCall.act (.setStatus client.id .permanentFailure (some LightningNursery.paymentTimedOut))
    AsyncCall.throw (.string LightningNursery.paymentTimedOut)
  else pure ()

def parseErrorMessage : LightningClient → Thrown → Promise Thrown String
  | .lnd _, e => LndClient.errorMessage e
  | .cln _, e => ClnClient.errorMessage e

def isPermanentError (client : LightningClient) (e : Thrown) (errorMessage : String) : Bool :=
  match client with
  | .lnd _ =>
    e = .number incorrectPaymentDetails || LightningNursery.errIsInvoiceExpired errorMessage
  | .cln _ =>
    ClnClient.errIsIncorrectPaymentDetails errorMessage ||
      LightningNursery.errIsInvoiceExpired errorMessage

def isCln : LightningClient → Bool
  | .lnd _ => false
  | .cln _ => true

/-- CLN reports errors while the payment is still pending. -/
def paymentFailed (client : LightningClient) (e : Thrown) : Call (Option PaymentResponse) := do
  let errorMessage ← AsyncCall.await (parseErrorMessage client e)
  if isPermanentError client e errorMessage then do
    AsyncCall.act (.setStatus client.id .permanentFailure (some errorMessage))
    AsyncCall.throw e
  else if isCln client then do
    AsyncCall.act (.watchPayment client.id)
    pure none
  else do
    AsyncCall.act (.setStatus client.id .temporaryFailure none)
    AsyncCall.throw e

def sendPaymentWithNode (client : LightningClient) (cltvLimit : Int) :
    Call (Option PaymentResponse) := do
  AsyncCall.await calls.createPayment
  AsyncCall.act (.createdPayment client.id)
  match calls.sendPayment client cltvLimit with
  | .timeout =>
    AsyncCall.act (.trackPayment client.id)
    pure none
  | .settled payment =>
    AsyncCall.catching
      (do
        let response ← AsyncCall.await payment
        AsyncCall.act (.setStatus client.id .success none)
        pure (some response))
      (paymentFailed client)

def sendPayment (client : LightningClient) (cltvLimit : Int) : Call (Option PaymentResponse) :=
  if calls.payments.any (hasStatus .pending) then pure none
  else match calls.payments.find? (hasStatus .success) with
    | some payment => .await (getSuccessfulPaymentDetails calls payment)
    | none => match calls.payments.find? (hasStatus .permanentFailure) with
      | some payment => .await (getPermanentFailureDetails payment)
      | none => do
        checkInvoiceTimeout calls client
        sendPaymentWithNode calls client cltvLimit

/-! ## `PaymentHandler` -/

/-- LND is asked about the payment after these errors. -/
def isTracked (e : Thrown) (errorMessage : String) : Bool :=
  errorMessage = errCltvTooSmall || LightningNursery.errIsInvoicePaid e ||
    LightningNursery.errIsCltvLimitExceeded e || LightningNursery.errIsInvoiceExpired errorMessage

/-- What is known after LND was asked. -/
inductive Tracked where
  | paid (response : PaymentResponse)
  | pending
  | unknown

/-- A rejection is ignored. -/
def trackFailedPayment (client : LndClient) : Promise Thrown Tracked :=
  Promise.catching
    (do
      let payment ← (client.trackPayment calls.preimageHash).mapRejected Thrown.object
      pure (if payment.status = .succeeded then
          .paid ⟨payment.feeMsat, some payment.paymentPreimage⟩
        else if payment.status = .inFlight then .pending
        else .unknown))
    fun _ => pure .unknown

def lndAbandons (e : Thrown) (errorMessage : String) : Bool :=
  e = .number incorrectPaymentDetails ||
    e = .string (LndClient.formatPaymentFailureReason incorrectPaymentDetails) ||
    LightningNursery.errIsInvoiceExpired errorMessage ||
    LightningNursery.errIsPaymentTimedOut errorMessage

/-- The rest of `handleLndPaymentFailure`, when the payment is not known to LND. -/
def lndPaymentFailed (client : LndClient) (e : Thrown) (errorMessage : String) :
    Call (Option Nat) := do
  if lndAbandons e errorMessage then do
    abandonSwap errorMessage
    pure none
  else if errorMessage = errCltvTooSmall || LightningNursery.errIsInvoicePaid e ||
      LightningNursery.errIsPaymentInTransition e ||
      LightningNursery.errIsCltvLimitExceeded e then
    pure none
  else if calls.resetMissionControlDue then do
    AsyncCall.act (.resetMissionControl client.id)
    AsyncCall.await calls.resetMissionControl
    pure none
  else pure none

def handleLndPaymentFailure (client : LndClient) (e : Thrown) : Call (Option Nat) := do
  let errorMessage ← AsyncCall.await (LndClient.errorMessage e)
  let tracked ← AsyncCall.await
    (if isTracked e errorMessage then trackFailedPayment calls client else pure .unknown)
  match tracked with
  | .paid response => settleInvoice response
  | .pending => pure none
  | .unknown => lndPaymentFailed calls client e errorMessage

def clnAbandons (errorMessage : String) : Bool :=
  ClnClient.errIsIncorrectPaymentDetails errorMessage ||
    LightningNursery.errIsInvoiceExpired errorMessage ||
    LightningNursery.errIsPaymentTimedOut errorMessage

def handleClnPaymentFailure (e : Thrown) : Call (Option Nat) := do
  let errorMessage ← AsyncCall.await (ClnClient.errorMessage e)
  if clnAbandons errorMessage then do
    abandonSwap errorMessage
    pure none
  else pure none

def handlePaymentFailure (client : LightningClient) (e : Thrown) : Call (Option Nat) :=
  match client with
  | .lnd client => handleLndPaymentFailure calls client e
  | .cln _ => handleClnPaymentFailure e

/-- The payment itself, with the node that is relevant for it. -/
def pay (client : LightningClient) (cltvLimit : Int) : Call (Option Nat) :=
  AsyncCall.catching
    (do
      if cltvLimit < 2 then AsyncCall.throw (.string errCltvTooSmall)
      else
        match ← sendPayment calls client cltvLimit with
        | some response => settleInvoice response
        | none => pure none)
    (handlePaymentFailure calls client)

/-- A payment that was not tried before needs the signer and the approval. -/
def payApproved (client : LightningClient) (cltvLimit : Int) : Call (Option Nat) :=
  if (existingRelevantAction calls.payments).isSome then pay calls client cltvLimit
  else if calls.signerDisabled then do
    abandonSwap disabledSignerMessage
    pure none
  else do
    match ← AsyncCall.await calls.resolveSendApprovalDecision with
    | .hold => pure none
    | .reject => do
      abandonSwap hookRejected
      pure none
    | .accept => pay calls client cltvLimit

/-- Only without attempts of a node it can be a self payment. -/
def handleSelfPayment : Promise Thrown (Option (Option PaymentResponse)) :=
  if calls.payments.isEmpty then calls.selfPayment else pure none

/-- The self payment, or `none` when the payment is for a node. -/
def paySelf : Call (Option (Option Nat)) :=
  AsyncCall.catching
    (do
      match ← AsyncCall.await (handleSelfPayment calls) with
      | none => pure none
      | some none => pure (some none)
      | some (some response) => do
        let preimage ← settleInvoice response
        pure (some preimage))
    fun e => do
      let errorMessage ← AsyncCall.await (formatError e)
      abandonSwap errorMessage
      pure (some none)

def setInvoicePending : Call Unit :=
  if calls.status = invoicePending then pure () else .act .invoicePending

def payInvoice : Call (Option Nat) := do
  setInvoicePending calls
  let cltvLimit ← AsyncCall.await calls.getCltvLimit
  AsyncCall.await calls.decodeInvoiceOrOffer
  match ← AsyncCall.await calls.getPreferredNode with
  | .hold => pure none
  | .continue preferredNode => do
    AsyncCall.await calls.decodePaymentHash
    match ← paySelf calls with
    | some result => pure result
    | none => payApproved calls (getRelevantNode calls preferredNode) cltvLimit

end Boltz.InvoicePayment

import Boltz.Swap.ReverseSwaps

/-!
# Payment of invoices (`PaymentHandler.ts`, `PendingPaymentTracker.ts`, `SelfPaymentClient.ts`)
-/

namespace Boltz

open Async SwapUpdateEvent

namespace LightningPaymentRepository

def findByPreimageHash (preimageHash : Nat) (l : Label) : M (List LightningPayment) :=
  read (fun w => w.lightningPayments.filter fun p => p.preimageHash == preimageHash) l

def setStatus (preimageHash nodeId : Nat) (status : LightningPaymentStatus)
    (error : Option PaymentError) : M Unit :=
  write fun w =>
    { w with lightningPayments := w.lightningPayments.map fun p =>
      if p.preimageHash = preimageHash ∧ p.nodeId = nodeId then { p with status, error } else p }

/-- A payment can be tried again on the same node only after a temporary failure. -/
def create (preimageHash nodeId : Nat) : M Unit := do
  let created ← Prog.call
    { label := .other
      run := fun _ w _ =>
        match w.lightningPayments.find? fun p =>
            p.preimageHash == preimageHash && p.nodeId == nodeId with
        | none =>
          some (true, { w with lightningPayments :=
            w.lightningPayments ++ [⟨preimageHash, nodeId, .pending, none, 1⟩] })
        | some existing =>
          if existing.status ≠ .temporaryFailure then some (false, w)
          else some (true, { w with lightningPayments := w.lightningPayments.map fun p =>
            if p.preimageHash = preimageHash ∧ p.nodeId = nodeId then
              { p with status := .pending, retries := p.retries + 1 }
            else p }) }
  Prog.throwIf (!created) (.message "payment exists already")

end LightningPaymentRepository

/-- `PaymentResponse`. -/
structure PaymentResponse where
  feeMsat : Nat
  preimage : Nat
  deriving DecidableEq, Repr

namespace PendingPaymentTracker

def existingRelevantAction (payments : List LightningPayment) : Option LightningPayment :=
  payments.find? fun p => [LightningPaymentStatus.success, .pending, .permanentFailure].contains
    p.status

/-- The node has to answer with the payment it reported before. -/
def getSuccessfulPaymentDetails (id : Nat) : M (Option PaymentResponse) := do
  let available ← ask Answer.flag?
  if !available then pure none
  else match ← ask Answer.payment? (.payInvoice id .result) with
    | .paid feeMsat preimage => pure (some ⟨feeMsat, preimage⟩)
    | .failed e _ => Prog.throw (.payment e)
    | .pending => pure none

def checkInvoiceTimeout (id paymentHash nodeId : Nat) (payments : List LightningPayment) :
    M Unit := do
  if payments.any fun p => p.status == .temporaryFailure then
    let timedOut ← ask Answer.flag? (.payInvoice id .timedOut)
    Prog.when timedOut do
      LightningPaymentRepository.setStatus paymentHash nodeId .permanentFailure
        (some .paymentTimedOut)
      Prog.throw (.payment .paymentTimedOut)
  else pure ()

/-- A payment that is pending or, on CLN, failed without a permanent error is left to the
tracker, which updates its row later. -/
def sendPaymentWithNode (id paymentHash nodeId : Nat) : M (Option PaymentResponse) := do
  LightningPaymentRepository.create paymentHash nodeId
  match ← ask Answer.payment? (.payInvoice id .result) with
  | .paid feeMsat preimage => do
    LightningPaymentRepository.setStatus paymentHash nodeId .success none
    pure (some ⟨feeMsat, preimage⟩)
  | .pending => pure none
  | .failed e permanent => do
    let isCln ← read fun w => w.isCln nodeId
    if isCln && !permanent then pure none
    else do
      LightningPaymentRepository.setStatus paymentHash nodeId
        (if permanent then .permanentFailure else .temporaryFailure)
        (if permanent then some e else none)
      Prog.throw (.payment e)

def sendPayment (swap : Instance Swap) (nodeId paymentHash : Nat)
    (payments : List LightningPayment) : M (Option PaymentResponse) := do
  mark (.sendPayment swap.id)
  if payments.any fun p => p.status == .pending then pure none
  else if payments.any fun p => p.status == .success then
    getSuccessfulPaymentDetails swap.id
  else match payments.find? fun p => p.status == .permanentFailure with
    | some p => Prog.throw (.payment (p.error.getD .other))
    | none => do
      checkInvoiceTimeout swap.id paymentHash nodeId payments
      sendPaymentWithNode swap.id paymentHash nodeId

/-- `handleSucceededPayment` and `handleFailedPayment` of the node trackers. -/
def paymentResolved (paymentHash nodeId : Nat) (status : LightningPaymentStatus)
    (error : Option PaymentError) : M Unit :=
  LightningPaymentRepository.setStatus paymentHash nodeId status error

end PendingPaymentTracker

namespace SelfPaymentClient

/-- Waits for `invoice.settled` of the reverse swap, or until the time is up. -/
def waitForPreimage (reverseId : Nat) : M (Option PaymentResponse) :=
  Prog.call
    { label := .other
      run := fun _ w ω => match ω with
        | .flag true =>
          match w.reverseSwaps.get reverseId with
          | some s => if s.status = invoiceSettled then
              s.preimage.map fun p => (some ⟨0, p⟩, w) else none
          | none => none
        | .flag false => some (none, w)
        | _ => none }

/-- After a lockup of the server, its refund has to be final before the payment fails. -/
def getPreimage (reverse : Instance ReverseSwap) : M (Option PaymentResponse) := do
  match reverse.row.preimage with
  | some preimage => pure (some ⟨0, preimage⟩)
  | none =>
    if reverse.row.status = transactionRefunded then
      let refundTx ← RefundTransactionRepository.getTransactionForSwap reverse.id
      Prog.throwIf (refundTx.any (·.isFinal)) (.message "incorrect payment details")
      pure none
    else
      Prog.throwIf (reverse.row.status = transactionFailed) (.message "incorrect payment details")
      pure none

/-- Why a self payment is refused while the reverse swap is still in `SwapCreated`. -/
def selfPaymentRejection (disabled : Bool) (cltvLimit minFinalCltv : Nat) (isExpired : Bool) :
    Option String :=
  if disabled then some "signer disabled"
  else if cltvLimit ≤ minFinalCltv then some "CLTV limit too small"
  else if isExpired then some "invoice expired"
  else none

def checkSelfPayment (id : Nat) (reverse : Instance ReverseSwap) (cltvLimit : Nat)
    (isExpired : Bool) : M Unit := do
  let disabled ← ask Answer.flag?
  let minFinalCltv ← read fun w => w.minFinalCltv reverse.row.invoice
  match selfPaymentRejection disabled cltvLimit minFinalCltv isExpired with
  | none => pure ()
  | some text => do
    mark (.rejectSelfPayment id reverse.id)
    Prog.throw (.message text)

/-- Returns `none` when the payment is not a self payment. -/
def handleSelfPayment (swap : Instance Swap) (cltvLimit : Nat) (isExpired : Bool)
    (payments : List LightningPayment) : M (Option (Option PaymentResponse)) :=
  if !payments.isEmpty then pure none
  else withLock .selfPayment do
    match ← ReverseSwapRepository.getReverseSwapWhere
        (fun s => s.preimageHash == swap.row.preimageHash) (.payInvoice swap.id .reverseSwap) with
    | none => pure none
    | some reverse =>
      if swap.row.invoice ≠ some reverse.row.invoice then Prog.throw (.message "invoice mismatch")
      else if reverse.row.status = swapCreated then do
        checkSelfPayment swap.id reverse cltvLimit isExpired
        Prog.spawn (LightningNursery.htlcAccepted reverse.row.invoice)
        (do
          external -- requireReverseSwapNode
          cancelReverseInvoices : M Unit).catching fun _ => pure ()
        let res ← waitForPreimage reverse.id
        pure (some res)
      else
        let res ← getPreimage reverse
        pure (some res)

end SelfPaymentClient

namespace PaymentHandler

def abandonSwap (swap : Instance Swap) (l : Label) : M (Instance Swap) :=
  SwapRepository.setSwapStatus swap invoiceFailedToPay (some .invoiceCouldNotBePaid) l

def settleInvoice (swap : Instance Swap) (response : PaymentResponse) :
    M (Instance Swap × Option Nat) := do
  let swap ← SwapRepository.setInvoicePaid swap response.feeMsat response.preimage
  pure (swap, some response.preimage)

/-- LND is asked once more before the swap is given up for these errors. -/
def isTracked (e : PaymentError) : Bool :=
  [PaymentError.cltvTooSmall, .invoicePaid, .cltvLimitExceeded, .invoiceExpired].contains e

def isAbandoned (e : PaymentError) : Bool :=
  [PaymentError.incorrectPaymentDetails, .invoiceExpired, .paymentTimedOut].contains e

/-- `trackPayment` of LND, when it is asked. -/
def trackFailedPayment (id : Nat) (asked : Bool) (e : PaymentError) : M PaymentResult :=
  if asked then ask Answer.payment? (.payInvoice id .result) else pure (.failed e false)

def paymentErrorOf : Error → PaymentError
  | .payment e => e
  | .message _ => .other

def handlePaymentFailure (swap : Instance Swap) (nodeId : Nat) (e : PaymentError) :
    M (Instance Swap × Option Nat) := do
  let isCln ← read fun w => w.isCln nodeId
  match ← trackFailedPayment swap.id (!isCln && isTracked e) e with
  | .paid feeMsat preimage => settleInvoice swap ⟨feeMsat, preimage⟩
  | .pending => pure (swap, none)
  | .failed _ _ =>
    if isAbandoned e then
      let swap ← abandonSwap swap (.abandonSwap swap.id)
      pure (swap, none)
    else pure (swap, none)

/-- The payment itself, after the approval. -/
def pay (swap : Instance Swap) (nodeId paymentHash cltvLimit : Nat)
    (payments : List LightningPayment) : M (Instance Swap × Option Nat) := do
  match ← (do
      Prog.throwIf (cltvLimit < 2) (.payment .cltvTooSmall)
      PendingPaymentTracker.sendPayment swap nodeId paymentHash payments :
      M (Option PaymentResponse)).attempt with
  | .ok (some response) => settleInvoice swap response
  | .ok none => pure (swap, none)
  | .error e => handlePaymentFailure swap nodeId (paymentErrorOf e)

/-- The part of `payInvoice` after it is clear that this is no self payment. -/
def payWithNode (swap : Instance Swap) (nodeId cltvLimit : Nat) (signerDisabled : Bool)
    (payments : List LightningPayment) : M (Instance Swap × Option Nat) := do
  let paymentHash := swap.row.preimageHash
  if (PendingPaymentTracker.existingRelevantAction payments).isSome then
    pay swap nodeId paymentHash cltvLimit payments
  else if signerDisabled then
    let swap ← abandonSwap swap (.abandonSwap swap.id)
    pure (swap, none)
  else
    let sendApproval ← resolveSendApprovalDecision swap.id (.payInvoice swap.id .approval)
    let mayProceed ← persistSendApprovalDecision swap.id .submarine sendApproval
    if !mayProceed then pure (swap, none)
    else if sendApproval = .reject then
      let swap ← abandonSwap swap (.abandonSwap swap.id)
      pure (swap, none)
    else pay swap nodeId paymentHash cltvLimit payments

def setInvoicePending (swap : Instance Swap) : M (Instance Swap) :=
  if swap.row.status = invoicePending then pure swap
  else SwapRepository.setSwapStatus swap invoicePending none (.setInvoicePending swap.id)

/-- Returns the swap as it is in memory afterwards, and the preimage when the invoice is paid. -/
def payInvoice (swap : Instance Swap) : M (Instance Swap × Option Nat) := do
  let swap ← setInvoicePending swap
  external -- getCltvLimit and decodeInvoiceOrOffer
  let cltvLimit ← ask Answer.number?
  let isExpired ← ask Answer.flag?
  let held ← ask Answer.flag? -- invoicePaymentHook
  if held then pure (swap, none)
  else
    let preferredNode ← ask Answer.number?
    let payments ← LightningPaymentRepository.findByPreimageHash swap.row.preimageHash
      (.payInvoice swap.id .payments)
    let nodeId := ((PendingPaymentTracker.existingRelevantAction payments).map (·.nodeId)).getD
      preferredNode
    let signerDisabled ← ask Answer.flag? (.payInvoice swap.id .signerDisabled)
    match ← (SelfPaymentClient.handleSelfPayment swap cltvLimit isExpired payments).attempt with
    | .error _ =>
      let swap ← abandonSwap swap (.abandonSelfPayment swap.id)
      pure (swap, none)
    | .ok (some (some response)) => settleInvoice swap response
    | .ok (some none) => pure (swap, none)
    | .ok none => payWithNode swap nodeId cltvLimit signerDisabled payments

end PaymentHandler

end Boltz

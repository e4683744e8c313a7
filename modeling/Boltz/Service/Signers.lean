import Boltz.Swap.SubmarineSwaps

/-!
# Cooperative signers and renegotiation (`MusigSigner.ts`, `ChainSwapSigner.ts`,
`Renegotiator.ts`)
-/

namespace Boltz

open Async SwapUpdateEvent

inductive RefundRejectionReason where
  | versionNotTaproot | statusNotEligible | lightningPaymentPending | refundNotConfirmed
  deriving DecidableEq, Repr

def RefundRejectionReason.message : RefundRejectionReason → String
  | versionNotTaproot => "swap version is not Taproot"
  | statusNotEligible => "status not eligible"
  | lightningPaymentPending =>
    "lightning payment still in progress, try again in a couple minutes"
  | refundNotConfirmed => "refund not confirmed"

/-! ## Refunds of submarine swaps -/

namespace MusigSigner

def allowRefund (id : Nat) : M Unit := do
  match ← SwapRepository.getSwap id with
  | none => Prog.throw (.message "swap not found")
  | some swap =>
    Prog.throwIf (← ask Answer.flag?) (.message "swap has pending HTLCs")
    write fun w => { w with allowedRefunds := swap.id :: w.allowedRefunds }

/-- What the Lightning nodes say about payments of the preimage hash. -/
def hasPendingOrSuccessfulLightningPayment : M Bool := ask Answer.flag?

/-- `refundNonEligibilityReason` of a submarine swap. -/
def refundNonEligibilityReason (swap : Swap) : M (Option RefundRejectionReason) := do
  if swap.version ≠ .taproot then pure (some .versionNotTaproot)
  else if !failedSwapUpdateEvents.contains swap.status then pure (some .statusNotEligible)
  else
    let pending ← hasPendingOrSuccessfulLightningPayment
    pure (if pending then some .lightningPaymentPending else none)

def validateEligibility (swap : Instance Swap) : M Unit := do
  match ← refundNonEligibilityReason swap.row with
  | none => pure ()
  | some reason =>
    let allowed ← read fun w => w.allowedRefunds.contains swap.id
    Prog.throwIf (!allowed) (.message reason.message)

/-- The part that `signRefund` and `signRefundArk` share: the swap of a currency of the backend
that is eligible for a refund. -/
def eligibleForRefund (id : Nat) (backend : Backend) : M (Instance Swap) := do
  match ← SwapRepository.getSwap id (.signRefund .submarine id) with
  | none => Prog.throw (.message "swap not found")
  | some swap => do
    Prog.throwIf (← ask Answer.flag?) (.message "cooperative signatures are disabled")
    Prog.throwIf (swap.row.chainCurrency.type.backend ≠ backend) (.message "wrong currency")
    validateEligibility swap
    mark (.refundEligible .submarine id)
    pure swap

def signRefund (id : Nat) : M Unit := do
  let _ ← eligibleForRefund id .utxo
  external -- createPartialSignature
  SwapRepository.setRefundSignatureCreated id (.setRefundSignatureCreated .submarine id)
  mark (.refundSigned .submarine id)

/-- The flag is stored before the transactions are signed. -/
def signRefundArk (id : Nat) : M Unit := do
  let _ ← eligibleForRefund id .ark
  external -- checkArkTransaction
  SwapRepository.setRefundSignatureCreated id (.setRefundSignatureCreated .submarine id)
  external -- signTransaction
  mark (.refundSigned .submarine id)

end MusigSigner

/-! ## Chain swaps -/

namespace ChainSwapSigner

/-- `refundNonEligibilityReason` of a chain swap: the refund of the server has to be confirmed
when the server locked up. -/
def refundNonEligibilityReason (swap : Instance ChainSwap) :
    M (Option RefundRejectionReason) := do
  if !failedSwapUpdateEvents.contains swap.row.status then pure (some .statusNotEligible)
  else if swap.row.sendingData.transactionId.isNone then pure none
  else
    let refundTx ← RefundTransactionRepository.getTransactionForSwap swap.id
    pure (if refundTx.any (·.status != .confirmed) then some .refundNotConfirmed else none)

/-- `signRefund` and `signRefundArk`, which differ in what is signed only. -/
def signRefund (id : Nat) (backend : Backend) : M Unit :=
  withLock .refundSignature do
    match ← ChainSwapRepository.getChainSwap id (.signRefund .chain id) with
    | none => Prog.throw (.message "swap not found")
    | some swap => do
      Prog.throwIf (swap.row.receivingData.currency.type.backend ≠ backend)
        (.message "wrong currency")
      Prog.throwIf (← ask Answer.flag?) (.message "cooperative signatures are disabled")
      match ← refundNonEligibilityReason swap with
      | some reason => Prog.throw (.message reason.message)
      | none => do
        mark (.refundEligible .chain id)
        external -- createPartialSignature, or checkArkTransaction and signTransaction
        ChainSwapRepository.setRefundSignatureCreated id (.setRefundSignatureCreated .chain id)
        mark (.refundSigned .chain id)

def getToClaimDetails (id : Nat) : M (Option Nat) :=
  withLock .chainSwapsToClaim (read fun w => w.cooperative.claimable.get id)

/-- `swap` is the swap as it was fetched for the request. -/
def getCooperativeDetails (swap : Instance ChainSwap) : M Unit := do
  Prog.throwIf (← ask Answer.flag?) (.message "cooperative signatures are disabled")
  Prog.throwIf (swap.row.status = transactionClaimed) (.message "server claim succeeded already")
  match ← getToClaimDetails swap.id with
  | none => Prog.throw (.message "not eligible for cooperative claim")
  | some object => CoopSignerBase.createCoopDetails object

/-- The claim of the server, signed together with the user. -/
def claimCooperatively (swap : Instance ChainSwap) (preimage : Nat) : M Unit := do
  match ← getToClaimDetails swap.id with
  | none => Prog.throw (.message "not eligible for cooperative claim broadcast")
  | some object =>
    match ← CoopSignerBase.sessionOf object with
    | none => Prog.throw (.message "not eligible for cooperative claim broadcast")
    | some nonce => do
      let fee ← CoopSignerBase.broadcastCooperativeTransaction nonce
      removeFromClaimable swap.id
      let _ ← ChainSwapRepository.setClaimMinerFee swap preimage fee

/-- The preimage is stored before the claim, and the nursery lock is not taken. -/
def settleClaim (swap : Instance ChainSwap) (preimage : Nat) : M Unit := do
  Prog.throwIf (!(← ask Answer.flag?)) (.message "incorrect preimage")
  let swap ← ChainSwapRepository.update swap fun s => { s with preimage := some preimage }
  if canClaimCooperatively swap.row then claimCooperatively swap preimage
  else attemptSettleSwap (.chain swap) preimage

/-- `swap` is the swap as it was fetched for the request. -/
def signClaim (swap : Instance ChainSwap) (preimage : Nat) : M Unit := do
  Prog.throwIf (swap.row.status = transactionRefunded)
    (.message "not eligible for cooperative claim")
  withLock .cooperativeBroadcast do
    Prog.throwIf (← ask Answer.flag?) (.message "cooperative signatures are disabled")
    Prog.when (swap.row.status ≠ transactionClaimed) (settleClaim swap preimage)
    external -- createPartialSignature

end ChainSwapSigner

/-! ## New quotes -/

namespace Renegotiator

/-- The reasons of a failed lockup for which a new quote can be given. -/
def isRejectedForAmount (swap : ChainSwap) : Bool :=
  let amount := swap.receivingData.amount.getD 0
  let expected := swap.receivingData.expectedAmount
  swap.failureReason == some (.insufficientAmount amount expected) ||
    swap.failureReason == some (.overpaidAmount amount expected)

def validateEligibility (swap : ChainSwap) : M Unit := do
  Prog.throwIf swap.createdRefundSignature (.message "refund signed already")
  Prog.throwIf (swap.status ≠ transactionLockupFailed) (.message "lockup not rejected")
  Prog.throwIf (!isRejectedForAmount swap) (.message "lockup not rejected")
  Prog.throwIf (← ask Answer.flag?) (.message "time until expiry too short")

/-- The lockup is checked again with the new expected amounts. -/
def checkLockupAgain (swap : Instance ChainSwap) (values : EvmLockup)
    (status : TransactionStatus) : M Unit :=
  let options : ChainSwapRepository.Options := { allowLockupFailedUpdate := true }
  match swap.row.receivingData.currency.type.backend with
  | .utxo =>
    UtxoNursery.checkChainSwapTransaction swap (swap.row.receivingData.transactionId.getD 0)
      status options
  | .evm =>
    EthereumNursery.checkChainSwapLockup swap
      { values with
        transactionHash := swap.row.receivingData.transactionId.getD 0
        logIndex := swap.row.receivingData.transactionVout.getD values.logIndex } options
  | .ark =>
    ArkNursery.checkChainSwapLockup
      ⟨swap.row.receivingData.transactionId.getD 0, swap.row.receivingData.transactionVout.getD 0,
        swap.row.receivingData.amount.getD 0, swap.row.receivingData.lockupAddress⟩ options

/-- `values` are those of the event in the receipt of the lockup, `status` is that of the
transaction, `fee` and `serverLockAmount` are those of the new quote. -/
def acceptQuote (id fee serverLockAmount : Nat) (values : EvmLockup)
    (status : TransactionStatus) : M Unit :=
  withLock .refundSignature <| withLock .eipRefundSignature do
    match ← ChainSwapRepository.getChainSwap id with
    | none => Prog.throw (.message "swap not found")
    | some swap => do
      validateEligibility swap.row
      external -- calculateNewQuote, checkBalance and the lockup transaction
      let accepted ← ask Answer.flag?
      let swap ← ChainSwapRepository.setExpectedAmounts swap fee
        (swap.row.receivingData.amount.getD 0) serverLockAmount
        (swap.row.acceptZeroConf && accepted)
      checkLockupAgain swap values status

end Renegotiator

end Boltz

import Boltz.Swap.ChainSwaps
import Boltz.Swap.Settlement

/-!
# Submarine swaps (`SwapNursery.ts`, `UtxoNursery.ts`, `EthereumNursery.ts`, `ArkNursery.ts`)
-/

namespace Boltz

open Async SwapUpdateEvent

/-! ## The invoice is paid -/

/-- `setSwapRate`: for a swap that has no invoice yet. -/
def setSwapRate (swap : Instance Swap) : M Unit :=
  Prog.when (swap.row.rate.getD 0 = 0) do
    let rate ← ask Answer.number?
    let _ ← SwapRepository.setRate swap rate

/-- Whether another transaction than the one of the event is stored in the row. -/
def lockupOwnedByAnother (row : Swap) (transactionId vout : Nat) : Bool :=
  row.lockupTransactionId != some transactionId || row.lockupTransactionVout != some vout

/-- The handler of `swap.lockup`: the nurseries differ in the statuses they stop at, and in how
they claim. -/
def nurserySwapLockup (stops : SwapUpdateEvent → Bool) (claim : ClaimSwap → Nat → M Unit)
    (id transactionId vout : Nat) : M Unit :=
  withLock .swap do
    match ← SwapRepository.getSwap id (.fetchForPayment id) with
    | none => pure ()
    | some swap =>
      if lockupOwnedByAnother swap.row transactionId vout then pure ()
      else if swap.row.createdRefundSignature then pure ()
      else if stops swap.row.status then pure ()
      else if swap.row.invoice.isNone then setSwapRate swap
      else match ← PaymentHandler.payInvoice swap with
        | (_, none) => pure ()
        | (swap, some preimage) => claim (.submarine swap) preimage

/-- The handler of the UTXO nursery. -/
def utxoSwapLockup (id transactionId vout : Nat) : M Unit :=
  nurserySwapLockup isSettled claimUtxo id transactionId vout

/-- The handler of the Ark nursery. -/
def arkSwapLockup (id transactionId vout : Nat) : M Unit :=
  nurserySwapLockup (· ≠ transactionConfirmed) claimVtxo id transactionId vout

/-- The handler of `eth.lockup` and `erc20.lockup` for submarine swaps. The swap is fetched once
more by `attemptSettleSwap`. -/
def evmSwapLockup (id transactionHash logIndex : Nat) : M Unit :=
  withLock .swap do
    match ← SwapRepository.getSwap id with
    | none => pure ()
    | some swap =>
      if swap.row.status = transactionLockupFailed then pure ()
      else if lockupOwnedByAnother swap.row transactionHash logIndex then pure ()
      else if swap.row.invoice.isNone then setSwapRate swap
      else if swap.row.createdRefundSignature then pure ()
      else attemptSettleSwap (.submarine swap) none

/-! ## Failed lockups -/

/-- The status is stored through the swap of the event. -/
def swapLockupFailed (swap : Instance Swap) (reason : SwapError) : M Unit :=
  withLock .swap do
    match ← SwapRepository.getSwap swap.id (.lockupFailed swap.id) with
    | none => Prog.throw (.message "swap not found")
    | some loaded =>
      if loaded.row.status = invoicePending then pure ()
      else
        let _ ← SwapRepository.setSwapStatus swap transactionLockupFailed (some reason)

/-- The handler of `swap.lockup.zeroconf.rejected`. -/
def swapZeroConfRejected (swap : Instance Swap) : M Unit :=
  withLock .swap (Prog.when swap.row.invoice.isNone (setSwapRate swap))

/-! ## User lockups -/

/-- The amount is checked only when one is expected. -/
def checkExpectedAmount (expectedAmount : Option Nat) (outputValue : Nat) :
    M (Option SwapError) := do
  let expected := expectedAmount.getD 0
  if expected = 0 then pure none
  else if expected > outputValue then
    pure (some (if outputValue = 0 then .incorrectAssetSent
      else .insufficientAmount outputValue expected))
  else
    let overpaid ← ask Answer.flag?
    pure (if overpaid then some (.overpaidAmount outputValue expected) else none)

namespace UtxoNursery

def checkSwapTransaction (swap : Instance Swap) (transactionId : Nat)
    (status : TransactionStatus) : M Unit := do
  match ← read (fun w => w.lockupOutput .submarine swap.id transactionId) with
  | none => pure ()
  | some (vout, outputValue) =>
    let incoming : LockupIdentity := ⟨transactionId, some vout⟩
    if shouldIgnoreCompetingLockup
        (storedLockup swap.row.lockupTransactionId swap.row.lockupTransactionVout)
        incoming swap.row.status then pure ()
    else
      let (outcome, updatedSwap) ← SwapRepository.setLockupTransaction swap incoming outputValue
        (if status = .confirmed then transactionConfirmed else transactionMempool)
      if outcome = .rejected then pure ()
      else if SwapRepository.lockupNonUpdatableStatuses.contains updatedSwap.row.status then
        pure ()
      else match ← checkExpectedAmount updatedSwap.row.expectedAmount outputValue with
        | some reason => Prog.spawn (swapLockupFailed updatedSwap reason)
        | none =>
          let reject ← ask Answer.flag? -- transactionHook
          if reject then Prog.spawn (swapLockupFailed updatedSwap .blockedAddress)
          else if status = .confirmed then
            Prog.spawn (utxoSwapLockup updatedSwap.id transactionId vout)
          else
            let rejected ← rejectsZeroConf updatedSwap.row.acceptZeroConf status
            if rejected then
              let rejectedSwap ← SwapRepository.setZeroConfRejected updatedSwap incoming
              Prog.when (rejectedSwap.row.status = transactionZeroConfRejected)
                (Prog.spawn (swapZeroConfRejected rejectedSwap))
            else Prog.spawn (utxoSwapLockup updatedSwap.id transactionId vout)

/-- `checkSwap` of `checkOutputs`, for one output address. -/
def checkSwap (address transactionId : Nat) (status : TransactionStatus) : M Unit := do
  match ← SwapRepository.getSwapWhere fun s =>
      [swapCreated, invoiceSet, transactionMempool, transactionZeroConfRejected,
        transactionConfirmed].contains s.status && s.lockupAddress == address with
  | none => pure ()
  | some swap => checkSwapTransaction swap transactionId status

/-- `checkOutputs`: the two checks of an address run at the same time. -/
def checkOutputs (symbol transactionId : Nat) (addresses : List Nat)
    (status : TransactionStatus) : M Unit :=
  withLock .lockupLock <|
    Prog.forEach addresses fun address => do
      Prog.spawn (checkSwap address transactionId status)
      checkChainSwap symbol address transactionId status

end UtxoNursery

namespace EthereumNursery

/-- The refund address of a lockup is stored when the swap has none. -/
def setMissingRefundAddress (swap : Instance Swap) (refundAddress : Nat) : M (Instance Swap) :=
  if swap.row.refundAddress.isNone then SwapRepository.setRefundAddress swap refundAddress
  else pure swap

def setOtherRefundAddress (swap : Instance Swap) (refundAddress : Nat) : M (Instance Swap) :=
  if swap.row.refundAddress ≠ some refundAddress then
    SwapRepository.setRefundAddress swap refundAddress
  else pure swap

/-- `processLockup` for submarine swaps. -/
def processSwapLockup (swap : Instance Swap) (values : EvmLockup) : M Unit :=
  withLock (.ethereumSwap swap.id) do
    let incoming : LockupIdentity := ⟨values.transactionHash, some values.logIndex⟩
    if shouldIgnoreCompetingLockup
        (storedLockup swap.row.lockupTransactionId swap.row.lockupTransactionVout)
        incoming swap.row.status then pure ()
    else
      let reason ← validateLockup values swap.row.timeoutBlockHeight
        (swap.row.expectedAmount.filter (0 < ·))
      let (outcome, updated) ← SwapRepository.setLockupTransaction swap incoming values.amount
        (if reason.isNone then transactionConfirmed else transactionLockupFailed)
      if outcome = .rejected then pure ()
      else
        let updated ← setMissingRefundAddress updated values.refundAddress
        match reason with
        | some reason =>
          Prog.when (shouldEmitLockupFailed updated.row.status updated.row.failureReason outcome)
            (Prog.spawn (swapLockupFailed updated reason))
        | none =>
          let updated ← setOtherRefundAddress updated values.refundAddress
          Prog.spawn (evmSwapLockup updated.id values.transactionHash values.logIndex)

/-- The submarine half of the listeners of `eth.lockup` and `erc20.lockup`. -/
def swapLockupEvent (preimageHash : Nat) (values : EvmLockup) : M Unit := do
  match ← SwapRepository.getSwapWhere fun s =>
      s.preimageHash == preimageHash && [swapCreated, invoiceSet].contains s.status with
  | none => pure ()
  | some swap =>
    Prog.when (swap.row.chainCurrency.type.backend = .evm) (processSwapLockup swap values)

end EthereumNursery

namespace ArkNursery

def checkSubmarineLockup (vHtlc : CreatedVHtlc) : M Unit := do
  match ← SwapRepository.getSwapWhere fun s =>
      [swapCreated, invoiceSet].contains s.status && s.lockupAddress == vHtlc.address with
  | none => pure ()
  | some swap =>
    let incoming : LockupIdentity := ⟨vHtlc.txId, some vHtlc.vout⟩
    if shouldIgnoreCompetingLockup
        (storedLockup swap.row.lockupTransactionId swap.row.lockupTransactionVout)
        incoming swap.row.status then pure ()
    else
      let (outcome, swap) ← SwapRepository.setLockupTransaction swap incoming vHtlc.amount
        transactionConfirmed
      if outcome = .rejected then pure ()
      else
        let expected := swap.row.expectedAmount.getD 0
        if expected > vHtlc.amount then
          Prog.spawn (swapLockupFailed swap (.insufficientAmount vHtlc.amount expected))
        else
          let overpaid ← ask Answer.flag?
          if overpaid then
            Prog.spawn (swapLockupFailed swap (.overpaidAmount vHtlc.amount expected))
          else Prog.spawn (arkSwapLockup swap.id vHtlc.txId vHtlc.vout)

/-- The handler of `vhtlc.created`: the two checks run at the same time. -/
def vhtlcCreated (vHtlc : CreatedVHtlc) : M Unit :=
  withLock (.vhtlcCreated vHtlc.address) do
    Prog.spawn (checkSubmarineLockup vHtlc)
    checkChainSwapLockup vHtlc {}

end ArkNursery

/-! ## Expiry -/

/-- The status is stored through the swap of the event. -/
def expireSwap (swap : Instance Swap) : M Unit := do
  match ← SwapRepository.getSwap swap.id (.expireSwap swap.id) with
  | none => Prog.throw (.message "swap not found")
  | some queried =>
    if queried.row.status = swapExpired then pure ()
    else
      let _ ← SwapRepository.setSwapStatus swap swapExpired (some .onchainHtlcTimedOut)

/-- The handler of `swap.expired`. -/
def swapExpiredHandler (swap : Instance Swap) : M Unit := withLock .swap (expireSwap swap)

/-- `checkExpiredSwaps` of each nursery; `watches` are the currencies of the nursery. -/
def checkExpiredSwaps (watches : Currency → Bool) (height : Nat) : M Unit := do
  let expirable ← SwapRepository.getSwapsExpirable height
  Prog.forEach expirable fun swap => do
    Prog.when (watches swap.row.chainCurrency) (Prog.spawn (swapExpiredHandler swap))

/-! ## The retry loop -/

/-- Held submarine payments are tried again with the pending swaps; only stale rows are removed
here. -/
def pruneStaleSubmarineHolds (swapId : Nat) : M Unit := do
  let swap ← SwapRepository.getSwap swapId
  Prog.when (!(swap.any fun s => s.row.status == invoicePending))
    (SendApprovalHoldRepository.remove swapId)

def retryHeldLockup (hold : Instance SwapType) : M Unit :=
  match hold.row with
  | .submarine => withLock .swap (pruneStaleSubmarineHolds hold.id)
  | .chain => chainSwapLockup hold.id none
  | .reverseSubmarine => invoicePaidHandler hold.id

def retryHeldSendApprovals : M Unit := do
  let holds ← SendApprovalHoldRepository.getAll
  Prog.forEach holds retryHeldLockup

def retryPendingInvoices : M Unit :=
  withLock .swap do
    let pendingInvoiceSwaps ← SwapRepository.getSwaps fun s =>
      [invoicePending, invoicePaid].contains s.status
    Prog.forEach pendingInvoiceSwaps fun swap => attemptSettleSwap (.submarine swap) none

/-- One round of the retry loop. -/
def retrySwaps : M Unit :=
  withLock .retry do
    retryPendingInvoices
    retryHeldSendApprovals

end Boltz

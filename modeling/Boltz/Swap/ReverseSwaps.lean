import Boltz.Swap.ServerLockup

/-!
# Reverse swaps (`LightningNursery.ts`, `InvoiceNursery.ts`, `SwapNursery.ts`, `MusigSigner.ts`)
-/

namespace Boltz

open Async SwapUpdateEvent

/-! ## The server locks up -/

def loadEligibleReverseSwap (id : Nat) : M (Option (Instance ReverseSwap)) := do
  match ← ReverseSwapRepository.getReverseSwap id with
  | none => pure none
  | some swap =>
    if [swapCreated, minerFeePaid].contains swap.row.status then pure (some swap) else pure none

/-- The handler of `invoice.paid`, and the retry of a held lockup. -/
def invoicePaidHandler (id : Nat) : M Unit :=
  withSendApproval id .reverseSubmarine (fun _ => loadEligibleReverseSwap id) lockupReverseSwap

/-- `invoice.paid` is emitted. -/
def emitInvoicePaid (id : Nat) : M Unit := do
  mark (.invoiceAccepted id)
  Prog.spawn (invoicePaidHandler id)

/-- The handler of `minerfee.invoice.paid` only emits. -/
def minerFeeInvoicePaid : M Unit := withLock .reverseSwap (pure ())

namespace LightningNursery

/-- `invoice` is the hold invoice or the miner fee invoice of a reverse swap. -/
def handleAcceptedInvoice (invoice : Nat) : M Unit := do
  match ← ReverseSwapRepository.getReverseSwapWhere fun s =>
      s.invoice == invoice || s.minerFeeInvoice == some invoice with
  | none => pure ()
  | some swap =>
    if swap.row.invoice = invoice then
      Prog.when (swap.row.minerFeeInvoicePreimage.isNone || swap.row.status = minerFeePaid) do
        Prog.when swap.row.minerFeeInvoicePreimage.isSome external -- settleHoldInvoice
        emitInvoicePaid swap.id
    else
      let _ ← WrappedSwapRepository.setStatus (.reverse swap) minerFeePaid none
        (.setMinerFeePaid swap.id)
      Prog.spawn minerFeeInvoicePaid
      external -- decodeInvoiceOrOffer
      let accepted ← ask Answer.flag?
      Prog.when accepted do
        external -- settleHoldInvoice
        emitInvoicePaid swap.id

/-- The handler of `htlc.accepted`. The lock is given up when the call is over or timed out; in
the second case the handler goes on without it. -/
def htlcAccepted (invoice : Nat) : M Unit :=
  withLock .invoice do
    Prog.spawn (handleAcceptedInvoice invoice)
    let _ ← ask Answer.flag?

end LightningNursery

/-! ## Expired invoices -/

/-- What the Lightning node says about an expired hold invoice: cancelled already (`0`), pending
HTLCs (`1`) or open. -/
def lookupExpiredInvoice : M Bool := do
  match ← ask Answer.maybe? with
  | none => Prog.throw (.message "lookup for HTLCs of hold invoice timed out")
  | some 0 => pure true
  | some 1 => pure false
  | some _ => do
    cancelReverseInvoices
    pure true

def expireInvoice (id : Nat) : M Unit := do
  match ← ReverseSwapRepository.getReverseSwap id with
  | none => pure ()
  | some swap =>
    if swap.row.status ≠ swapCreated then pure ()
    else
      let resolved ← ask Answer.flag?
      Prog.when resolved do
        -- an invoice that the node does not know counts as cancelled
        let cancelled ← lookupExpiredInvoice.catching fun _ => ask Answer.flag?
        Prog.when cancelled do
          let _ ← WrappedSwapRepository.setStatus (.reverse swap) invoiceExpired

/-- The handler of `invoice.expired`. -/
def invoiceExpiredHandler (id : Nat) : M Unit := withLock .reverseSwap (expireInvoice id)

namespace InvoiceNursery

def checkExpiredInvoices : M Unit := do
  let pendingSwaps ← ReverseSwapRepository.getReverseSwaps fun s =>
    [swapCreated, minerFeePaid].contains s.status
  Prog.forEach pendingSwaps fun swap => do
    let isExpired ← ask Answer.flag?
    Prog.when isExpired (Prog.spawn (invoiceExpiredHandler swap.id))

end InvoiceNursery

/-! ## Settlement -/

/-- The invoice is cancelled when the swap was a self payment, and settled otherwise. -/
def settleReverseSwapInvoice (id preimage : Nat) : M Unit := do
  match ← ReverseSwapRepository.getReverseSwap id with
  | none => pure ()
  | some swap =>
    if swap.row.status = invoiceSettled then pure ()
    else
      (do
        external -- requireReverseSwapNode
        let submarine ← SwapRepository.getSwapWhere fun s =>
          s.preimageHash == swap.row.preimageHash &&
            [invoicePending, invoicePaid, transactionClaimPending, transactionClaimed].contains
              s.status
        (if submarine.any fun s => s.row.invoice == some swap.row.invoice then
          cancelReverseInvoices.catching fun _ => pure ()
        else external) -- settleHoldInvoice
        let _ ← ReverseSwapRepository.setInvoiceSettled swap preimage : M Unit).catching
        fun _ => pure ()

/-- The handler of `reverseSwap.claimed`. -/
def reverseSwapClaimed (id preimage : Nat) : M Unit :=
  withLock .reverseSwap (settleReverseSwapInvoice id preimage)

namespace UtxoNursery

/-- An input of a transaction, with the preimage in its witness when there is one. -/
structure SpentInput where
  txid : Nat
  index : Nat
  preimage : Option Nat

def checkReverseSwapClaim (input : SpentInput) : M Unit := do
  match ← ReverseSwapRepository.getReverseSwapWhere fun s =>
      [transactionMempool, transactionConfirmed, transactionRefunded].contains s.status &&
        s.transactionVout == some input.index && s.transactionId == some input.txid with
  | none => pure ()
  | some swap =>
    match swap.row.preimage.or input.preimage with
    | some preimage => Prog.spawn (reverseSwapClaimed swap.id preimage)
    | none => pure ()

end UtxoNursery

/-- `eth.claim` and `erc20.claim`, for the reverse swap with the preimage hash. -/
def evmReverseClaim (preimageHash preimage : Nat) : M Unit := do
  match ← ReverseSwapRepository.getReverseSwapWhere fun s =>
      s.preimageHash == preimageHash && s.status != invoiceSettled with
  | none => pure ()
  | some swap => Prog.spawn (reverseSwapClaimed swap.id preimage)

/-- `checkClaims` of the Ark nursery, for the reverse swap whose lockup was spent. -/
def arkReverseClaim (txid vout preimage : Nat) : M Unit := do
  match ← ReverseSwapRepository.getReverseSwapWhere fun s =>
      [transactionMempool, transactionConfirmed].contains s.status &&
        s.transactionId == some txid && s.transactionVout == some vout with
  | none => pure ()
  | some swap =>
    -- the spending transaction may reveal the preimage
    Prog.when (← ask Answer.flag?) (Prog.spawn (reverseSwapClaimed swap.id preimage))

/-- `MusigSigner.signReverseSwapClaim`; the preimage is stored before the nursery lock is taken. -/
def signReverseSwapClaim (id preimage : Nat) : M Unit :=
  withLock .reverseSwapClaimSignature do
    match ← ReverseSwapRepository.getReverseSwap id with
    | none => Prog.throw (.message "swap not found")
    | some swap =>
      Prog.throwIf (← ask Answer.flag?) (.message "cooperative signatures are disabled")
      Prog.throwIf (swap.row.version ≠ .taproot ||
          !([transactionMempool, transactionConfirmed, invoiceSettled].contains swap.row.status))
        (.message "not eligible for cooperative claim")
      Prog.throwIf (!(← ask Answer.flag?)) (.message "incorrect preimage")
      let _ ← WrappedSwapRepository.setPreimage (.reverse swap) preimage
      withLock .reverseSwap do
        Prog.when (swap.row.status ≠ invoiceSettled) (settleReverseSwapInvoice swap.id preimage)
        external -- createPartialSignature

/-! ## Confirmation and expiry -/

def confirmReverseLockup (id : Nat) : M Unit := do
  match ← ReverseSwapRepository.getReverseSwap id with
  | none => pure ()
  | some swap =>
    if swap.row.status = transactionClaimPending ||
        successSwapUpdateEvents.contains swap.row.status then pure ()
    else
      let _ ← WrappedSwapRepository.setStatus (.reverse swap) transactionConfirmed

/-- The handler of `server.lockup.confirmed` for reverse swaps. -/
def reverseLockupConfirmed (id : Nat) : M Unit := withLock .reverseSwap (confirmReverseLockup id)

namespace UtxoNursery

/-- The reverse swap half of `checkServerLockupMempoolTransactions`. -/
def checkReverseMempool (symbol : Nat) : M Unit :=
  withLock .swapLockupConfirmation do
    let mempoolReverseSwaps ← ReverseSwapRepository.getReverseSwaps fun s =>
      s.status == transactionMempool
    Prog.forEach mempoolReverseSwaps fun swap => do
      Prog.when (swap.row.chainCurrency.symbol = symbol) do
        match ← ask Answer.maybe? with -- confirmations of the transaction
        | none => Prog.throw (.message "getRawTransactionVerbose failed")
        | some confirmations =>
          Prog.when (0 < confirmations) (Prog.spawn (reverseLockupConfirmed swap.id))

end UtxoNursery

/-- The handler of `reverseSwap.expired`. -/
def reverseSwapExpired (swap : Instance ReverseSwap) : M Unit :=
  withLock .reverseSwap (expireReverseSwap swap)

/-- `checkExpiredReverseSwaps` of each nursery; `watches` are the currencies of the nursery. -/
def checkExpiredReverseSwaps (watches : Currency → Bool) (height : Nat) : M Unit := do
  let expirable ← ReverseSwapRepository.getReverseSwapsExpirable height
  Prog.forEach expirable fun swap => do
    Prog.when (watches swap.row.chainCurrency) (Prog.spawn (reverseSwapExpired swap))

end Boltz

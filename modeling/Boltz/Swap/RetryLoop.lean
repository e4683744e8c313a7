import Boltz.Async.Sweeps
import Boltz.Swap.InvoicePayment

/-!
# Periodic sweeps (`SwapNursery.ts`, `RefundWatcher.ts`)

One run of the retry loop of the nursery, and one of the check for refund transactions. What each
item asks for outside is given with it.
-/

namespace Boltz.RetryLoop

open Async Lightning SwapUpdateEvent

inductive Act where
  /-- a call of `attemptSettleSwap` -/
  | attempted (id : Nat)
  | payment (id : Nat) (act : InvoicePayment.Act)
  | claimPending (id : Nat)
  | claim (id : Nat)
  | claimFailure (id : Nat)
  /-- a call of `retryHeldLockup` -/
  | retried (swapId : Nat)
  | holdRemoved (swapId : Nat)
  | proceeded (swapId : Nat)
  /-- a call of `checkTransaction` -/
  | checked (swapId : Nat)
  | refundConfirmed (swapId : Nat)
  deriving DecidableEq, Repr

abbrev Call := AsyncCall Act Thrown

/-! ## Settling pending swaps -/

/-- The claim on a chain: `lockup` is what is looked up before, with `parseTransaction` or the
contracts. Ark needs nothing. -/
inductive ChainClaim where
  | utxo (lockup : Promise Thrown Unit) (deferClaim : Promise Thrown Bool)
    (claim : Promise Thrown Unit)
  /-- of Ether and ERC20 -/
  | contract (lockup : Promise Thrown Unit) (claim : Promise Thrown Unit)
  | ark (claim : Promise Thrown Unit)

structure PendingSwap where
  id : Nat
  /-- `getSwap`, the status of the row -/
  getSwap : Promise Thrown (Option SwapUpdateEvent)
  payment : InvoicePayment.Calls
  deferClaim : Promise Thrown Bool
  /-- `none` when the currency is not configured -/
  claim : Option ChainClaim

namespace PendingSwap

variable (swap : PendingSwap)

/-- What the claims do with an error, which they throw again. -/
def claimCatching (claim : Promise Thrown Unit) : Call Unit :=
  AsyncCall.catching
    (do
      AsyncCall.await claim
      AsyncCall.act (.claim swap.id))
    fun e => do
      let _ ← AsyncCall.await (formatError e)
      AsyncCall.act (.claimFailure swap.id)
      AsyncCall.throw e

def claimOnChain : Call Unit :=
  match swap.claim with
  | none => .throw (.object (.error "Cannot read properties of undefined (reading 'type')"))
  | some (.utxo lockup deferClaim claim) => do
    AsyncCall.await lockup
    if ← AsyncCall.await deferClaim then AsyncCall.act (.claimPending swap.id)
    else claimCatching swap claim
  | some (.contract lockup claim) => do
    AsyncCall.await lockup
    claimCatching swap claim
  | some (.ark claim) => claimCatching swap claim

/-- `fetchSwapForSettlement` finds a swap that is not settled. -/
def unsettled (fetched : Option SwapUpdateEvent) : Bool :=
  fetched.any fun status =>
    !(status = transactionClaimPending || successSwapUpdateEvents.contains status)

def claimPaid : Call Unit := do
  if ← AsyncCall.await swap.deferClaim then AsyncCall.act (.claimPending swap.id)
  else claimOnChain swap

def settle : Call Unit := do
  match ← (InvoicePayment.payInvoice swap.payment).mapActs (Act.payment swap.id) with
  | none => pure ()
  | some _ => claimPaid swap

def attemptSettleSwap : Call Unit := do
  AsyncCall.act (.attempted swap.id)
  let fetched ← AsyncCall.await swap.getSwap
  if unsettled fetched then settle swap else pure ()

end PendingSwap

/-! ## Held sends -/

/-- `withSendApproval` of a hold; the row is eligible or not. -/
structure HeldSend where
  swapId : Nat
  type : SwapType
  /-- of a submarine swap, for which only the row is pruned -/
  getSwap : Promise Thrown (Option SwapUpdateEvent) := .resolved none
  remove : Promise Thrown Unit := .resolved ()
  loadEligible : Promise Thrown Bool := .resolved false
  resolveSendApproval : Promise Thrown SendApprovalAction := .resolved .accept
  loadFresh : Promise Thrown Bool := .resolved false
  handleSendApproval : SendApprovalAction → Promise Thrown Bool := fun _ => .resolved true
  proceed : SendApprovalAction → Promise Thrown Unit := fun _ => .resolved ()

namespace HeldSend

variable (hold : HeldSend)

def removeHold : Call Unit := do
  AsyncCall.await hold.remove
  AsyncCall.act (.holdRemoved hold.swapId)

def pruneStaleSubmarineHolds : Call Unit := do
  let status ← AsyncCall.await hold.getSwap
  if status = some invoicePending then pure () else removeHold hold

def withSendApproval : Call Unit := do
  if ← AsyncCall.await hold.loadEligible then do
    let approval ← AsyncCall.await hold.resolveSendApproval
    if ← AsyncCall.await hold.loadFresh then do
      if ← AsyncCall.await (hold.handleSendApproval approval) then do
        AsyncCall.await (hold.proceed approval)
        AsyncCall.act (.proceeded hold.swapId)
      else pure ()
    else removeHold hold
  else removeHold hold

def retryHeldLockup : Call Unit := do
  AsyncCall.act (.retried hold.swapId)
  match hold.type with
  | .submarine => pruneStaleSubmarineHolds hold
  | _ => withSendApproval hold

end HeldSend

/-- The timer of the nursery, with the results of `getSwaps` and of `getAll`. -/
def retry (getSwaps : Promise Thrown (List PendingSwap))
    (getAll : Promise Thrown (List HeldSend)) : Call Unit := do
  let pendingInvoiceSwaps ← AsyncCall.await getSwaps
  AsyncCall.forEach PendingSwap.attemptSettleSwap pendingInvoiceSwaps
  let holds ← AsyncCall.await getAll
  AsyncCall.forEach HeldSend.retryHeldLockup holds

/-! ## Refund transactions -/

/-- The status and the confirmations of a receipt. -/
structure Receipt where
  status : Nat
  confirmations : Promise Thrown Nat

/-- `getConfirmations` by the type of the currency. -/
inductive ConfirmationSource where
  | chainClient (getRawTransactionVerbose : Promise Thrown (Option Nat))
  | provider (getTransactionReceipt : Promise Thrown (Option Receipt))
  | ark

structure RefundCurrency where
  /-- rounded up -/
  requiredConfirmations : Option Nat
  source : ConfirmationSource

def defaultRequiredConfirmations : Nat := 1

def RefundCurrency.getRequiredConfirmations (currency : RefundCurrency) : Nat :=
  match currency.requiredConfirmations with
  | some confirmations =>
    if 0 < confirmations then confirmations else defaultRequiredConfirmations
  | none => defaultRequiredConfirmations

def RefundCurrency.getConfirmations (currency : RefundCurrency) : Promise Thrown Nat :=
  match currency.source with
  | .chainClient getRawTransactionVerbose => do
    let confirmations ← getRawTransactionVerbose
    pure (confirmations.getD 0)
  | .provider getTransactionReceipt => do
    match ← getTransactionReceipt with
    | none => pure 0
    | some receipt => if receipt.status ≠ 1 then pure 0 else receipt.confirmations
  | .ark => pure (currency.getRequiredConfirmations + 1)

/-- A reverse or a chain swap, with its currency when it is configured. -/
structure RefundSwap where
  refundCurrency : String
  currency : Option RefundCurrency

/-- A pending row of `refund_transactions`, with the look-ups for it. -/
structure PendingRefund where
  swapId : Nat
  getReverseSwap : Promise Thrown (Option RefundSwap)
  getChainSwap : Promise Thrown (Option RefundSwap)
  setStatusConfirmedIfPending : Promise Thrown Bool

namespace PendingRefund

variable (tx : PendingRefund)

def getSwapForTransaction : Promise Thrown RefundSwap := do
  match ← Promise.all [tx.getReverseSwap, tx.getChainSwap] with
  | [some _, some _] =>
    .rejected (.object (.error "both reverse and chain swaps found for refund transaction"))
  | [some reverse, none] => pure reverse
  | [none, some chain] => pure chain
  | _ => .rejected (.object (.error "no swap found for refund transaction"))

def checkRefund (swap : RefundSwap) : Call Unit :=
  match swap.currency with
  | none => .throw (.object (.error s!"unknown refund currency: {swap.refundCurrency}"))
  | some currency => do
    let confirmations ← AsyncCall.await currency.getConfirmations
    if confirmations < currency.getRequiredConfirmations then pure ()
    else if ← AsyncCall.await tx.setStatusConfirmedIfPending then
      AsyncCall.act (.refundConfirmed tx.swapId)
    else pure ()

/-- Errors are only logged. -/
def checkTransaction (swap : RefundSwap) : Call Unit := do
  AsyncCall.act (.checked tx.swapId)
  AsyncCall.catching (checkRefund tx swap) fun e => do
    let _ ← AsyncCall.await (formatError e)
    pure ()

end PendingRefund

def lookUp (tx : PendingRefund) : Promise Thrown (PendingRefund × RefundSwap) := do
  let swap ← tx.getSwapForTransaction
  pure (tx, swap)

/-- With the rows that are found. -/
def getPendingTransactions (txs : List PendingRefund) :
    Promise Thrown (List (PendingRefund × RefundSwap)) := Promise.all (txs.map lookUp)

def checkPendingTransactions (findAll : Promise Thrown (List PendingRefund)) : Call Unit := do
  let rows ← AsyncCall.await findAll
  let txs ← AsyncCall.await (getPendingTransactions rows)
  AsyncCall.forEach (fun tx => tx.1.checkTransaction tx.2) txs

end Boltz.RetryLoop

import Boltz.Service.AssetRescue
import Boltz.Service.Signers

/-!
# The running backend

What starts a task: events of the nodes, the timers of the nurseries and requests of clients
(`SwapRouter.ts`).
-/

namespace Boltz

open Async SwapUpdateEvent

namespace SwapRouter

def getSubmarineClaimDetails (id : Nat) : M Unit := do
  match ← SwapRepository.getSwap id with
  | none => Prog.throw (.message "swap not found")
  | some swap => DeferredClaimer.getCooperativeDetails (.submarine swap)

def claimSubmarine (id : Nat) : M Unit := do
  match ← SwapRepository.getSwap id with
  | none => Prog.throw (.message "swap not found")
  | some swap => DeferredClaimer.broadcastCooperative (.submarine swap)

/-- Pending claims are handled by the deferred claimer. -/
def getChainSwapClaimDetails (id : Nat) : M Unit := do
  match ← ChainSwapRepository.getChainSwap id with
  | none => Prog.throw (.message "swap not found")
  | some swap =>
    if swap.row.status ≠ transactionClaimPending then ChainSwapSigner.getCooperativeDetails swap
    else DeferredClaimer.getCooperativeDetails (.chain swap)

def claimChainSwap (id preimage : Nat) : M Unit := do
  match ← ChainSwapRepository.getChainSwap id with
  | none => Prog.throw (.message "swap not found")
  | some swap =>
    if swap.row.status ≠ transactionClaimPending then ChainSwapSigner.signClaim swap preimage
    else DeferredClaimer.broadcastCooperative (.chain swap)

end SwapRouter

inductive Entry where
  /-- `htlc.accepted` of a hold invoice or a miner fee invoice -/
  | htlcAccepted (invoice : Nat)
  | checkExpiredInvoices
  /-- a node reports how a payment ended -/
  | paymentResolved (paymentHash nodeId : Nat) (status : LightningPaymentStatus)
      (error : Option PaymentError)
  /-- one round of the retry loop -/
  | retry
  /-- a transaction on a UTXO chain: its inputs -/
  | checkSwapClaims (transactionId : Nat) (inputs : List UtxoNursery.SpentInput)
  /-- a transaction on a UTXO chain: its outputs -/
  | checkOutputs (symbol transactionId : Nat) (addresses : List Nat) (status : TransactionStatus)
  /-- a block: the lockups of the server in the mempool -/
  | checkReverseMempool (symbol : Nat)
  | checkChainMempool (symbol : Nat)
  /-- a block: the swaps that expired -/
  | checkExpiredSwaps (watches : Currency → Bool) (height : Nat)
  | checkExpiredReverseSwaps (watches : Currency → Bool) (height : Nat)
  | checkExpiredChainSwaps (watches : Currency → Bool) (height : Nat)
  /-- a block on an EVM chain: the lockups of the server -/
  | scanPendingTransactions
  /-- a lockup event of the contracts -/
  | evmLockup (preimageHash : Nat) (values : EvmLockup)
  /-- a claim event of the contracts -/
  | evmClaim (preimageHash preimage : Nat)
  | vhtlcCreated (vHtlc : CreatedVHtlc)
  | vhtlcSpent (txid vout preimage : Nat)
  /-- the refund transactions are checked for confirmations -/
  | checkPendingTransactions
  | sweep (symbol : Nat)
  /-- requests of clients -/
  | signReverseSwapClaim (id preimage : Nat)
  | signRefund (id : Nat)
  | signRefundArk (id : Nat)
  | allowRefund (id : Nat)
  | signChainRefund (id : Nat) (backend : Backend)
  | acceptQuote (id fee serverLockAmount : Nat) (values : EvmLockup) (status : TransactionStatus)
  | getSubmarineClaimDetails (id : Nat)
  | claimSubmarine (id : Nat)
  | getChainSwapClaimDetails (id : Nat)
  | claimChainSwap (id preimage : Nat)
  | createRescue (id : Nat)
  | broadcastRescue (id : Nat)
  /-- an entry of the rescue cache expires -/
  | expireRescue (id : Nat)

def start : Entry → M Unit
  | .htlcAccepted invoice => LightningNursery.htlcAccepted invoice
  | .checkExpiredInvoices => InvoiceNursery.checkExpiredInvoices
  | .paymentResolved paymentHash nodeId status error =>
    PendingPaymentTracker.paymentResolved paymentHash nodeId status error
  | .retry => retrySwaps
  | .checkSwapClaims transactionId inputs => UtxoNursery.checkSwapClaims transactionId inputs
  | .checkOutputs symbol transactionId addresses status =>
    UtxoNursery.checkOutputs symbol transactionId addresses status
  | .checkReverseMempool symbol => UtxoNursery.checkReverseMempool symbol
  | .checkChainMempool symbol => UtxoNursery.checkChainMempool symbol
  | .checkExpiredSwaps watches height => checkExpiredSwaps watches height
  | .checkExpiredReverseSwaps watches height => checkExpiredReverseSwaps watches height
  | .checkExpiredChainSwaps watches height => checkExpiredChainSwaps watches height
  | .scanPendingTransactions => scanPendingTransactions
  | .evmLockup preimageHash values => do
    Prog.spawn (EthereumNursery.swapLockupEvent preimageHash values)
    EthereumNursery.chainLockupEvent preimageHash values
  | .evmClaim preimageHash preimage => do
    Prog.spawn (evmReverseClaim preimageHash preimage)
    evmChainClaim preimageHash preimage
  | .vhtlcCreated vHtlc => ArkNursery.vhtlcCreated vHtlc
  | .vhtlcSpent txid vout preimage => do
    Prog.spawn (arkReverseClaim txid vout preimage)
    arkChainClaim txid vout preimage
  | .checkPendingTransactions => RefundWatcher.checkPendingTransactions
  | .sweep symbol => DeferredClaimer.sweepSymbol symbol
  | .signReverseSwapClaim id preimage => signReverseSwapClaim id preimage
  | .signRefund id => MusigSigner.signRefund id
  | .signRefundArk id => MusigSigner.signRefundArk id
  | .allowRefund id => MusigSigner.allowRefund id
  | .signChainRefund id backend => ChainSwapSigner.signRefund id backend
  | .acceptQuote id fee serverLockAmount values status =>
    Renegotiator.acceptQuote id fee serverLockAmount values status
  | .getSubmarineClaimDetails id => SwapRouter.getSubmarineClaimDetails id
  | .claimSubmarine id => SwapRouter.claimSubmarine id
  | .getChainSwapClaimDetails id => SwapRouter.getChainSwapClaimDetails id
  | .claimChainSwap id preimage => SwapRouter.claimChainSwap id preimage
  | .createRescue id => AssetRescue.create id
  | .broadcastRescue id => AssetRescue.broadcast id
  | .expireRescue id => AssetRescue.expire id

end Boltz

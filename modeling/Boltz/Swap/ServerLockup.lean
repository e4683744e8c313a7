import Boltz.Service.DeferredClaimer
import Boltz.Swap.SendApproval

/-!
# Server lockups and their refunds (`SwapNursery.ts`, `RefundWatcher.ts`,
`EthereumConfirmationTracker.ts`)
-/

namespace Boltz

open Async SwapUpdateEvent

/-- `LightningNursery.cancelReverseInvoices`, which may reject or time out. -/
def cancelReverseInvoices : M Unit := external

/-! ## Confirmation of lockups on EVM chains -/

namespace EthereumConfirmationTracker

/-- One pending transaction of a scan. A transaction without a receipt stays pending. -/
def scanTransaction (transactionHash : Nat) (swap : ServerSwap)
    (failedToSend : ServerSwap → M Unit) : M Unit := do
  match ← ask Answer.maybe? with -- the status of the receipt
  | none => pure ()
  | some status => do
    write fun w => { w with tracked := w.tracked.erase transactionHash }
    if status ≠ 1 then
      let swap ← WrappedSwapRepository.setStatus swap transactionFailed none
        (.confirmationTracker swap.type swap.id)
      Prog.spawn (failedToSend swap)
    else
      let _ ← WrappedSwapRepository.setStatus swap
        (match swap with
          | .reverse _ => transactionConfirmed
          | .chain _ => transactionServerConfirmed) none
        (.confirmationTracker swap.type swap.id)

/-- Whether a scan may start; it marks itself as running. -/
def startScanning : M Bool :=
  Prog.call
    { label := .other
      run := fun _ w _ =>
        if w.scanning || w.tracked.ids.isEmpty then some (false, w)
        else some (true, { w with scanning := true }) }

def scanPendingTransactions (failedToSend : ServerSwap → M Unit) : M Unit := do
  Prog.when (← startScanning) <|
    (do
      let pending ← read fun w => w.tracked.all fun _ => true
      Prog.forEach pending fun p => scanTransaction p.id p.row failedToSend : M Unit).finally_
        (write fun w => { w with scanning := false })

def trackTransaction (swap : ServerSwap) (transactionHash : Nat) : M Unit :=
  write fun w => { w with tracked := w.tracked.put transactionHash swap }

end EthereumConfirmationTracker

/-! ## Lockups -/

def handleSwapSendFailed (swap : ServerSwap) (lightningClient : Bool) : M Unit := do
  Prog.when lightningClient (cancelReverseInvoices.catching fun _ => pure ())
  let _ ← WrappedSwapRepository.setStatus swap transactionFailed (some .coinsCouldNotBeSent)

/-- The handler of `lockup.failedToSend`. -/
def lockupFailedToSend (swap : ServerSwap) : M Unit :=
  match swap with
  | .reverse _ =>
    withLock .reverseSwap do
      handleSwapSendFailed swap (← ask Answer.flag?)
  | .chain _ => withLock .chainSwap (handleSwapSendFailed swap false)

def scanPendingTransactions : M Unit :=
  EthereumConfirmationTracker.scanPendingTransactions lockupFailedToSend

namespace ChainSwapSigner

def canClaimCooperatively (swap : ChainSwap) : Bool :=
  swap.receivingData.currency.type.backend == .utxo

def registerForClaim (swap : Instance ChainSwap) : M Unit :=
  withLock .chainSwapsToClaim <| write fun w =>
    let c := w.cooperative
    if (c.claimable.get swap.id).isSome || !canClaimCooperatively swap.row then w
    else
      { w with cooperative :=
        { c with
          objects := fun j =>
            if j = c.nextObject then some { swap := .chain swap } else c.objects j
          nextObject := c.nextObject + 1
          claimable := c.claimable.put swap.id c.nextObject } }

def removeFromClaimable (id : Nat) : M Unit :=
  withLock .chainSwapsToClaim <| write fun w =>
    { w with cooperative :=
      { w.cooperative with claimable := w.cooperative.claimable.erase id } }

end ChainSwapSigner

def assertLockupSignerEnabled : M Unit := do
  Prog.throwIf (← ask Answer.flag?) (.message "signer disabled")

def assertSendApproved (action : SendApprovalAction) : M Unit :=
  if action = .accept then pure () else Prog.throw (.message "rejected")

def lockupAmount : ServerSwap → Nat
  | .reverse swap => swap.row.onchainAmount
  | .chain swap => swap.row.sendingData.expectedAmount

/-- `wallet.sendToAddress`, or a lockup function of the contract handler. -/
def sendLockup (swap : ServerSwap) : M (Nat × Nat × Nat) := do
  mark (.beginLockup swap)
  match ← ask Answer.send? (.sendLockup swap) with
  | .sent transactionId vout fee => pure (transactionId, vout, fee)
  | .failed => Prog.throw (.message "could not send")
  | .broadcastThenFailed _ => Prog.throw (.message "could not send")

def lockupUtxo (swap : ServerSwap) (approval : SendApprovalAction) (lightningClient : Bool) :
    M Unit := do
  let locked ← (do
    assertLockupSignerEnabled
    assertSendApproved approval
    external -- decodeInvoiceOrOffer or estimateFee
    let (transactionId, vout, fee) ← sendLockup swap
    some <$> WrappedSwapRepository.setServerLockupTransaction swap transactionId
      (lockupAmount swap) fee (some vout) : M (Option ServerSwap)).catching fun _ => do
      handleSwapSendFailed swap lightningClient
      pure none
  match locked with
  | some (.chain swap) => ChainSwapSigner.registerForClaim swap
  | _ => pure ()

def lockupVtxo (swap : ServerSwap) (approval : SendApprovalAction) (lightningClient : Bool) :
    M Unit :=
  (do
    assertLockupSignerEnabled
    assertSendApproved approval
    let (transactionId, vout, fee) ← sendLockup swap
    let _ ← WrappedSwapRepository.setServerLockupTransaction swap transactionId
      (lockupAmount swap) fee (some vout) : M Unit).catching fun _ =>
    handleSwapSendFailed swap lightningClient

/-- `lockupEther` and `lockupERC20`, which differ in the contract only. -/
def lockupContract (swap : ServerSwap) (approval : SendApprovalAction) (lightningClient : Bool) :
    M Unit :=
  (do
    assertLockupSignerEnabled
    assertSendApproved approval
    external -- contractsForAddress
    let (transactionId, _, fee) ← sendLockup swap
    let updatedSwap ← WrappedSwapRepository.setServerLockupTransaction swap transactionId
      (lockupAmount swap) fee none
    EthereumConfirmationTracker.trackTransaction updatedSwap transactionId
    Prog.spawn scanPendingTransactions : M Unit).catching fun _ =>
    handleSwapSendFailed swap lightningClient

def lockup (swap : ServerSwap) (approval : SendApprovalAction) (lightningClient : Bool) : M Unit :=
  match swap.refundCurrency.type.backend with
  | .utxo => lockupUtxo swap approval lightningClient
  | .evm => lockupContract swap approval lightningClient
  | .ark => lockupVtxo swap approval lightningClient

/-- Does nothing when the Lightning node of the swap cannot be resolved. -/
def lockupReverseSwap (swap : Instance ReverseSwap) (approval : SendApprovalAction) : M Unit := do
  Prog.when (← ask Answer.flag?) (lockup (.reverse swap) approval true)

def handleChainSwapLockup (swap : Instance ChainSwap) (approval : SendApprovalAction) : M Unit :=
  lockup (.chain swap) approval false

/-! ## Refunds -/

/-- The handler of `refund.confirmed`. -/
def refundConfirmed (swap : ServerSwap) : M Unit := do
  external.catching fun _ => pure () -- getRefundTransactionForUpdate
  match swap with
  | .chain _ => pure ()
  | .reverse _ =>
    withLock .reverseSwap do
      -- only when the node can be resolved
      Prog.when (← ask Answer.flag?) (cancelReverseInvoices.catching fun _ => pure ())

namespace RefundWatcher

def defaultRequiredConfirmations : Nat := 1

def getRequiredConfirmations (currency : Currency) : Nat :=
  if 0 < currency.requiredConfirmations then currency.requiredConfirmations
  else defaultRequiredConfirmations

/-- Ark transactions always count as confirmed. -/
def getConfirmations (currency : Currency) : M Nat := do
  match currency.type.backend with
  | .ark => pure (getRequiredConfirmations currency + 1)
  | _ =>
    match ← ask Answer.maybe? with
    | some confirmations => pure confirmations
    | none => Prog.throw (.message "transaction not found")

def checkRefund (swap : ServerSwap) : M Unit := do
  let confirmations ← getConfirmations swap.refundCurrency
  Prog.when (getRequiredConfirmations swap.refundCurrency ≤ confirmations) do
    let confirmed ← RefundTransactionRepository.setStatusConfirmedIfPending swap.id
    Prog.when confirmed (Prog.spawn (refundConfirmed swap))

def checkTransaction (swap : ServerSwap) : M Unit :=
  (checkRefund swap).catching fun _ => pure ()

/-- `getSwapForTransaction`. -/
def getSwapForTransaction (swapId : Nat) : M (Option ServerSwap) :=
  read fun w => match w.reverseSwaps.byId swapId, w.chainSwaps.byId swapId with
    | some swap, none => some (.reverse swap)
    | none, some swap => some (.chain swap)
    | _, _ => none

def checkPendingTransactions : M Unit :=
  withLock .pendingTransactions do
    let txs ← RefundTransactionRepository.getPendingTransactions
    Prog.forEach txs fun tx => do
      match ← getSwapForTransaction tx.id with
      | some swap => checkTransaction swap
      | none => Prog.throw (.message "no swap found for refund transaction")

end RefundWatcher

/-- The refund row is stored before the transaction is broadcast. -/
def refundUtxo (swap : ServerSwap) : M Unit := do
  external -- getRawTransaction
  external -- getAddress and estimateFee
  let minerFee ← ask Answer.number? -- calculateTransactionFee
  let refundTransactionId ← ask Answer.number?
  let _ ← RefundTransactionRepository.addTransaction swap.id refundTransactionId (some 0)
  external -- sendRawTransaction
  let _ ← WrappedSwapRepository.setTransactionRefunded swap minerFee
    (.refundedCoins (swap.serverLockupTransactionId.getD 0))

/-- The refund is confirmed right away through the watcher. -/
def refundVtxo (swap : ServerSwap) : M Unit := do
  match ← ask Answer.maybe? with -- refundVHtlc
  | none => Prog.throw (.message "refundVHtlc failed")
  | some txId =>
    let _ ← RefundTransactionRepository.addTransaction swap.id txId none
    let refundedSwap ← WrappedSwapRepository.setTransactionRefunded swap 0 (.refundedCoins txId)
    RefundWatcher.checkTransaction refundedSwap

/-- `refundEther` and `refundERC20`, which differ in the contract only. -/
def refundContract (swap : ServerSwap) : M Unit := do
  external -- contractsForAddress
  external -- querySwapValuesFromLock
  match ← ask Answer.maybe? with -- refundEther or refundToken
  | none => Prog.throw (.message "refund failed")
  | some txId =>
    let _ ← RefundTransactionRepository.addTransaction swap.id txId none
    let fee ← ask Answer.number?
    let _ ← WrappedSwapRepository.setTransactionRefunded swap fee
      (.refundedCoins (swap.serverLockupTransactionId.getD 0))

def refundSwap (swap : ServerSwap) : M Unit :=
  match swap.refundCurrency.type.backend with
  | .utxo => refundUtxo swap
  | .evm => refundContract swap
  | .ark => refundVtxo swap

/-! ## Expiry -/

/-- `handleFailedRefund` only logs and notifies. -/
def handleFailedRefund (_ : Error) : M Unit := pure ()

/-- Only the status is taken from the second query; the swap acted on is the one of the event. -/
def expireReverseSwap (swap : Instance ReverseSwap) : M Unit := do
  match ← ReverseSwapRepository.getReverseSwap swap.id (.expireReverseSwap swap) with
  | none => Prog.throw (.message "reverse swap not found")
  | some queried =>
    if queried.row.status = swapExpired || queried.row.status = transactionRefunded then pure ()
    else
      (do
        if swap.row.transactionId.isSome then refundSwap (.reverse swap)
        else
          let _ ← WrappedSwapRepository.setStatus (.reverse swap) swapExpired
            (some .onchainHtlcTimedOut) (.setReverseSwapExpired swap.id) : M Unit).catching
        handleFailedRefund

def expireChainSwap (id : Nat) : M Unit := do
  match ← ChainSwapRepository.getChainSwap id (.expireChainSwap id) with
  | none => Prog.throw (.message "chain swap not found")
  | some swap =>
    if finalChainSwapEvents.contains swap.row.status then pure ()
    else
      (do
        if swap.row.sendingData.transactionId.isSome then refundSwap (.chain swap)
        else
          let _ ← WrappedSwapRepository.setStatus (.chain swap) swapExpired
            (some .onchainHtlcTimedOut) (.setChainSwapExpired swap.id) : M Unit).catching
        handleFailedRefund

end Boltz

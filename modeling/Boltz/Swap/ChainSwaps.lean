import Boltz.Swap.ServerLockup

/-!
# Chain swaps (`SwapNursery.ts`, `UtxoNursery.ts`, `EthereumNursery.ts`, `ArkNursery.ts`)
-/

namespace Boltz

open Async SwapUpdateEvent

/-! ## The server locks up -/

def actionableChainSwapLockupStatuses : List SwapUpdateEvent :=
  [swapCreated, transactionMempool, transactionConfirmed]

/-- Whether the event is about another transaction than the one stored in the row. -/
def ownedByAnother (row : ChainSwap) (event : Option (Nat × Nat)) : Bool :=
  match event with
  | none => false
  | some (transactionId, vout) =>
    row.receivingData.transactionId != some transactionId ||
      row.receivingData.transactionVout != some vout

/-- `event` is the transaction and vout of a lockup event, none in the retry of a held lockup. -/
def getChainSwapForLockup (id : Nat) (event : Option (Nat × Nat)) (l : Label) :
    M (Option (Instance ChainSwap)) := do
  match ← ChainSwapRepository.getChainSwap id l with
  | none => pure none
  | some fetched =>
    if finalChainSwapEvents.contains fetched.row.status then pure none
    else if !actionableChainSwapLockupStatuses.contains fetched.row.status then pure none
    else if fetched.row.createdRefundSignature then pure none
    else if fetched.row.sendingData.transactionId.isSome then pure none
    else if ownedByAnother fetched.row event then pure none
    else pure (some fetched)

/-- The handlers of `chainSwap.lockup`, `eth.lockup` and `erc20.lockup`, and the retry of a held
lockup. -/
def chainSwapLockup (id : Nat) (event : Option (Nat × Nat)) : M Unit :=
  withSendApproval id .chain (getChainSwapForLockup id event) handleChainSwapLockup

/-! ## Failed lockups -/

/-- The status is stored through the swap of the event. -/
def chainLockupFailed (swap : Instance ChainSwap) (reason : SwapError) : M Unit := do
  match ← ChainSwapRepository.getChainSwap swap.id with
  | none => Prog.throw (.message "chain swap not found")
  | some loaded =>
    if loaded.row.sendingData.transactionId.isSome then pure ()
    else
      let _ ← WrappedSwapRepository.setStatus (.chain swap) transactionLockupFailed (some reason)

/-- The handler of `chainSwap.lockup.failed`. -/
def chainSwapLockupFailed (swap : Instance ChainSwap) (reason : SwapError) : M Unit :=
  withLock .chainSwap (chainLockupFailed swap reason)

/-- The handler of `chainSwap.lockup.zeroconf.rejected` only emits. -/
def chainZeroConfRejected : M Unit := withLock .chainSwap (pure ())

/-! ## User lockups -/

inductive TransactionStatus where
  | confirmed | zeroConfSafe | notSafe
  deriving DecidableEq, Repr

/-- Why the amount of a lockup is not accepted. The answer is that of the overpayment protector. -/
def checkAmount (expectedAmount outputValue : Nat) : M (Option SwapError) := do
  if expectedAmount > outputValue || outputValue = 0 then
    pure (some (if outputValue = 0 then .incorrectAssetSent
      else .insufficientAmount outputValue expectedAmount))
  else
    let overpaid ← ask Answer.flag?
    pure (if overpaid then some (.overpaidAmount outputValue expectedAmount) else none)

namespace UtxoNursery

/-- Whether the 0-conf lockup is rejected. -/
def rejectsZeroConf (acceptZeroConf : Bool) (status : TransactionStatus) : M Bool := do
  if status = .notSafe then pure true
  else if !acceptZeroConf then pure true
  else
    let zeroConfAccepted ← ask Answer.flag?
    if !zeroConfAccepted then pure true
    else
      external -- transactions of the inputs
      let signalsRbf ← ask Answer.flag?
      if signalsRbf then pure true
      else
        let isAcceptable ← ask Answer.flag?
        pure !isAcceptable

/-- The part of `checkChainSwapTransaction` after the output was found. -/
def checkChainSwapOutput (swap : Instance ChainSwap) (transactionId vout outputValue : Nat)
    (status : TransactionStatus) (options : ChainSwapRepository.Options) : M Unit := do
  let incoming : LockupIdentity := ⟨transactionId, some vout⟩
  if shouldIgnoreCompetingLockup
      (storedLockup swap.row.receivingData.transactionId swap.row.receivingData.transactionVout)
      incoming swap.row.status then pure ()
  else
    let (outcome, swap) ← ChainSwapRepository.setUserLockupTransaction swap incoming outputValue
      (if status = .confirmed then transactionConfirmed else transactionMempool) options
    if outcome = .rejected then pure ()
    else if !ChainSwapRepository.canActOnUserLockup swap.row options then pure ()
    else match ← checkAmount swap.row.receivingData.expectedAmount outputValue with
      | some reason => Prog.spawn (chainSwapLockupFailed swap reason)
      | none =>
        let reject ← ask Answer.flag? -- transactionHook
        if reject then Prog.spawn (chainSwapLockupFailed swap .blockedAddress)
        else if status = .confirmed then
          Prog.spawn (chainSwapLockup swap.id (some (transactionId, vout)))
        else
          let rejected ← rejectsZeroConf swap.row.acceptZeroConf status
          if rejected then
            let rejectedSwap ← ChainSwapRepository.setZeroConfRejected swap incoming
            Prog.when (rejectedSwap.row.status = transactionZeroConfRejected)
              (Prog.spawn chainZeroConfRejected)
          else Prog.spawn (chainSwapLockup swap.id (some (transactionId, vout)))

def checkChainSwapTransaction (swap : Instance ChainSwap) (transactionId : Nat)
    (status : TransactionStatus) (options : ChainSwapRepository.Options) : M Unit := do
  match ← read (fun w => w.lockupOutput .chain swap.id transactionId) with
  | none => pure ()
  | some (vout, outputValue) =>
    checkChainSwapOutput swap transactionId vout outputValue status options

/-- `checkChainSwap` of `checkOutputs`, for one output address. -/
def checkChainSwap (symbol address transactionId : Nat) (status : TransactionStatus) :
    M Unit := do
  match ← ChainSwapRepository.getChainSwapWhere fun s =>
      (s.receivingData.lockupAddress == address || s.sendingData.lockupAddress == address) &&
        (ChainSwapRepository.getUserLockupTransactionStatuses {}).contains s.status with
  | none => pure ()
  | some swap =>
    Prog.when (swap.row.receivingData.currency.symbol = symbol)
      (checkChainSwapTransaction swap transactionId status {})

end UtxoNursery

/-- The values of a lockup event of the contracts. -/
structure EvmLockup where
  transactionHash : Nat
  logIndex : Nat
  amount : Nat
  claimAddress : Nat
  refundAddress : Nat
  tokenAddress : Nat
  timelock : Nat
  deriving DecidableEq, Repr

namespace EthereumNursery

/-- The address of the server. -/
def serverAddress : Nat := 0

def checkAmount (amount : Nat) (expectedAmount : Option Nat) : M (Option SwapError) :=
  match expectedAmount with
  | none => pure none
  | some expected =>
    if expected > amount then pure (some (.insufficientAmount amount expected))
    else do
      let overpaid ← ask Answer.flag?
      pure (if overpaid then some (.overpaidAmount amount expected) else none)

/-- `validateEtherSwapLockup` and `validateErc20SwapLockup`. The expected token of the second is
reported as the address of the server. -/
def validateLockup (values : EvmLockup) (timeoutBlockHeight : Nat) (expectedAmount : Option Nat) :
    M (Option SwapError) := do
  if values.claimAddress ≠ serverAddress then
    pure (some (.invalidClaimAddress values.claimAddress serverAddress))
  else
    let otherToken ← ask Answer.flag?
    if otherToken then pure (some (.invalidTokenLocked values.tokenAddress serverAddress))
    else if values.timelock < timeoutBlockHeight then
      pure (some (.invalidTimelock values.timelock timeoutBlockHeight))
    else
      let reason ← checkAmount values.amount expectedAmount
      if reason.isSome then pure reason
      else
        let reject ← ask Answer.flag? -- transactionHook
        pure (if reject then some .blockedAddress else none)

/-- `shouldEmitLockupFailed`. -/
def shouldEmitLockupFailed (status : SwapUpdateEvent) (failureReason : Option SwapError)
    (outcome : LockupWriteOutcome) : Bool :=
  status == transactionLockupFailed && (outcome == .acquired || failureReason.isNone)

/-- `processLockup` for chain swaps. A lockup that fails the checks is stored as failed. -/
def processChainLockup (swap : Instance ChainSwap) (values : EvmLockup)
    (options : ChainSwapRepository.Options) : M Unit :=
  withLock (.ethereumSwap swap.id) do
    let incoming : LockupIdentity := ⟨values.transactionHash, some values.logIndex⟩
    if shouldIgnoreCompetingLockup
        (storedLockup swap.row.receivingData.transactionId swap.row.receivingData.transactionVout)
        incoming swap.row.status then pure ()
    else
      let reason ← validateLockup values swap.row.receivingData.timeoutBlockHeight
        (some swap.row.receivingData.expectedAmount)
      let (outcome, updated) ← ChainSwapRepository.setUserLockupTransaction swap incoming
        values.amount (if reason.isNone then transactionConfirmed else transactionLockupFailed)
        options
      if outcome = .rejected then pure ()
      else match reason with
        | some reason =>
          Prog.when (shouldEmitLockupFailed updated.row.status updated.row.failureReason outcome)
            (Prog.spawn (chainSwapLockupFailed updated reason))
        | none =>
          Prog.when (ChainSwapRepository.canActOnUserLockup updated.row options)
            (Prog.spawn
              (chainSwapLockup updated.id (some (values.transactionHash, values.logIndex))))

/-- `checkEtherSwapLockup` and `checkErc20SwapLockup`: the wallet of the receiving currency has to
be one of the nursery. -/
def checkChainSwapLockup (swap : Instance ChainSwap) (values : EvmLockup)
    (options : ChainSwapRepository.Options) : M Unit :=
  Prog.when (swap.row.receivingData.currency.type.backend = .evm)
    (processChainLockup swap values options)

/-- The chain swap half of the listeners of `eth.lockup` and `erc20.lockup`. -/
def chainLockupEvent (preimageHash : Nat) (values : EvmLockup) : M Unit := do
  match ← ChainSwapRepository.getChainSwapWhere fun s =>
      s.status == swapCreated && s.preimageHash == preimageHash with
  | none => pure ()
  | some swap => checkChainSwapLockup swap values {}

end EthereumNursery

structure CreatedVHtlc where
  txId : Nat
  vout : Nat
  amount : Nat
  address : Nat
  deriving DecidableEq, Repr

namespace ArkNursery

def checkChainSwapLockup (vHtlc : CreatedVHtlc) (options : ChainSwapRepository.Options) :
    M Unit := do
  match ← ChainSwapRepository.getChainSwapWhere fun s =>
      (s.receivingData.lockupAddress == vHtlc.address ||
        s.sendingData.lockupAddress == vHtlc.address) &&
        (ChainSwapRepository.getUserLockupTransactionStatuses options).contains s.status with
  | none => pure ()
  | some swap =>
    let incoming : LockupIdentity := ⟨vHtlc.txId, some vHtlc.vout⟩
    if swap.row.receivingData.currency.type.backend ≠ .ark then pure ()
    else if shouldIgnoreCompetingLockup
        (storedLockup swap.row.receivingData.transactionId swap.row.receivingData.transactionVout)
        incoming swap.row.status then pure ()
    else
      let (outcome, swap) ← ChainSwapRepository.setUserLockupTransaction swap incoming
        vHtlc.amount transactionConfirmed options
      if outcome = .rejected then pure ()
      else if !ChainSwapRepository.canActOnUserLockup swap.row options then pure ()
      else if swap.row.receivingData.expectedAmount > vHtlc.amount then
        Prog.spawn (chainSwapLockupFailed swap
          (.insufficientAmount vHtlc.amount swap.row.receivingData.expectedAmount))
      else
        let overpaid ← ask Answer.flag?
        if overpaid then
          Prog.spawn (chainSwapLockupFailed swap
            (.overpaidAmount vHtlc.amount swap.row.receivingData.expectedAmount))
        else Prog.spawn (chainSwapLockup swap.id (some (vHtlc.txId, vHtlc.vout)))

end ArkNursery

/-! ## Confirmation and expiry -/

def confirmChainLockup (id : Nat) : M Unit := do
  match ← ChainSwapRepository.getChainSwap id with
  | none => pure ()
  | some swap =>
    if swap.row.status = transactionClaimPending ||
        successSwapUpdateEvents.contains swap.row.status then pure ()
    else if swap.row.preimage.isSome then pure ()
    else
      let _ ← WrappedSwapRepository.setStatus (.chain swap) transactionServerConfirmed none
        (.chainLockupConfirmed id)

/-- The handler of `server.lockup.confirmed` for chain swaps. -/
def chainLockupConfirmed (id : Nat) : M Unit := withLock .chainSwap (confirmChainLockup id)

namespace UtxoNursery

/-- The chain swap half of `checkServerLockupMempoolTransactions`. -/
def checkChainMempool (symbol : Nat) : M Unit :=
  withLock .swapLockupConfirmation do
    let mempoolSwaps ← ChainSwapRepository.getChainSwaps fun s =>
      s.status == transactionServerMempool
    Prog.forEach mempoolSwaps fun swap => do
      Prog.when (swap.row.sendingData.currency.symbol = symbol) do
        match ← ask Answer.maybe? with -- confirmations of the transaction
        | none => Prog.throw (.message "getRawTransactionVerbose failed")
        | some confirmations =>
          Prog.when (0 < confirmations) (Prog.spawn (chainLockupConfirmed swap.id))

end UtxoNursery

/-- The handler of `chainSwap.expired`. -/
def chainSwapExpired (id : Nat) : M Unit := withLock .chainSwap (expireChainSwap id)

/-- `checkExpiredChainSwaps` of each nursery; `watches` are the currencies of the nursery. -/
def checkExpiredChainSwaps (watches : Currency → Bool) (height : Nat) : M Unit := do
  let expirable ← ChainSwapRepository.getChainSwapsExpirable watches height
  Prog.forEach expirable fun swap => Prog.spawn (chainSwapExpired swap.id)

end Boltz

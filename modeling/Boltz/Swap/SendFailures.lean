import Boltz.Async.Traced
import Boltz.Consts.Enums
import Boltz.Ethereum.TokenAmounts
import Boltz.Swap.SendApproval

/-!
# The calls of a server lockup (`SwapNursery.ts`, `ContractHandler.ts`, the wallet providers)

`lockupUtxo`, `lockupVtxo`, `lockupEther` and `lockupERC20` with every call they make and every
way in which each can fail, database writes and event listeners included. The outcomes of the
calls are parameters; which acts the function takes follows from them.
-/

namespace Boltz.SendFailures

open Async Ethereum SwapUpdateEvent

/-! ## Swaps -/

/-- The fields of a reverse swap, or of the `sendingData` of a chain swap. -/
structure LockupDetails where
  lockupAddress : Nat
  expectedAmount : Nat
  claimAddress : Option Nat
  timeoutBlockHeight : Nat
  deriving DecidableEq, Repr

/-- `ReverseSwap | ChainSwapInfo` with what only a reverse swap has. -/
inductive LockupKind where
  | reverse (minerFeeInvoice : Option String) (minerFeeOnchainAmount : Option Nat)
  | chain
  deriving DecidableEq, Repr

structure LockupSwap where
  id : String
  preimageHash : Nat
  failureReason : Option String
  details : LockupDetails
  kind : LockupKind
  deriving DecidableEq, Repr

namespace LockupSwap

def type (swap : LockupSwap) : SwapType :=
  match swap.kind with
  | .reverse _ _ => .reverseSubmarine
  | .chain => .chain

/-- The miner fee invoice, unless it is missing or empty. -/
def minerFeeInvoice (swap : LockupSwap) : Option String :=
  match swap.kind with
  | .reverse invoice _ => invoice.filter (· ≠ "")
  | .chain => none

/-- The prepaid miner fee, unless it is missing or zero. -/
def minerFeeOnchainAmount (swap : LockupSwap) : Option Nat :=
  match swap.kind with
  | .reverse _ amount => amount.filter (· ≠ 0)
  | .chain => none

end LockupSwap

def swapTypeToPrettyString : SwapType → String
  | .submarine => "Submarine"
  | .reverseSubmarine => "Reverse"
  | .chain => "Chain"

def lockupAmount (swap : LockupSwap) : Nat := swap.details.expectedAmount

/-! ## Acts and outcomes -/

/-- What the node or the contract is asked to pay. -/
inductive Payment where
  | utxo (address amount : Nat) (feePerVbyte : Option Nat)
  | lock (preimageHash value : Nat) (prepay : Option Nat) (claimAddress : Option Nat)
      (timelock : Nat)
  deriving DecidableEq, Repr

/-- The values a row is updated with. -/
inductive RowUpdate where
  | serverLockup (transactionId amount fee : Nat) (vout : Option Nat) (status : SwapUpdateEvent)
  | status (status : SwapUpdateEvent) (failureReason : Option String)
  deriving DecidableEq, Repr

inductive Act where
  /-- The call that broadcasts the coins returned. -/
  | broadcast (transactionId : Nat) (payment : Payment)
  | labelled (transactionId : Nat) (label : String)
  | updated (values : RowUpdate)
  | cancelledHoldInvoice (preimageHash : Nat)
  | tracked (transactionId : Nat)
  | registeredForClaim (id : String)
  deriving DecidableEq, Repr

abbrev Call := Except Error

abbrev Run := Traced Act Error

/-- Of a call that changes something elsewhere: it can take effect and be rejected all the same,
when only its answer is lost. -/
inductive Effect where
  | done | rejected | doneThenRejected
  deriving DecidableEq, Repr

namespace Effect

def happens : Effect → Bool
  | done | doneThenRejected => true
  | rejected => false

def returns : Effect → Bool
  | done => true
  | rejected | doneThenRejected => false

/-- An act that happens with the effect. -/
def run (effect : Effect) (x : Act) : Run Unit := do
  Traced.when effect.happens (Traced.act x)
  Traced.when (!effect.returns) (Traced.throw (.message "rejected"))

end Effect

/-- `ContractTransactionResponse`. -/
structure ContractTransactionResponse where
  hash : Nat
  gasLimit : Nat
  type : Nat
  maxFeePerGas : Option Nat
  gasPrice : Nat
  deriving DecidableEq, Repr

/-- The outcomes of what all lockup functions call. -/
structure Calls where
  signerDisabled : Bool
  /-- of `setServerLockupTransaction` -/
  storeLockup : Effect
  /-- of the listeners of `coins.sent` -/
  coinsSent : Call Unit
  /-- of `cancelHoldInvoice`, a timeout of the race included -/
  cancelHoldInvoice : Effect
  /-- of `setStatus` -/
  storeStatus : Effect
  /-- of the listeners of `coins.failedToSend` -/
  coinsFailedToSend : Call Unit

/-- The outcomes of `sendToAddress` of a wallet provider, which asks its node for a fee rate or a
block height first and for the transaction it sent afterwards. -/
structure WalletCalls where
  before : Call Unit
  send : Call Nat
  /-- the output and the fee -/
  lookup : Call (Nat × Nat)

structure UtxoCalls extends Calls where
  /-- of `decodeInvoiceOrOffer`: the amount in millisatoshis -/
  decodeMinerFeeInvoice : String → Call Nat
  estimateFee : Call Nat
  wallet : WalletCalls
  /-- of `registerForClaim` -/
  registerForClaim : Call Unit

structure VtxoCalls extends Calls where
  wallet : WalletCalls

structure ContractCalls extends Calls where
  nurseryFound : Bool
  /-- whether contracts are at the address -/
  contractsForAddress : Call Bool
  /-- of what the contract handler asks before it sends: gas estimates and prices -/
  prepareLock : Call Unit
  lock : Call ContractTransactionResponse
  addLabel : Effect

/-! ## Shared steps -/

def assertLockupSignerEnabled (calls : Calls) (swap : LockupSwap) : Run Unit :=
  Traced.when calls.signerDisabled <| Traced.throw <| .message <|
    "signer " ++ (match swap.kind with
      | .reverse _ _ => "SIGNER_REVERSE_LOCKUP"
      | .chain => "SIGNER_CHAIN_LOCKUP") ++ " is disabled for " ++
      swapTypeToPrettyString swap.type ++ " Swap " ++ swap.id

def assertSendApproved (approval : SendApprovalAction) : Run Unit :=
  Traced.when (approval ≠ .accept) (Traced.throw (.message "rejected"))

def setServerLockupTransaction (calls : Calls) (swap : LockupSwap)
    (transactionId onchainAmount fee : Nat) (vout : Option Nat) : Run Unit :=
  calls.storeLockup.run <| .updated <| .serverLockup transactionId onchainAmount fee vout
    (match swap.kind with
      | .reverse _ _ => transactionMempool
      | .chain => transactionServerMempool)

def setStatus (calls : Calls) (swap : LockupSwap) (status : SwapUpdateEvent)
    (failureReason : String) : Run Unit :=
  calls.storeStatus.run <| .updated <| .status status <|
    (swap.failureReason.filter (· ≠ "")).or (some failureReason)

def handleSwapSendFailed (calls : Calls) (swap : LockupSwap) (lightningClient : Bool) :
    Run Unit := do
  Traced.when lightningClient <|
    (calls.cancelHoldInvoice.run (.cancelledHoldInvoice swap.preimageHash)).catching
      fun _ => pure ()
  setStatus calls swap transactionFailed SwapError.coinsCouldNotBeSent.message
  Traced.call calls.coinsFailedToSend

/-! ## Wallets and contracts -/

def sendToAddress (calls : WalletCalls) (address amount : Nat) (satPerVbyte : Option Nat) :
    Run (Nat × Nat × Nat) := do
  Traced.call calls.before
  let transactionId ← Traced.call calls.send
  Traced.act (.broadcast transactionId (.utxo address amount satPerVbyte))
  let (vout, fee) ← Traced.call calls.lookup
  pure (transactionId, vout, fee)

def lockupLabel (swap : LockupSwap) (isPrepayMinerFee : Bool) : String :=
  "Lockup" ++ (if isPrepayMinerFee then " with prepay miner fee" else "") ++ " for " ++
    swapTypeToPrettyString swap.type ++ " Swap " ++ swap.id

/-- The functions of `ContractHandler`, which differ in the contract and in what is paid. The
label is stored once the contract call returned. -/
def sendLock (calls : ContractCalls) (label : String) (payment : Payment) :
    Run ContractTransactionResponse := do
  Traced.call calls.prepareLock
  let response ← Traced.call calls.lock
  Traced.act (.broadcast response.hash payment)
  calls.addLabel.run (.labelled response.hash label)
  pure response

/-- Throws when a transaction of type 2 comes without its fee. -/
def calculateEthereumTransactionFee (tx : ContractTransactionResponse) : Call Nat :=
  if tx.type = 2 then
    match tx.maxFeePerGas with
    | some maxFeePerGas => .ok (tx.gasLimit * maxFeePerGas / etherDecimals)
    | none => .error (.message "Cannot mix BigInt and other types, use explicit conversions")
  else .ok (tx.gasLimit * tx.gasPrice / etherDecimals)

/-! ## Lockups -/

/-- `Math.round` of a fraction. -/
def roundDiv (a b : Nat) : Nat := (2 * a + b) / (2 * b)

def msatToSat (msat : Nat) : Nat := roundDiv msat 1000

/-- `reverseLockup` of a legacy swap on a Bitcoin-like chain. -/
def reverseLockupSize : Nat := 153

def feePerVbyte (calls : UtxoCalls) (swap : LockupSwap) : Run Nat :=
  match swap.minerFeeInvoice with
  | some invoice => do
    let amountMsat ← Traced.call (calls.decodeMinerFeeInvoice invoice)
    pure (roundDiv (msatToSat amountMsat) reverseLockupSize)
  | none => Traced.call calls.estimateFee

/-- The claim is registered outside of the `try` block. -/
def lockupUtxo (calls : UtxoCalls) (swap : LockupSwap) (approval : SendApprovalAction)
    (lightningClient : Bool) : Run Unit := do
  let sent ← (do
    assertLockupSignerEnabled calls.toCalls swap
    assertSendApproved approval
    let feePerVbyte ← feePerVbyte calls swap
    let (transactionId, vout, fee) ← sendToAddress calls.wallet swap.details.lockupAddress
      (lockupAmount swap) (some feePerVbyte)
    setServerLockupTransaction calls.toCalls swap transactionId (lockupAmount swap) fee (some vout)
    Traced.call calls.coinsSent
    pure true : Run Bool).catching fun _ => do
      handleSwapSendFailed calls.toCalls swap lightningClient
      pure false
  Traced.when (sent && swap.type == .chain) do
    Traced.call calls.registerForClaim
    Traced.act (.registeredForClaim swap.id)

def lockupVtxo (calls : VtxoCalls) (swap : LockupSwap) (approval : SendApprovalAction)
    (lightningClient : Bool) : Run Unit :=
  (do
    assertLockupSignerEnabled calls.toCalls swap
    assertSendApproved approval
    let (transactionId, vout, fee) ← sendToAddress calls.wallet swap.details.lockupAddress
      (lockupAmount swap) none
    setServerLockupTransaction calls.toCalls swap transactionId (lockupAmount swap) fee (some vout)
    Traced.call calls.coinsSent : Run Unit).catching fun _ =>
    handleSwapSendFailed calls.toCalls swap lightningClient

/-- `lockupEther` and `lockupERC20`, which differ in the contract and in how an amount is
formatted. -/
def lockupContract (formatAmount : Nat → Nat) (calls : ContractCalls) (swap : LockupSwap)
    (approval : SendApprovalAction) (lightningClient : Bool) : Run Unit :=
  (do
    assertLockupSignerEnabled calls.toCalls swap
    assertSendApproved approval
    Traced.when (!calls.nurseryFound) (Traced.throw (.message "no nursery"))
    let contracts ← Traced.call calls.contractsForAddress
    Traced.when (!contracts) (Traced.throw (.message "no contracts"))
    let contractTransaction ← sendLock calls (lockupLabel swap swap.minerFeeOnchainAmount.isSome)
      (.lock swap.preimageHash (formatAmount swap.details.expectedAmount)
        (swap.minerFeeOnchainAmount.map (· * etherDecimals)) swap.details.claimAddress
        swap.details.timeoutBlockHeight)
    let fee ← Traced.call (calculateEthereumTransactionFee contractTransaction)
    setServerLockupTransaction calls.toCalls swap contractTransaction.hash
      swap.details.expectedAmount fee none
    Traced.act (.tracked contractTransaction.hash)
    Traced.call calls.coinsSent : Run Unit).catching fun _ =>
    handleSwapSendFailed calls.toCalls swap lightningClient

def lockupEther : ContractCalls → LockupSwap → SendApprovalAction → Bool → Run Unit :=
  lockupContract (· * etherDecimals)

def lockupERC20 (decimals : Nat) :
    ContractCalls → LockupSwap → SendApprovalAction → Bool → Run Unit :=
  lockupContract (formatTokenAmount decimals)

end Boltz.SendFailures

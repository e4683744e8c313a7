import Boltz.Ethereum.ContractUtils
import Boltz.Rates.Quotes
import Boltz.Service.Signers

/-!
# Checks of commitments (`contracts/Commitments.ts`, `cooperative/EipSigner.ts`)

What the contracts and the wallets compute (hashes, signatures, token decimals) are functions of
the manager. Addresses are compared without their case, so they are numbers here too.
-/

namespace Boltz.Ethereum

open ConsolidatedEventHandler (LockupName Log Receipt)
open SwapUpdateEvent

/-! ## Swaps -/

/-- A swap whose user locks up on an EVM chain. -/
inductive UserSwap where
  | submarine (row : Swap)
  | chain (row : ChainSwap)
  deriving DecidableEq, Repr

namespace UserSwap

def type : UserSwap → SwapType
  | submarine _ => .submarine
  | chain _ => .chain

def version : UserSwap → SwapVersion
  | submarine row => row.version
  | chain _ => .taproot

def preimageHash : UserSwap → Nat
  | submarine row => row.preimageHash
  | chain row => row.preimageHash

def status : UserSwap → SwapUpdateEvent
  | submarine row => row.status
  | chain row => row.status

def chainSymbol : UserSwap → Nat
  | submarine row => row.chainCurrency.symbol
  | chain row => row.receivingData.currency.symbol

def lockupAddress : UserSwap → Nat
  | submarine row => row.lockupAddress
  | chain row => row.receivingData.lockupAddress

def timeoutBlockHeight : UserSwap → Nat
  | submarine row => row.timeoutBlockHeight
  | chain row => row.receivingData.timeoutBlockHeight

def expectedAmount : UserSwap → Option Nat
  | submarine row => row.expectedAmount
  | chain row => some row.receivingData.expectedAmount

/-- The recorded lockup of the user. -/
def lockup : UserSwap → Option LockupIdentity
  | submarine row => storedLockup row.lockupTransactionId row.lockupTransactionVout
  | chain row => storedLockup row.receivingData.transactionId row.receivingData.transactionVout

def createdRefundSignature : UserSwap → Bool
  | submarine row => row.createdRefundSignature
  | chain row => row.createdRefundSignature

/-- Whether the lockup transaction of the server is stored. -/
def serverLocked : UserSwap → Bool
  | submarine _ => false
  | chain row => row.sendingData.transactionId.isSome

def setStatus (status : SwapUpdateEvent) : UserSwap → UserSwap
  | submarine row => .submarine { row with status }
  | chain row => .chain { row with status }

def setRefundSignatureCreated : UserSwap → UserSwap
  | submarine row => .submarine { row with createdRefundSignature := true }
  | chain row => .chain { row with createdRefundSignature := true }

/-- `setLockupTransaction` or `setUserLockupTransaction`. -/
def setLockup (incoming : LockupIdentity) (amount : Nat) (status : SwapUpdateEvent) :
    UserSwap → LockupWriteOutcome × UserSwap
  | submarine row =>
    let result := SwapRepository.lockupWrite row incoming amount status
    (result.1, .submarine result.2)
  | chain row =>
    let result := ChainSwapRepository.userLockupWrite row incoming amount status {}
    (result.1, .chain result.2)

/-- `setServerLockupTransaction`. -/
def setServerLockup (transactionId : Nat) : UserSwap → UserSwap
  | submarine row => .submarine row
  | chain row =>
    .chain
      { row with
        status := transactionServerMempool
        sendingData := { row.sendingData with transactionId := some transactionId } }

/-- `refundNonEligibilityReason`, with what the Lightning nodes and the table of the refund
transactions answer. -/
def refundNonEligibilityReason (swap : UserSwap) (lightningPayment : Bool)
    (refundTransaction : Option RefundStatus) : Option RefundRejectionReason :=
  if swap.version ≠ .taproot then some .versionNotTaproot
  else if !failedSwapUpdateEvents.contains swap.status then some .statusNotEligible
  else if swap.type = .submarine && lightningPayment then some .lightningPaymentPending
  else if swap.serverLocked && refundTransaction.any (· != .confirmed) then
    some .refundNotConfirmed
  else none

end UserSwap

/-! ## The manager of a chain -/

/-- The contracts of one version. -/
structure Contracts where
  version : Nat
  etherSwap : Nat
  erc20Swap : Nat
  commitmentSwap : Bool
  deriving DecidableEq, Repr

structure EthereumManager where
  symbol : Nat
  address : Nat
  contracts : List Contracts
  requiredConfirmations : Nat
  overpaymentProtector : OverpaymentProtector := {}
  /-- The addresses of the tokens that have a wallet. -/
  tokenAddresses : Nat → Option Nat
  normalizeTokenAmount : Nat → Nat → Nat
  hashValues : Contract → SwapValues → Nat
  /-- `Signature.from` accepts it. -/
  isSignature : Nat → Bool
  checkCommitmentSignature : Contract → Nat → SwapValues → Nat → Bool
  /-- The address that `verifyMessage` recovers. -/
  recoverAddress : Nat × Nat × Option Nat → Nat → Option Nat

def etherDecimals : Nat := 10 ^ 10

/-- The amount of a lockup in the smallest unit that the server counts. -/
def EthereumManager.lockupAmount (manager : EthereumManager) (symbol : Nat)
    (values : SwapValues) : Nat :=
  if symbol = manager.symbol then values.amount / etherDecimals
  else manager.normalizeTokenAmount symbol values.amount

/-- `contractsForAddress`, and the one of its contracts that holds the currency. -/
def EthereumManager.contractForAddress (manager : EthereumManager) (symbol address : Nat) :
    Option Contract :=
  (manager.contracts.find? fun c => c.etherSwap == address || c.erc20Swap == address).map fun c =>
    ⟨if symbol = manager.symbol then .ethLockup else .erc20Lockup, c.version⟩

/-! ## Commits -/

inductive CommitError where
  | swapNotFound
  | contractNotFound (address : Nat)
  | transactionNotFound
  | lockupEventNotFound
  | multipleLockupEvents
  | claimAddressMismatch (actual expected : Nat)
  | commitmentExists
  | preimageHashNotZero
  | timelockBeforeTimeout
  | swapAmountNotFound
  | malformedSignature
  | invalidMaxOverpaymentPercentage
  | walletNotFound
  | tokenAddressMismatch
  | insufficientAmount (actual expected : Nat)
  | overpaidAmount (actual expected : Nat)
  | invalidSignature
  deriving DecidableEq, Repr

def CommitError.message : CommitError → String
  | swapNotFound => "swap not found"
  | contractNotFound address => s!"contract not found for address: {address}"
  | transactionNotFound => "transaction not found"
  | lockupEventNotFound => "lockup event not found"
  | multipleLockupEvents => "multiple lockup events found; logIndex has to be specified"
  | claimAddressMismatch actual expected => s!"claim address mismatch: {actual} !== {expected}"
  | commitmentExists => "commitment exists already"
  | preimageHashNotZero => "commitment preimage hash has to be all zeros"
  | timelockBeforeTimeout => "commitment timelock expires before swap timeout"
  | swapAmountNotFound => "swap amount not found"
  | malformedSignature => "invalid signature: "
  | invalidMaxOverpaymentPercentage => "invalid maxOverpaymentPercentage"
  | walletNotFound => "wallet not found"
  | tokenAddressMismatch => "token address mismatch"
  | insufficientAmount actual expected => s!"insufficient amount: {actual} < {expected}"
  | overpaidAmount actual expected => s!"overpaid amount: {actual} > {expected}"
  | invalidSignature => "invalid signature"

/-- The arguments of `commit`. A percentage that is not finite is `some none`. -/
structure CommitRequest where
  currency : Nat
  swapId : Nat
  signature : Nat
  transactionHash : Nat
  logIndex : Option Nat := none
  maxOverpaymentPercentage : Option (Option ℚ) := none
  deriving DecidableEq

namespace Commitments

variable (manager : EthereumManager)

/-- Only the contracts that support commitments are looked at. -/
def findContractForAddress (address : Nat) : Except CommitError Contract :=
  let found := (manager.contracts.filter (·.commitmentSwap)).findSome? fun c =>
    if c.etherSwap = address then some ⟨.ethLockup, c.version⟩
    else if c.erc20Swap = address then some ⟨.erc20Lockup, c.version⟩
    else none
  match found with
  | some contract => .ok contract
  | none => .error (.contractNotFound address)

def findLockupEvent (receipt : Option (Receipt SwapValues)) (contract : Contract)
    (logIndex : Option Nat) : Except CommitError LockupEvent :=
  match receipt with
  | none => .error .transactionNotFound
  | some receipt =>
    let eventsToCheck : List (Log SwapValues) :=
      match logIndex with
      | some index => (receipt.logs.find? (·.index == index)).toList
      | none => receipt.logs
    match eventsToCheck.filter (isLockupOf contract) with
    | [] => .error .lockupEventNotFound
    | [log] => .ok { logIndex := log.index, values := log.values }
    | _ => .error .multipleLockupEvents

/-- Underpayments of chain swaps are renegotiated. -/
def checkAcceptedAmount (expectedAmount actualAmount : Nat) (swapType : SwapType)
    (maxOverpaymentPercentage : Option ℚ) : Except CommitError Unit :=
  if swapType = .chain && expectedAmount = 0 then .ok ()
  else if actualAmount < expectedAmount then
    if swapType = .chain then .ok ()
    else .error (.insufficientAmount actualAmount expectedAmount)
  else
    let protector :=
      match maxOverpaymentPercentage with
      | some maxPercentage => { manager.overpaymentProtector with maxPercentage }
      | none => manager.overpaymentProtector
    if ((actualAmount - expectedAmount : ℕ) : ℚ) >
        protector.getAllowedPositiveSlippage expectedAmount then
      .error (.overpaidAmount actualAmount expectedAmount)
    else .ok ()

/-- The currency of the request, not that of the swap, decides how the amount is read. -/
def checkAmount (request : CommitRequest) (swap : UserSwap) (swapAmount : Nat)
    (values : SwapValues) : Except CommitError Unit :=
  let check := checkAcceptedAmount manager swapAmount
    (manager.lockupAmount request.currency values) swap.type
    (request.maxOverpaymentPercentage.getD none)
  if request.currency = manager.symbol then check
  else
    match manager.tokenAddresses request.currency with
    | none => .error .walletNotFound
    | some tokenAddress =>
      if some tokenAddress ≠ values.tokenAddress then .error .tokenAddressMismatch else check

/-- The values that the contract checks the signature of. -/
def signedValues (request : CommitRequest) (values : SwapValues) : SwapValues :=
  if request.currency = manager.symbol then { values with tokenAddress := none } else values

def checkSignature (request : CommitRequest) (swap : UserSwap) (swapAmount : Nat)
    (contract : Contract) (values : SwapValues) : Except CommitError Unit :=
  if !manager.isSignature request.signature then .error .malformedSignature
  else if request.maxOverpaymentPercentage.any (·.all (· < 0)) then
    .error .invalidMaxOverpaymentPercentage
  else
    match checkAmount manager request swap swapAmount values with
    | .error error => .error error
    | .ok () =>
      if manager.checkCommitmentSignature contract swap.preimageHash
          (signedValues manager request values) request.signature then .ok ()
      else .error .invalidSignature

/-- What `commit` checks once it found the lockup; the row that it creates. -/
def checkCommit (commitments : List Commitment) (request : CommitRequest) (swap : UserSwap)
    (contract : Contract) (values : SwapValues) : Except CommitError Commitment :=
  if values.claimAddress ≠ manager.address then
    .error (.claimAddressMismatch values.claimAddress manager.address)
  else
    let lockupHash := manager.hashValues contract values
    if (CommitmentRepository.getByLockupHash commitments lockupHash).isSome then
      .error .commitmentExists
    else if !isCommitmentPreimageHash values.preimageHash then .error .preimageHashNotZero
    else if values.timelock < swap.timeoutBlockHeight then .error .timelockBeforeTimeout
    else
      match swap.expectedAmount with
      | none => .error .swapAmountNotFound
      | some swapAmount =>
        match checkSignature manager request swap swapAmount contract values with
        | .error error => .error error
        | .ok () =>
          .ok { lockupHash, swapId := some request.swapId,
                transactionHash := request.transactionHash,
                signature := some request.signature, refunded := false }

/-- A commit that passes is for a lockup of zeros that is not known yet. -/
theorem of_checkCommit {commitments : List Commitment} {request : CommitRequest}
    {swap : UserSwap} {contract : Contract} {values : SwapValues} {commitment : Commitment}
    (h : checkCommit manager commitments request swap contract values = .ok commitment) :
    commitment = ⟨manager.hashValues contract values, some request.swapId,
        request.transactionHash, some request.signature, false⟩ ∧
      isCommitmentPreimageHash values.preimageHash = true ∧
      CommitmentRepository.getByLockupHash commitments commitment.lockupHash = none ∧
      swap.expectedAmount.isSome = true ∧ values.claimAddress = manager.address ∧
      manager.checkCommitmentSignature contract swap.preimageHash
        (signedValues manager request values) request.signature = true := by
  unfold checkCommit at h
  by_cases hclaim : values.claimAddress ≠ manager.address
  · rw [if_pos hclaim] at h
    exact absurd h (by simp)
  rw [if_neg hclaim] at h
  dsimp only at h
  split at h
  · exact absurd h (by simp)
  rename_i hfree
  split at h
  · exact absurd h (by simp)
  rename_i hzero
  split at h
  · exact absurd h (by simp)
  split at h
  · exact absurd h (by simp)
  rename_i swapAmount hamount
  split at h
  · exact absurd h (by simp)
  rename_i hsignature
  have hvalid : manager.checkCommitmentSignature contract swap.preimageHash
      (signedValues manager request values) request.signature = true := by
    unfold checkSignature at hsignature
    split at hsignature
    · exact absurd hsignature (by simp)
    split at hsignature
    · exact absurd hsignature (by simp)
    split at hsignature
    · exact absurd hsignature (by simp)
    split at hsignature
    · rename_i hvalid
      exact hvalid
    · exact absurd hsignature (by simp)
  obtain rfl := Except.ok.inj h
  exact ⟨rfl, by simpa using hzero, by simpa using hfree, by rw [hamount]; rfl,
    not_not.mp hclaim, hvalid⟩

end Commitments

/-! ## Refunds -/

/-- The arguments of `signCommitmentRefund`. -/
structure CommitmentRefundRequest where
  chainSymbol : Nat
  transactionHash : Nat
  refundAddressSignature : Nat
  logIndex : Option Nat := none
  deriving DecidableEq, Repr

inductive RefundError where
  | swapNotFound (id : Nat)
  | notSupportedBySymbol (symbol : Nat)
  | invalidLockupTransaction (id : Nat)
  | notEligible (reason : String)
  deriving DecidableEq, Repr

def RefundError.message : RefundError → String
  | swapNotFound id => s!"could not find swap with id: {id}"
  | notSupportedBySymbol symbol => s!"this action is not supported by {symbol}"
  | invalidLockupTransaction id => s!"lockup transaction is invalid: {id}"
  | notEligible reason => s!"swap not eligible for a cooperative refund: {reason}"

namespace EipSigner

variable (manager : EthereumManager)

/-- All versions of the contract of the currency are searched in the receipt. `known` is whether the
provider knows the transaction, which it also does before there is a receipt. -/
def findLockupEvent (known : Bool) (receipt : Option (Receipt SwapValues))
    (request : CommitmentRefundRequest) : Except RefundError (Contract × LockupEvent) :=
  if !known then .error (.notEligible "lockup transaction not found") else
  let lockups := manager.contracts.filterMap fun c =>
    let contract : Contract :=
      ⟨if request.chainSymbol = manager.symbol then .ethLockup else .erc20Lockup, c.version⟩
    (querySwapValuesFromLock manager.hashValues receipt contract none request.logIndex).map
      fun lockup => (contract, lockup)
  match lockups with
  | [] => .error (.notEligible "no lockup event found")
  | [lockup] => .ok lockup
  | _ =>
    .error (.notEligible "multiple lockup events found; logIndex has to be specified")

def validateRefundAddressSignature (request : CommitmentRefundRequest) (refundAddress : Nat) :
    Except RefundError Unit :=
  match manager.recoverAddress
      (request.chainSymbol, request.transactionHash, request.logIndex)
      request.refundAddressSignature with
  | none => .error (.notEligible "invalid refund address signature")
  | some recovered =>
    if recovered ≠ refundAddress then
      .error (.notEligible "refund address signature mismatch")
    else .ok ()

def checkTokenAddress (request : CommitmentRefundRequest) (values : SwapValues) :
    Except RefundError Unit :=
  if request.chainSymbol = manager.symbol then .ok ()
  else
    match manager.tokenAddresses request.chainSymbol with
    | none => .error (.notSupportedBySymbol request.chainSymbol)
    | some expected =>
      if values.tokenAddress ≠ some expected then
        .error (.notEligible "token address mismatch")
      else .ok ()

/-- The lockup that `signCommitmentRefund` signs for, up to its look at the commitments. -/
def findCommitmentLockup (known : Bool) (receipt : Option (Receipt SwapValues))
    (request : CommitmentRefundRequest) : Except RefundError (Contract × LockupEvent) :=
  match findLockupEvent manager known receipt request with
  | .error error => .error error
  | .ok (contract, lockup) =>
    if lockup.values.claimAddress ≠ manager.address then
      .error (.notEligible "claim address mismatch")
    else if !isCommitmentPreimageHash lockup.values.preimageHash then
      .error (.notEligible "commitment preimage hash has to be all zeros")
    else
      match validateRefundAddressSignature manager request lockup.values.refundAddress with
      | .error error => .error error
      | .ok () =>
        match checkTokenAddress manager request lockup.values with
        | .error error => .error error
        | .ok () => .ok (contract, lockup)

end EipSigner

end Boltz.Ethereum

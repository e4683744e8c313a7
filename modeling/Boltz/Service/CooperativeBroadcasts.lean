import Boltz.Service.ClaimBatches

/-!
# Broadcasts of cooperative claims (`CoopSignerBase.ts`, `DeferredClaimer.ts`, `ChainSwapSigner.ts`)

The partial signature of the client completes the claim of one swap, which is sent to the node of
its chain. How the calls end is given: a request can be refused, can take effect without its reply
coming back, or can succeed.
-/

namespace Boltz.CooperativeBroadcasts

open SwapUpdateEvent
open ClaimBatches (Key Entry PendingMaps Config)

/-! ## Fees (`Utils.ts`) -/

structure TxInput where
  txid : ℕ
  index : ℕ
  deriving DecidableEq, Repr

/-- A confidential output has no amount that can be read. -/
structure TxOutput where
  script : List UInt8
  amount : Option ℕ
  deriving DecidableEq, Repr

structure Transaction where
  inputs : List TxInput
  outputs : List TxOutput
  deriving DecidableEq, Repr

section

variable (getRawTransaction : ℕ → Except String Transaction)

/-- `inputTransaction.getOutput(input.index).amount!` -/
def inputAmount (input : TxInput) : Except String ℕ := do
  let inputTransaction ← getRawTransaction input.txid
  match inputTransaction.outputs[input.index]? with
  | some output => pure (output.amount.getD 0)
  | none => throw "Wrong output index"

def calculateUtxoTransactionFee (transaction : Transaction) : Except String ℤ := do
  let inputAmounts ← transaction.inputs.mapM (inputAmount getRawTransaction)
  let totalOut := (transaction.outputs.map (·.amount.getD 0)).sum
  pure (inputAmounts.sum - totalOut)

def calculateLiquidTransactionFee (transaction : Transaction) : Except String ℤ :=
  match transaction.outputs.find? (·.script.isEmpty) with
  | some ⟨_, some amount⟩ => pure amount
  | some ⟨_, none⟩ => throw "value is confidential"
  | none => throw "no fee output"

def calculateTransactionFee (type : CurrencyType) (transaction : Transaction) : Except String ℤ :=
  if type = .liquid then calculateLiquidTransactionFee transaction
  else calculateUtxoTransactionFee getRawTransaction transaction

end

/-! ## State -/

/-- Of an entry that the client asked the details of: the session and the claim it signs. -/
structure CooperativeDetails where
  musig : ℕ
  transaction : Transaction
  deriving DecidableEq, Repr

structure Row where
  status : SwapUpdateEvent
  preimage : Option ℕ := none
  minerFee : Option ℤ := none
  deriving DecidableEq, Repr

/-- The maps of the `DeferredClaimer`: an entry is in the map of its own type and symbol. -/
structure DeferredMaps (cfg : Config) where
  maps : PendingMaps
  placed : maps.Placed cfg

def DeferredMaps.delete {cfg : Config} (m : DeferredMaps cfg) (swap : Key) : DeferredMaps cfg where
  maps := m.maps.delete (cfg.chainCurrency swap) swap
  placed := PendingMaps.placed_delete m.placed

/-- `cooperative` are the details of the entries of the `DeferredClaimer`, `swapsToClaim` is the map
of the `ChainSwapSigner` by the ids of chain swaps, `accepted` is what the nodes accepted. -/
structure State (cfg : Config) where
  rows : Key → Row
  deferred : DeferredMaps cfg
  cooperative : Key → Option CooperativeDetails
  swapsToClaim : ℕ → Option (Option CooperativeDetails)
  accepted : List Transaction := []

/-! ## The calls -/

/-- How a request to the node or the database ends. -/
inductive Reply where
  | refused (error : String)
  /-- it took effect, and an error came back -/
  | lost (error : String)
  | done
  deriving DecidableEq, Repr

inductive Failure where
  /-- `NOT_ELIGIBLE_FOR_COOPERATIVE_CLAIM` -/
  | signaturesDisabled
  /-- `NOT_ELIGIBLE_FOR_COOPERATIVE_CLAIM_BROADCAST` -/
  | notEligible
  /-- `INVALID_PARTIAL_SIGNATURE` -/
  | invalidPartialSignature
  /-- thrown by a call to the signing library, the node or the database -/
  | thrown (error : String)
  deriving DecidableEq, Repr

/-- How the calls of one broadcast end. -/
structure Outcomes where
  isDisabled : Bool := false
  /-- `aggregateNonces`, `initializeSession` and `verifyPartial` -/
  verifyPartial : Except String Bool := .ok true
  /-- `addPartial`, `signPartial` and `aggregatePartials` -/
  sign : Except String Unit := .ok ()
  sendRawTransaction : Reply := .done
  getRawTransaction : ℕ → Except String Transaction
  /-- `setMinerFee` or `setClaimMinerFee` -/
  store : Reply := .done

abbrev CallM (cfg : Config) := ExceptT Failure (StateM (State cfg))

section

variable {cfg : Config}

def call {α : Type} (result : Except String α) : CallM cfg α :=
  match result with
  | .ok value => pure value
  | .error error => throw (.thrown error)

def request (reply : Reply) (effect : State cfg → State cfg) : CallM cfg Unit :=
  match reply with
  | .refused error => throw (.thrown error)
  | .lost error => do
    modify effect
    throw (.thrown error)
  | .done => modify effect

/-- The node accepts the transaction. -/
def State.accept (s : State cfg) (transaction : Transaction) : State cfg :=
  { s with accepted := transaction :: s.accepted }

/-- `SwapRepository.setMinerFee` or `ChainSwapRepository.setClaimMinerFee`, which stores the preimage
too, in one database transaction. -/
def State.storeClaimed (s : State cfg) (swap : Key) (preimage : ℕ) (minerFee : ℤ) : State cfg :=
  let row : Row :=
    if swap.type = .submarine then
      { s.rows swap with status := transactionClaimed, minerFee := some minerFee }
    else { status := transactionClaimed, preimage := some preimage, minerFee := some minerFee }
  { s with rows := Function.update s.rows swap row }

variable (outcomes : Outcomes)

/-- Returns the fee of the claim. -/
def broadcastCooperativeTransaction (type : CurrencyType) (details : CooperativeDetails) :
    CallM cfg ℤ := do
  if !(← call outcomes.verifyPartial) then
    throw .invalidPartialSignature
  call outcomes.sign
  request outcomes.sendRawTransaction (·.accept details.transaction)
  call (calculateTransactionFee outcomes.getRawTransaction type details.transaction)

namespace DeferredClaimer

/-- Only UTXO based currencies can be claimed cooperatively. -/
def getToClaimDetails (s : State cfg) (swap : Key) : Option Entry :=
  let symbol := cfg.chainCurrency swap
  if (cfg.currencyType symbol).backend ≠ .utxo then none
  else (s.deferred.maps.get swap.type symbol).find? fun e => e.swap = swap

def removeToClaim (s : State cfg) (swap : Key) : State cfg :=
  { s with deferred := s.deferred.delete swap }

/-- `batchClaimLock` is held, and `swapsToClaimLock` from the broadcast on. -/
def broadcastCooperative (swap : Key) : CallM cfg Unit := do
  if outcomes.isDisabled then
    throw .signaturesDisabled
  let s ← get
  match getToClaimDetails s swap, s.cooperative swap with
  | some toClaim, some details =>
    let fee ← broadcastCooperativeTransaction outcomes
      (cfg.currencyType (cfg.chainCurrency swap)) details
    modify (removeToClaim · swap)
    request outcomes.store (·.storeClaimed swap toClaim.preimage fee)
  | _, _ => throw .notEligible

end DeferredClaimer

namespace ChainSwapSigner

def removeFromClaimable (s : State cfg) (id : ℕ) : State cfg :=
  { s with swapsToClaim := Function.update s.swapsToClaim id none }

/-- `cooperativeBroadcastLock` is held. -/
def broadcastReceivingClaimTransaction (id preimage : ℕ) (claimDetails : CooperativeDetails) :
    CallM cfg Unit := do
  let swap : Key := ⟨.chain, id⟩
  let fee ← broadcastCooperativeTransaction outcomes
    (cfg.currencyType (cfg.chainCurrency swap)) claimDetails
  modify (removeFromClaimable · id)
  request outcomes.store (·.storeClaimed swap preimage fee)

/-- What follows once the preimage of an unsettled swap is stored that can be claimed cooperatively;
`theirSignature` is whether the client sent one. -/
def signClaim (id preimage : ℕ) (theirSignature : Bool) : CallM cfg Unit := do
  if outcomes.isDisabled then
    throw .signaturesDisabled
  let s ← get
  match s.swapsToClaim id with
  | some (some claimDetails) =>
    if !theirSignature then
      throw .invalidPartialSignature
    broadcastReceivingClaimTransaction outcomes id preimage claimDetails
  | _ => throw .notEligible

end ChainSwapSigner

end

end Boltz.CooperativeBroadcasts

import Boltz.Chain.Transactions
import Boltz.Core.Script
import Boltz.Utils
import Mathlib.Data.List.Sort

/-!
# Claim and refund transactions (`boltz-core/src/bitcoin/tx.rs`, `boltz-core/src/elements/tx.rs`)

Both builders sort the inputs, choose the fee, and fill in the witness and the script of each input
by the type of its output. Hashes, signatures, Taproot trees and the blinding of outputs are given by
libraries; what they return is a parameter here.
-/

namespace Boltz

namespace Core

abbrev FixedBytes (n : Nat) := { bytes : Bytes // bytes.length = n }

/-- Bytes of examples. -/
def repeated (n : Nat) (byte : UInt8) : FixedBytes n :=
  ⟨List.replicate n byte, List.length_replicate⟩

/-- For examples without hashes. -/
def noSha256 (_ : Bytes) : FixedBytes 32 := repeated 32 0

/-- A serialized signature with the byte of its hash type. -/
abbrev EcdsaSignature := { bytes : Bytes // bytes.length ≤ 73 }

inductive InputType where
  | claim (preimage : FixedBytes 32)
  | refund (lockTime : Nat)
  deriving DecidableEq, Repr

inductive OutputType (U S : Type) where
  | taproot (details : U)
  | segwitV0 (script : S)
  | compatibility (script : S)
  | legacy (script : S)
  deriving DecidableEq, Repr

structure Tapleaf where
  version : UInt8
  output : Bytes
  deriving DecidableEq, Repr

structure Tree where
  claimLeaf : Tapleaf
  refundLeaf : Tapleaf
  /-- Elements only -/
  covenantClaimLeaf : Option Tapleaf := none
  deriving DecidableEq, Repr

structure UncooperativeDetails where
  tree : Tree
  internalKey : FixedBytes 32
  deriving DecidableEq, Repr

structure InputDetail (Keys TxOut : Type) where
  inputType : InputType
  outputType : OutputType (Option UncooperativeDetails) Bytes
  outpoint : Outpoint
  txOut : TxOut
  keys : Keys
  deriving DecidableEq, Repr

structure TxIn where
  previousOutput : Outpoint
  scriptSig : Bytes := []
  /-- `Sequence::ENABLE_RBF_NO_LOCKTIME`. -/
  sequence : Nat := 0xfffffffd
  witness : List Bytes := []
  deriving DecidableEq, Repr

structure Transaction (TxOut : Type) where
  version : Nat := 2
  lockTime : Nat
  input : List TxIn
  output : List TxOut
  deriving DecidableEq, Repr

structure Outputs (Address : Type) where
  change : Address
  outputs : List (Address × Nat)
  deriving DecidableEq, Repr

inductive Destination (Address : Type) where
  | single (address : Address)
  | multiple (outputs : Outputs Address)
  deriving DecidableEq, Repr

/-- The errors of both builders; the last ones are those of the libraries they use. -/
inductive TxError where
  | feeExceedsInputs
  | outputsExceedInputs
  | invalidFeeRate
  | emptyInputs
  | outputIndexOutOfBounds (i : Nat)
  | mixedAssets
  | missingBlindingKey (i : Nat)
  | missingExplicitAsset (i : Nat)
  | missingExplicitValue (i : Nat)
  | taprootFinalize (i : Nat)
  | controlBlock (i : Nat)
  | tree
  | lockTime
  | sighash
  | pushBytes
  | unblind
  | confidential
  | secp
  deriving DecidableEq, Repr

def preimageDummy : Bytes := []

def stubSchnorrSignatureLength : Nat := 64

/-! ## Signed inputs -/

/-- The signatures of an input and the control block of a leaf. A signature is over the transaction
before its inputs are filled in. -/
structure Signing (Keys TxOut : Type) where
  legacySignature : Transaction TxOut → Nat → Bytes → Keys → Except TxError EcdsaSignature
  segwitSignature : Transaction TxOut → Nat → Bytes → TxOut → Keys → Except TxError EcdsaSignature
  taprootSignature :
    Transaction TxOut → Nat → List TxOut → Tapleaf → Keys → Except TxError (FixedBytes 64)
  controlBlock : UncooperativeDetails → Tapleaf → Nat → Except TxError Bytes

/-- Data that fits into a push. -/
def pushBytes (data : Bytes) : Except TxError Bytes :=
  if data.length < 2 ^ 32 then .ok data else .error .pushBytes

def stubbedCooperativeWitness : List Bytes := [List.replicate stubSchnorrSignatureLength 0]

section

variable {Keys TxOut : Type} (sha256 : Bytes → FixedBytes 32) (signing : Signing Keys TxOut)
variable (tx : Transaction TxOut) (prevouts : List TxOut)

/-- The `script_sig` of an input. -/
def scriptSig (i : Nat) (input : InputDetail Keys TxOut) : Except TxError Bytes :=
  match input.outputType with
  | .legacy witnessScript => do
    let signature ← signing.legacySignature tx i witnessScript input.keys
    let script := Script.pushSlice [] signature.1
    let script := match input.inputType with
      | .claim preimage => Script.pushSlice script preimage.1
      | .refund _ => Script.pushSlice script preimageDummy
    return Script.pushSlice script (← pushBytes witnessScript)
  | .compatibility witnessScript =>
    -- `OP_0` and the hash of the script
    let nested := Script.pushSlice [0x00] (sha256 witnessScript).1
    .ok (Script.pushSlice [] nested)
  | _ => .ok []

def UncooperativeDetails.leaf (details : UncooperativeDetails) : InputType → Tapleaf
  | .claim _ => details.tree.claimLeaf
  | .refund _ => details.tree.refundLeaf

def witness (i : Nat) (input : InputDetail Keys TxOut) : Except TxError (List Bytes) :=
  match input.outputType with
  | .taproot none => .ok stubbedCooperativeWitness
  | .taproot (some uncooperative) => do
    let leaf := uncooperative.leaf input.inputType
    let signature ← signing.taprootSignature tx i prevouts leaf input.keys
    let controlBlock ← signing.controlBlock uncooperative leaf i
    return match input.inputType with
      | .claim preimage => [signature.1, preimage.1, leaf.output, controlBlock]
      | .refund _ => [signature.1, leaf.output, controlBlock]
  | .segwitV0 witnessScript | .compatibility witnessScript => do
    let signature ← signing.segwitSignature tx i witnessScript input.txOut input.keys
    return match input.inputType with
      | .claim preimage => [signature.1, preimage.1, witnessScript]
      | .refund _ => [signature.1, preimageDummy, witnessScript]
  | .legacy _ => .ok []

def signInput (i : Nat) (input : InputDetail Keys TxOut) (txIn : TxIn) : Except TxError TxIn := do
  let scriptSig ← scriptSig sha256 signing tx i input
  let witness ← witness signing tx prevouts i input
  return { txIn with scriptSig, witness }

/-- The loop over the inputs, from the `i`-th on. -/
def signInputs (i : Nat) : List (InputDetail Keys TxOut) → List TxIn → Except TxError (List TxIn)
  | input :: inputs, txIn :: txIns => do
    let signed ← signInput sha256 signing tx prevouts i input txIn
    return signed :: (← signInputs (i + 1) inputs txIns)
  | _, txIns => .ok txIns

end

/-! ## Order, lock time and fee -/

/-- BIP69 compares the bytes of an id in the order in which it is displayed. -/
def bip69Le (a b : Outpoint) : Prop :=
  ((compare a.hash.reverse b.hash.reverse).then (compare a.vout b.vout)).isLE = true

instance (a b : Outpoint) : Decidable (bip69Le a b) :=
  inferInstanceAs (Decidable (_ = true))

def sortInputs {α : Type} (outpoint : α → Outpoint) (inputs : List α) : List α :=
  inputs.insertionSort fun a b => bip69Le (outpoint a) (outpoint b)

/-- The highest lock time of the refunds. -/
def lockTime {Keys TxOut : Type} (inputs : List (InputDetail Keys TxOut)) : Except TxError Nat :=
  match (inputs.filterMap fun input => match input.inputType with
      | .refund lockTime => some lockTime
      | .claim _ => none).max? with
  | some lockTime => if lockTime < 500000000 then .ok lockTime else .error .lockTime
  | none => .ok 0

def unsignedInputs {Keys TxOut : Type} (inputs : List (InputDetail Keys TxOut)) : List TxIn :=
  inputs.map fun input => { previousOutput := input.outpoint }

inductive FeeTarget (Rate : Type) where
  | absolute (fee : Nat)
  | relative (rate : Rate)
  deriving DecidableEq, Repr

/-- Fee rates are floating point numbers: which are valid, and the fee for a size. -/
structure FeeRates (Rate : Type) where
  valid : Rate → Bool
  fee : Rate → Nat → Nat

def targetFee {Rate TxOut : Type} (rates : FeeRates Rate) (vsize : Transaction TxOut → Nat)
    (construct : Nat → Bool → Except TxError (Transaction TxOut)) :
    FeeTarget Rate → Except TxError (Transaction TxOut × Nat)
  | .absolute fee => do return (← construct fee false, fee)
  | .relative rate =>
    if rates.valid rate then do
      let tx ← construct 1 true
      let fee := rates.fee rate (vsize tx + tx.input.length)
      return (← construct fee false, fee)
    else .error .invalidFeeRate

/-- A transaction that is returned was constructed with the fee that was charged. -/
theorem exists_construct_of_targetFee {Rate TxOut : Type} {rates : FeeRates Rate}
    {tx : Transaction TxOut} {vsize : Transaction TxOut → Nat}
    {construct : Nat → Bool → Except TxError (Transaction TxOut)} {fee : FeeTarget Rate} {charged : Nat}
    (h : targetFee rates vsize construct fee = .ok (tx, charged)) :
    construct charged false = .ok tx := by
  cases fee with
  | absolute fee =>
    obtain ⟨tx', htx, h⟩ := bind_eq_ok.mp h
    cases h
    exact htx
  | relative rate =>
    simp only [targetFee] at h
    split at h
    · obtain ⟨estimated, -, h⟩ := bind_eq_ok.mp h
      obtain ⟨tx', htx, h⟩ := bind_eq_ok.mp h
      cases h
      exact htx
    · cases h

/-! ## Bitcoin -/

namespace Bitcoin

structure TxOut where
  value : Nat
  scriptPubkey : Bytes
  deriving DecidableEq, Repr

structure Address where
  scriptPubkey : Bytes
  deriving DecidableEq, Repr

structure Library (Keys Rate : Type) where
  signing : Signing Keys TxOut
  rates : FeeRates Rate
  vsize : Transaction TxOut → Nat

/-- The order of outputs by value and script. -/
def outputLe (a b : TxOut) : Prop :=
  ((compare a.value b.value).then (compare a.scriptPubkey b.scriptPubkey)).isLE = true

instance (a b : TxOut) : Decidable (outputLe a b) :=
  inferInstanceAs (Decidable (_ = true))

def outputs (inputSum fee : Nat) : Destination Address → Except TxError (List TxOut)
  | .single address =>
    if fee ≤ inputSum then
      .ok [{ value := inputSum - fee, scriptPubkey := address.scriptPubkey }]
    else .error .feeExceedsInputs
  | .multiple destination =>
    let outputSum := (destination.outputs.map (·.2)).sum
    if outputSum + fee > inputSum then .error .outputsExceedInputs
    else
      let res := destination.outputs.map fun output =>
        { value := output.2, scriptPubkey := output.1.scriptPubkey }
      let change :=
        { value := inputSum - fee - outputSum, scriptPubkey := destination.change.scriptPubkey }
      .ok ((res ++ [change]).insertionSort outputLe)

section

variable {Keys Rate : Type} (sha256 : Bytes → FixedBytes 32) (library : Library Keys Rate)

def constructRaw (inputs : List (InputDetail Keys TxOut)) (destination : Destination Address)
    (fee : Nat) : Except TxError (Transaction TxOut) := do
  let inputSum := (inputs.map fun input => input.txOut.value).sum
  let output ← outputs inputSum fee destination
  let tx : Transaction TxOut :=
    { lockTime := ← lockTime inputs, input := unsignedInputs inputs, output }
  let prevouts := inputs.map fun input => input.txOut
  let input ← signInputs sha256 library.signing tx prevouts 0 inputs tx.input
  return { tx with input }

def constructTx (inputs : List (InputDetail Keys TxOut)) (destination : Destination Address)
    (fee : FeeTarget Rate) : Except TxError (Transaction TxOut × Nat) :=
  let inputs := sortInputs (·.outpoint) inputs
  targetFee library.rates library.vsize
    (fun fee _ => constructRaw sha256 library inputs destination fee) fee

end

end Bitcoin

/-! ## Elements -/

namespace Elements

structure InputDetail (Keys TxOut : Type) extends Core.InputDetail Keys TxOut where
  blindingKey : Option Keys

structure UnblindedOutput (Secrets AssetId : Type) where
  asset : AssetId
  amount : Nat
  /-- The blinding factors of an output that was confidential. -/
  secrets : Option Secrets

/-- Outputs with their commitments and the blinding of new ones. -/
structure Library (Keys Rate TxOut Address Secrets AssetId : Type) where
  signing : Signing Keys TxOut
  rates : FeeRates Rate
  vsize : Transaction TxOut → Nat
  isConfidential : TxOut → Bool
  unblind : TxOut → Keys → Except TxError (UnblindedOutput Secrets AssetId)
  explicitAsset : TxOut → Option AssetId
  explicitValue : TxOut → Option Nat
  blindOutputs : List (UnblindedOutput Secrets AssetId) → AssetId → Destination Address → Nat →
    Bool → Except TxError (List TxOut)

section

variable {Keys Rate TxOut Address Secrets AssetId : Type} [DecidableEq AssetId]
variable (sha256 : Bytes → FixedBytes 32)
variable (library : Library Keys Rate TxOut Address Secrets AssetId)

/-- The loop over the inputs, from the `i`-th on. -/
def unblindOutputs (i : Nat) :
    List (InputDetail Keys TxOut) → Except TxError (List (UnblindedOutput Secrets AssetId))
  | [] => .ok []
  | input :: inputs => do
    let unblinded ←
      if library.isConfidential input.txOut then
        match input.blindingKey with
        | some blindingKey => library.unblind input.txOut blindingKey
        | none => .error (.missingBlindingKey i)
      else
        match library.explicitAsset input.txOut, library.explicitValue input.txOut with
        | some asset, some amount => .ok { asset, amount, secrets := none }
        | none, _ => .error (.missingExplicitAsset i)
        | _, none => .error (.missingExplicitValue i)
    return unblinded :: (← unblindOutputs (i + 1) inputs)

def constructRaw (inputs : List (InputDetail Keys TxOut))
    (unblinded : List (UnblindedOutput Secrets AssetId)) (assetId : AssetId)
    (destination : Destination Address) (fee : Nat) (isFeeEstimation : Bool) :
    Except TxError (Transaction TxOut) := do
  let inputs := inputs.map (·.toInputDetail)
  let lockTime ← lockTime inputs
  let output ← library.blindOutputs unblinded assetId destination fee isFeeEstimation
  let tx : Transaction TxOut := { lockTime, input := unsignedInputs inputs, output }
  let prevouts := inputs.map fun input => input.txOut
  let input ← signInputs sha256 library.signing tx prevouts 0 inputs tx.input
  return { tx with input }

def constructTx (inputs : List (InputDetail Keys TxOut)) (destination : Destination Address)
    (fee : FeeTarget Rate) : Except TxError (Transaction TxOut × Nat) := do
  let inputs := sortInputs (·.outpoint) inputs
  let unblinded ← unblindOutputs library 0 inputs
  match unblinded with
  | [] => .error .emptyInputs
  | first :: _ =>
    if unblinded.all fun input => input.asset = first.asset then
      targetFee library.rates library.vsize
        (fun fee isFeeEstimation =>
          constructRaw sha256 library inputs unblinded first.asset destination fee isFeeEstimation)
        fee
    else .error .mixedAssets

end

end Elements

end Core

end Boltz

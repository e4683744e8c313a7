import Boltz.Core.BlindOutputs

/-!
# Rescue of an asset (`boltz-core/src/elements/asset_rescue.rs`)

Two inputs, one of the stuck asset and one of L-BTC for the fee, are swept to their destinations.
-/

namespace Boltz.Core.Elements.AssetRescue

inductive OutputType where
  | legacy
  | nestedSegwit
  | segwitV0
  | segwitV1
  deriving DecidableEq, Repr

inductive AssetRescueError where
  | assetInputNotTaproot
  | assetInputIsLbtc
  | lbtcInputWrongAsset
  | negativeChange
  | zeroChange
  | lbtcDestinationNotBlinded
  | unknownOutputType
  | missingBlindingKey
  | missingExplicitAsset
  | missingExplicitValue
  | invalidFeeRate
  | network
  | tx (error : TxError)
  | unblind
  deriving DecidableEq, Repr

/-! ## Scripts -/

/-- A script of a length that starts and ends with the given bytes. -/
def hasShape (length : Nat) (start stop script : Bytes) : Bool :=
  script.length == length && start.isPrefixOf script && stop.isSuffixOf script

def isP2pkh : Bytes → Bool := hasShape 25 [0x76, 0xa9, 0x14] [0x88, 0xac]

def isP2sh : Bytes → Bool := hasShape 23 [0xa9, 0x14] [0x87]

def isV0P2wpkh : Bytes → Bool := hasShape 22 [0x00, 0x14] []

def isV1P2tr : Bytes → Bool := hasShape 34 [0x51, 0x20] []

def outputType (script : Bytes) : Except AssetRescueError OutputType :=
  if isP2pkh script then .ok .legacy
  else if isP2sh script then .ok .nestedSegwit
  else if isV0P2wpkh script then .ok .segwitV0
  else if isV1P2tr script then .ok .segwitV1
  else .error .unknownOutputType

def ecdsaSignatureSize : Nat := 70

def ecdsaPublicKeySize : Nat := 33

def schnorrSignatureSize : Nat := 64

def zeros (n : Nat) : Bytes := List.replicate n 0

/-! ## The transaction -/

section

variable {Keys Rate F AssetId Key : Type} [Zero F]

structure AssetPair (Keys F AssetId Key : Type) where
  txOut : TxOut F AssetId Key
  outpoint : Outpoint
  blindingKey : Option Keys
  destination : Address Key

structure UnblindedAssetPair (Keys F AssetId Key : Type) where
  assetPair : AssetPair Keys F AssetId Key
  unblinded : UnblindedOutput (Factors F) AssetId

variable (primitives : Primitives Keys Rate F AssetId Key)

def unblindOutputs (input : AssetPair Keys F AssetId Key) :
    Except AssetRescueError (UnblindedOutput (Factors F) AssetId) :=
  if input.txOut.value.isConfidential then
    match input.blindingKey with
    | none => .error .missingBlindingKey
    | some key =>
      match primitives.unblind input.txOut key with
      | some (asset, amount, factors) => .ok { asset, amount, secrets := some factors }
      | none => .error .unblind
  else
    match input.txOut.asset.explicit?, input.txOut.value.explicit? with
    | some asset, some amount => .ok { asset, amount, secrets := none }
    | none, _ => .error .missingExplicitAsset
    | _, none => .error .missingExplicitValue

/-- The error of a step of the other builder. -/
def liftTx {α : Type} : Except TxError α → Except AssetRescueError α
  | .ok a => .ok a
  | .error e => .error (.tx e)

def blindOutputs (assetPair lbtcPair : UnblindedAssetPair Keys F AssetId Key) (fee : Nat)
    (isFeeEstimation : Bool) : Except AssetRescueError (List (TxOut F AssetId Key)) :=
  match Word.checkedSub lbtcPair.unblinded.amount fee with
  | none => .error .negativeChange
  | some change =>
    if change = 0 then .error .zeroChange
    else if !lbtcPair.assetPair.destination.isBlinded then .error .lbtcDestinationNotBlinded
    else do
      let blinding := primitives.blinding
      let unblinded := [assetPair.unblinded, lbtcPair.unblinded]
      let assetOutput ← liftTx (createOutput blinding 0 unblinded
        (assetPair.unblinded.asset, blinding.assetFactor)
        (assetPair.assetPair.destination.intent assetPair.unblinded.amount) isFeeEstimation none)
      let feeEntry : Entry F AssetId Key := feeEntry lbtcPair.unblinded.asset fee
      let changeOutput ← liftTx (createOutput blinding 1 unblinded
        (lbtcPair.unblinded.asset, blinding.assetFactor)
        (lbtcPair.assetPair.destination.intent change) isFeeEstimation
        (some [(assetPair.unblinded.amount, assetOutput.factors), feeEntry.blindingParams]))
      return [assetOutput.output, changeOutput.output, feeEntry.output]

/-- The L-BTC input with signatures of the right size, for the estimation of the fee. -/
def stubInput (input : AssetPair Keys F AssetId Key) : OutputType → TxIn
  | .legacy =>
    { previousOutput := input.outpoint
      scriptSig := Script.pushSlice (Script.pushSlice [] (zeros ecdsaSignatureSize))
        (zeros ecdsaPublicKeySize) }
  | .nestedSegwit =>
    { previousOutput := input.outpoint
      scriptSig := Script.pushSlice [] (Script.pushSlice [0x00] (zeros 20))
      witness := [zeros ecdsaSignatureSize, zeros ecdsaPublicKeySize] }
  | .segwitV0 =>
    { previousOutput := input.outpoint
      witness := [zeros ecdsaSignatureSize, zeros ecdsaPublicKeySize] }
  | .segwitV1 =>
    { previousOutput := input.outpoint, witness := [zeros schnorrSignatureSize] }

def constructRaw (assetPair lbtcPair : UnblindedAssetPair Keys F AssetId Key) (fee : Nat)
    (isFeeEstimation : Bool) : Except AssetRescueError (Transaction (TxOut F AssetId Key)) := do
  let assetIn := stubInput assetPair.assetPair .segwitV1
  let lbtcIn := stubInput lbtcPair.assetPair
    (← outputType lbtcPair.assetPair.txOut.scriptPubkey)
  let output ← blindOutputs primitives assetPair lbtcPair fee isFeeEstimation
  return { lockTime := 0, input := [assetIn, lbtcIn], output }

/-- The transaction without the stubs of the estimation. -/
def clearStubs (tx : Transaction (TxOut F AssetId Key)) : Transaction (TxOut F AssetId Key) :=
  { tx with input := tx.input.map fun txIn => { txIn with scriptSig := [], witness := [] } }

variable [DecidableEq AssetId] (liquidAssetId : Except AssetRescueError AssetId)

def constructAssetRescue (assetPair lbtcPair : AssetPair Keys F AssetId Key)
    (fee : FeeTarget Rate) :
    Except AssetRescueError (Transaction (TxOut F AssetId Key) × Nat) :=
  if !isV1P2tr assetPair.txOut.scriptPubkey then .error .assetInputNotTaproot
  else do
    let assetUnblinded ← unblindOutputs primitives assetPair
    let lbtcUnblinded ← unblindOutputs primitives lbtcPair
    let liquidAssetId ← liquidAssetId
    if assetUnblinded.asset = liquidAssetId then .error .assetInputIsLbtc
    else if lbtcUnblinded.asset ≠ liquidAssetId then .error .lbtcInputWrongAsset
    else do
      let (tx, fee) ← targetFeeOf primitives.rates
        (fun tx => primitives.vsize tx + tx.input.length) .invalidFeeRate
        (constructRaw primitives ⟨assetPair, assetUnblinded⟩ ⟨lbtcPair, lbtcUnblinded⟩) fee
      return (clearStubs tx, fee)

end

/-! ## What is built -/

section

variable {Keys Rate F AssetId Key : Type} [Zero F]
variable {primitives : Primitives Keys Rate F AssetId Key}

theorem liftTx_ok {α : Type} {result : Except TxError α} {a : α} (h : liftTx result = .ok a) :
    result = .ok a := by
  cases result with
  | error e => cases h
  | ok b =>
    cases h
    rfl

/-- What a rescue that is returned was built from. -/
theorem constructAssetRescue_ok [DecidableEq AssetId]
    {liquidAssetId : Except AssetRescueError AssetId}
    {assetPair lbtcPair : AssetPair Keys F AssetId Key} {fee : FeeTarget Rate}
    {tx : Transaction (TxOut F AssetId Key)} {charged : Nat}
    (h : constructAssetRescue primitives liquidAssetId assetPair lbtcPair fee =
      .ok (tx, charged)) :
    ∃ asset lbtc, unblindOutputs primitives assetPair = .ok asset ∧
      unblindOutputs primitives lbtcPair = .ok lbtc ∧
      blindOutputs primitives ⟨assetPair, asset⟩ ⟨lbtcPair, lbtc⟩ charged false =
        .ok tx.output := by
  unfold constructAssetRescue at h
  split at h
  · cases h
  obtain ⟨asset, hasset, h⟩ := bind_eq_ok.mp h
  obtain ⟨lbtc, hlbtc, h⟩ := bind_eq_ok.mp h
  obtain ⟨liquid, -, h⟩ := bind_eq_ok.mp h
  split at h
  · cases h
  split at h
  · cases h
  obtain ⟨⟨built, fee'⟩, hbuilt, h⟩ := bind_eq_ok.mp h
  cases h
  obtain ⟨outputType, -, h⟩ := bind_eq_ok.mp (targetFeeOf_ok hbuilt).1
  obtain ⟨output, houtput, h⟩ := bind_eq_ok.mp h
  cases h
  exact ⟨asset, lbtc, hasset, hlbtc, houtput⟩

end

end Boltz.Core.Elements.AssetRescue

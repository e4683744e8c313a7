import Boltz.Core.AssetRescue
import Mathlib.Data.ZMod.Basic

/-!
# Blinding factors balance

A commitment to an amount has the factor `amount * assetFactor + valueFactor`. The factors of the
inputs and of the outputs of a transaction have to be equal, or it cannot be valid. The factor of the
last blinded output makes them equal, because it is chosen with the parameters of all other outputs.
-/

namespace Boltz.Core.Elements

section

variable {F AssetId Key : Type} [CommRing F]

/-- The factor of the commitment to an amount. -/
def weight (params : BlindingParams F) : F := params.1 * params.2.asset + params.2.value

/-- `ValueBlindingFactor::last` is the factor that solves the equation for the values it is given. -/
def Blinding.Solves (blinding : Blinding F AssetId Key) : Prop :=
  ∀ amount factor inputs others,
    weight (amount, ⟨factor, blinding.last amount factor inputs others⟩) +
      (others.map weight).sum = (inputs.map weight).sum

/-- The factors of inputs and outputs are equal, and a blinded input has a blinded output. -/
structure Balanced (unblinded : List (UnblindedOutput (Factors F) AssetId))
    (outputs : List (TxOut F AssetId Key)) : Prop where
  factors : (unblinded.map fun input => weight input.blindingParams).sum =
    (outputs.map fun output => weight output.blindingParams).sum
  blinded : (∃ input ∈ unblinded, input.secrets.isSome = true) →
    ∃ output ∈ outputs, output.isBlinded = true

/-! ## Sums of factors -/

@[simp] theorem weight_zero (amount : Nat) : weight (amount, (Factors.zero : Factors F)) = 0 := by
  simp [weight, Factors.zero]

/-- Exchanging an entry leaves the sum of all others. -/
theorem sum_set_eq (l : List F) {k : Nat} (hk : k < l.length) (x : F) :
    (l.set k x).sum = x + (l.eraseIdx k).sum := by
  have hset : k < (l.set k x).length := by rwa [List.length_set]
  have hsum := List.CommMonoid.add_sum_eraseIdx hset
  rw [List.getElem_set_self, List.eraseIdx_set_eq] at hsum
  exact hsum.symm

theorem sum_inputs_plain {unblinded : List (UnblindedOutput (Factors F) AssetId)}
    (h : ∀ input ∈ unblinded, input.secrets.isSome = false) :
    (unblinded.map fun input => weight input.blindingParams).sum = 0 := by
  refine List.sum_eq_zero fun x hx => ?_
  obtain ⟨input, hinput, rfl⟩ := List.mem_map.mp hx
  have hnone : input.secrets = none := by simpa using h input hinput
  rw [UnblindedOutput.blindingParams, hnone]
  exact weight_zero _

/-! ## The outputs of a transaction -/

omit [CommRing F] in
theorem isSome_of_destination {unblinded : List (UnblindedOutput (Factors F) AssetId)}
    {destination : Destination (Address Key)} {dummyKey : Key} {fee : Nat}
    {sorted : List (Intent Key)} (h : intents dummyKey unblinded destination fee = .ok sorted)
    (hinput : ∃ input ∈ unblinded, input.secrets.isSome = true) :
    ∃ intent ∈ sorted, intent.blindingPubkey.isSome = true := by
  obtain ⟨-, rfl⟩ := intents_ok h
  by_cases hdummy : needsDummyOutput unblinded destination = true
  · rw [hdummy]
    exact ⟨_, List.mem_append_left _ (List.mem_singleton_self _), rfl⟩
  · have hany : unblinded.any (·.secrets.isSome) = true := List.any_eq_true.mpr hinput
    suffices hkey : ∃ intent ∈ destinationIntents destination
          (remaining unblinded destination fee),
        intent.blindingPubkey.isSome = true by
      obtain ⟨intent, hintent, hkey⟩ := hkey
      exact ⟨intent, List.mem_append_right _ hintent, hkey⟩
    cases destination with
    | single address =>
      have hkey : address.blindingPubkey.isSome = true := by
        simpa [needsDummyOutput, hany, Address.isBlinded, Option.isSome_iff_ne_none] using hdummy
      exact ⟨_, List.mem_singleton_self _, hkey⟩
    | multiple destination =>
      simp only [needsDummyOutput, hany, Bool.true_and, Bool.and_eq_true, not_and_or,
        Bool.not_eq_true', Bool.not_eq_false] at hdummy
      rcases hdummy with hchange | houtput
      · exact ⟨_, List.mem_append_right _ (List.mem_singleton_self _), hchange⟩
      · obtain ⟨output, houtput, hkey⟩ := List.any_eq_true.mp houtput
        exact ⟨_, List.mem_append_left _ (List.mem_map_of_mem houtput), hkey⟩

variable {blinding : Blinding F AssetId Key}
variable {unblinded : List (UnblindedOutput (Factors F) AssetId)} {assetId : AssetId}

/-- The entries sum up to the inputs once the last blinded one is built with all others. -/
theorem sum_balanceLast (hsolves : blinding.Solves) {sorted : List (Intent Key)}
    {built : Built F AssetId Key} {outputs : List (Entry F AssetId Key)} {fee : Nat}
    (hof : built.Of false sorted)
    (hkey : (∃ input ∈ unblinded, input.secrets.isSome = true) →
      ∃ intent ∈ sorted, intent.blindingPubkey.isSome = true)
    (h : balanceLast blinding unblinded assetId false (built.outputs ++ [feeEntry assetId fee])
      built.lastToBlind = .ok outputs) :
    (outputs.map fun entry => weight entry.blindingParams).sum =
      (unblinded.map fun input => weight input.blindingParams).sum := by
  cases hlast : built.lastToBlind with
  | none =>
    rw [hlast] at h
    cases h
    have hplain : ∀ intent ∈ sorted, intent.blinds false = false := hof.noLast hlast
    have hinputs : ∀ input ∈ unblinded, input.secrets.isSome = false := by
      intro input hinput
      by_contra hsome
      obtain ⟨intent, hintent, hpubkey⟩ := hkey ⟨input, hinput, Bool.not_eq_false _ ▸ hsome⟩
      have hblinds := hplain intent hintent
      simp [Intent.blinds, hpubkey] at hblinds
    rw [sum_inputs_plain hinputs]
    refine List.sum_eq_zero fun x hx => ?_
    obtain ⟨entry, hentry, rfl⟩ := List.mem_map.mp hx
    rcases List.mem_append.mp hentry with hentry | hentry
    · obtain ⟨intent, hintent, hfrom⟩ := exists_of_forall₂ hof.outputs.flip hentry
      rw [Entry.blindingParams, hfrom.plain (hplain intent hintent)]
      exact weight_zero _
    · rw [List.mem_singleton.mp hentry]
      exact weight_zero _
  | some last =>
    obtain ⟨index, intent⟩ := last
    obtain ⟨hget, hblinds⟩ := hof.last index intent hlast
    rw [hlast] at h
    obtain ⟨created, hcreated, h⟩ := bind_eq_ok.mp h
    split at h
    · rename_i hlt
      cases h
      have hsum := hsolves intent.amount blinding.assetFactor
        (unblinded.map UnblindedOutput.blindingParams)
        (((built.outputs ++ [feeEntry assetId fee]).eraseIdx index).map Entry.blindingParams)
      rw [← createOutput_last hblinds hcreated, List.map_map, List.map_map] at hsum
      rw [List.map_set, sum_set_eq _ (by rwa [List.length_map]), List.eraseIdx_map]
      exact hsum
    · cases h

theorem blindOutputs_balanced (hsolves : blinding.Solves) {destination : Destination (Address Key)}
    {fee : Nat} {outputs : List (TxOut F AssetId Key)}
    (h : blindOutputs blinding unblinded assetId false destination fee = .ok outputs) :
    Balanced unblinded outputs := by
  obtain ⟨unsorted, hunsorted, h⟩ := bind_eq_ok.mp h
  obtain ⟨built, hbuilt, h⟩ := bind_eq_ok.mp h
  obtain ⟨all, hall, h⟩ := bind_eq_ok.mp h
  cases h
  have hof : built.Of false (unsorted.insertionSort intentLe) := buildOutputs_ok Built.of_nil hbuilt
  have hkey : (∃ input ∈ unblinded, input.secrets.isSome = true) →
      ∃ intent ∈ unsorted.insertionSort intentLe, intent.blindingPubkey.isSome = true := by
    intro hinput
    obtain ⟨intent, hintent, hkey⟩ := isSome_of_destination hunsorted hinput
    exact ⟨intent, (List.perm_insertionSort _ _).mem_iff.mpr hintent, hkey⟩
  obtain ⟨entries, rfl, hentries⟩ := balanceLast_ok hof hall
  constructor
  · rw [← sum_balanceLast hsolves hof hkey hall, List.map_map]
    congr 1
    refine List.map_congr_left fun entry hentry => ?_
    rcases List.mem_append.mp hentry with hentry | hentry
    · obtain ⟨intent, -, hfrom⟩ := exists_of_forall₂ hentries.flip hentry
      rw [Function.comp_apply, hfrom.params]
    · rw [List.mem_singleton.mp hentry]
      rfl
  · intro hinput
    obtain ⟨intent, hintent, hpubkey⟩ := hkey hinput
    obtain ⟨entry, hentry, hfrom⟩ := exists_of_forall₂ hentries hintent
    refine ⟨entry.output, List.mem_map_of_mem (List.mem_append_left _ hentry), ?_⟩
    rw [hfrom.isBlinded, Intent.blinds, hpubkey]
    rfl

/-! ## The outputs of a rescue -/

/-- The change is built with the parameters of the rescued asset and of the fee. -/
theorem rescue_balanced {Keys Rate : Type} {primitives : Primitives Keys Rate F AssetId Key}
    (hsolves : primitives.blinding.Solves)
    {assetPair lbtcPair : AssetRescue.UnblindedAssetPair Keys F AssetId Key} {fee : Nat}
    {outputs : List (TxOut F AssetId Key)}
    (h : AssetRescue.blindOutputs primitives assetPair lbtcPair fee false = .ok outputs) :
    Balanced [assetPair.unblinded, lbtcPair.unblinded] outputs := by
  unfold AssetRescue.blindOutputs at h
  split at h
  · cases h
  rename_i change hchange
  split at h
  · cases h
  split at h
  · cases h
  rename_i hkey
  obtain ⟨assetOutput, hasset, h⟩ := bind_eq_ok.mp h
  obtain ⟨changeOutput, hbuilt, h⟩ := bind_eq_ok.mp h
  cases h
  have hblinds : (lbtcPair.assetPair.destination.intent change).blinds false = true := by
    simpa [Intent.blinds, Address.intent, Address.isBlinded, Option.isSome_iff_ne_none] using hkey
  obtain ⟨-, hassetFrom⟩ := createOutput_ok (AssetRescue.liftTx_ok hasset)
  obtain ⟨-, hchangeFrom⟩ := createOutput_ok (AssetRescue.liftTx_ok hbuilt)
  have hfactors := createOutput_last hblinds (AssetRescue.liftTx_ok hbuilt)
  constructor
  · have hsum := hsolves change primitives.blinding.assetFactor
      [assetPair.unblinded.blindingParams, lbtcPair.unblinded.blindingParams]
      [(assetPair.unblinded.amount, assetOutput.factors), (fee, .zero)]
    have hlast : changeOutput.output.blindingParams = (change, changeOutput.factors) :=
      hchangeFrom.params
    have hother : assetOutput.output.blindingParams =
        (assetPair.unblinded.amount, assetOutput.factors) := hassetFrom.params
    have hfee : (feeEntry lbtcPair.unblinded.asset fee : Entry F AssetId Key).output.blindingParams =
        (fee, .zero) := rfl
    have hchosen : (change, changeOutput.factors) = (change, (⟨primitives.blinding.assetFactor,
        primitives.blinding.last change primitives.blinding.assetFactor
          [assetPair.unblinded.blindingParams, lbtcPair.unblinded.blindingParams]
          [(assetPair.unblinded.amount, assetOutput.factors), (fee, .zero)]⟩ : Factors F)) :=
      congrArg _ hfactors
    simp only [List.map_cons, List.map_nil, List.sum_cons, List.sum_nil, hother, hlast, hfee]
      at hsum ⊢
    rw [← hsum, hchosen]
    exact add_left_comm _ _ _
  · rintro -
    exact ⟨changeOutput.output, by simp, hchangeFrom.isBlinded.trans hblinds⟩

end

/-! ## Transactions that are returned -/

/-- The blinding factors of every transaction that the two builders return balance. -/
theorem blinding_factors_balance :
    (∀ {Keys Rate F AssetId Key : Type} [CommRing F] [DecidableEq AssetId]
      (primitives : Primitives Keys Rate F AssetId Key) sha256 inputs destination fee tx charged,
      primitives.blinding.Solves →
      constructTx sha256 primitives.library inputs destination fee = .ok (tx, charged) →
      ∃ unblinded,
        unblindOutputs primitives.library 0 (sortInputs (·.outpoint) inputs) = .ok unblinded ∧
        Balanced unblinded tx.output) ∧
    (∀ {Keys Rate F AssetId Key : Type} [CommRing F] [DecidableEq AssetId]
      (primitives : Primitives Keys Rate F AssetId Key) liquidAssetId assetPair lbtcPair fee tx
      charged, primitives.blinding.Solves →
      AssetRescue.constructAssetRescue primitives liquidAssetId assetPair lbtcPair fee =
        .ok (tx, charged) →
      ∃ asset lbtc, AssetRescue.unblindOutputs primitives assetPair = .ok asset ∧
        AssetRescue.unblindOutputs primitives lbtcPair = .ok lbtc ∧
        Balanced [asset, lbtc] tx.output) := by
  constructor
  · intro Keys Rate F AssetId Key _ _ primitives sha256 inputs destination fee tx charged hsolves h
    obtain ⟨first, rest, hunblinded, hblinded⟩ := constructTx_ok h
    exact ⟨first :: rest, hunblinded, blindOutputs_balanced hsolves hblinded⟩
  · intro Keys Rate F AssetId Key _ _ primitives liquidAssetId assetPair lbtcPair fee tx charged
      hsolves h
    obtain ⟨asset, lbtc, hasset, hlbtc, hblinded⟩ := AssetRescue.constructAssetRescue_ok h
    exact ⟨asset, lbtc, hasset, hlbtc, rescue_balanced hsolves hblinded⟩

/-- Factors of commitments on `secp256k1`. -/
abbrev Scalar : Type :=
  ZMod 0xfffffffffffffffffffffffffffffffebaaedce6af48a03bbfd25e8cd0364141

/-- Signatures are stubs, a key opens the outputs that were blinded for it, and `last` solves. -/
def samplePrimitives : Primitives Nat Nat Scalar String Nat where
  signing :=
    { legacySignature := fun _ _ _ _ => .error .secp
      segwitSignature := fun _ _ _ _ _ => .error .secp
      taprootSignature := fun _ _ _ _ _ => .error .secp
      controlBlock := fun _ _ i => .error (.controlBlock i) }
  honest := ⟨fun _ _ _ _ _ h => by cases h; rfl, fun _ _ _ _ _ _ h => by cases h; rfl,
    fun _ _ _ _ _ _ h => by cases h; rfl, fun _ _ _ _ h => by cases h; rfl⟩
  rates := { valid := fun _ => true, fee := fun rate size => rate * size }
  vsize _ := 150
  unblind output key :=
    match output.asset, output.value with
    | .confidential asset assetFactor, .confidential amount valueFactor =>
      if output.nonce = some key then some (asset, amount, ⟨assetFactor, valueFactor⟩) else none
    | _, _ => none
  blinding :=
    { dummyKey := 0
      assetFactor := 77
      valueFactor := fun i => 1000 + i
      last := fun amount factor inputs others =>
        (inputs.map weight).sum - (others.map weight).sum - amount * factor
      prove := fun _ _ _ => .ok ()
      honest := fun _ _ _ _ h => nomatch h }

theorem samplePrimitives_solves : samplePrimitives.blinding.Solves := by
  intro amount factor inputs others
  simp only [samplePrimitives, weight]
  ring

def sampleTaproot : Bytes := 0x51 :: 0x20 :: List.replicate 32 0xab

def sampleFactors : Factors Scalar := ⟨5, 9⟩

def sampleBlinded (asset : String) (amount : Nat) : TxOut Scalar String Nat where
  asset := .confidential asset sampleFactors.asset
  value := .confidential amount sampleFactors.value
  scriptPubkey := sampleTaproot
  nonce := some 1

def samplePlain (asset : String) (amount : Nat) : TxOut Scalar String Nat where
  asset := .explicit asset
  value := .explicit amount
  scriptPubkey := sampleTaproot
  nonce := none

def sampleInput (vout : Nat) (txOut : TxOut Scalar String Nat) :
    InputDetail Nat (TxOut Scalar String Nat) where
  inputType := .refund 100
  outputType := .taproot none
  outpoint := { hash := [], vout }
  txOut := txOut
  keys := 3
  blindingKey := some 1

def samplePair (vout : Nat) (txOut : TxOut Scalar String Nat) :
    AssetRescue.AssetPair Nat Scalar String Nat where
  txOut := txOut
  outpoint := { hash := [], vout }
  blindingKey := some 1
  destination := ⟨[0x51], some 4⟩

theorem factors_balance_samples :
    (∃ tx charged unblinded, constructTx (fun _ => ⟨List.replicate 32 0, rfl⟩)
        samplePrimitives.library
        [sampleInput 1 (sampleBlinded "lbtc" 1000), sampleInput 0 (samplePlain "lbtc" 500)]
        (.multiple { change := ⟨[0x52], some 4⟩, outputs := [(⟨[0x51], none⟩, 300)] })
        (.relative 1) = .ok (tx, charged) ∧ Balanced unblinded tx.output) ∧
    (∃ tx charged asset lbtc, AssetRescue.constructAssetRescue samplePrimitives (.ok "lbtc")
        (samplePair 0 (sampleBlinded "usdt" 1000)) (samplePair 1 (samplePlain "lbtc" 500))
        (.absolute 50) = .ok (tx, charged) ∧ Balanced [asset, lbtc] tx.output) := by
  constructor
  · obtain ⟨⟨tx, charged⟩, hresult, -⟩ := bind_eq_ok.mp
      (show (constructTx (fun _ => ⟨List.replicate 32 0, rfl⟩) samplePrimitives.library
        [sampleInput 1 (sampleBlinded "lbtc" 1000), sampleInput 0 (samplePlain "lbtc" 500)]
        (.multiple { change := ⟨[0x52], some 4⟩, outputs := [(⟨[0x51], none⟩, 300)] })
        (.relative 1) >>= fun result => Except.ok result.2) = .ok 152 by decide +kernel)
    obtain ⟨unblinded, -, hbalanced⟩ := blinding_factors_balance.1 samplePrimitives _ _ _ _ tx charged
      samplePrimitives_solves hresult
    exact ⟨tx, charged, unblinded, hresult, hbalanced⟩
  · obtain ⟨⟨tx, charged⟩, hresult, -⟩ := bind_eq_ok.mp
      (show (AssetRescue.constructAssetRescue samplePrimitives (.ok "lbtc")
        (samplePair 0 (sampleBlinded "usdt" 1000)) (samplePair 1 (samplePlain "lbtc" 500))
        (.absolute 50) >>= fun result => Except.ok result.2) = .ok 50 by decide +kernel)
    obtain ⟨asset, lbtc, -, -, hbalanced⟩ := blinding_factors_balance.2 samplePrimitives _ _ _ _ tx
      charged samplePrimitives_solves hresult
    exact ⟨tx, charged, asset, lbtc, hresult, hbalanced⟩

end Boltz.Core.Elements

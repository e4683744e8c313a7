import Boltz.Core.FeeTargets
import Boltz.Core.Words
import Mathlib.Algebra.Ring.Defs

/-!
# Blinded outputs (`boltz-core/src/elements/tx.rs`)

The outputs of a Liquid transaction are sorted and built one after the other. The ones with a
blinding key are commitments with random factors, and the last of them is built again, with the
value factor that balances the transaction.
-/

namespace Boltz.Core.Elements

/-! ## Outputs -/

/-- A field of an output: a commitment is what it commits to and the factor it was made with. -/
inductive Confidential (α F : Type) where
  | null
  | explicit (value : α)
  | confidential (value : α) (factor : F)
  deriving DecidableEq, Repr

def Confidential.isConfidential {α F : Type} : Confidential α F → Bool
  | .confidential _ _ => true
  | _ => false

/-- The value that everyone can read. -/
def Confidential.explicit? {α F : Type} : Confidential α F → Option α
  | .explicit value => some value
  | _ => none

def Confidential.value? {α F : Type} : Confidential α F → Option α
  | .null => none
  | .explicit value | .confidential value _ => some value

def Confidential.factor {α F : Type} [Zero F] : Confidential α F → F
  | .confidential _ factor => factor
  | _ => 0

structure TxOut (F AssetId Key : Type) where
  asset : Confidential AssetId F
  value : Confidential Nat F
  scriptPubkey : Bytes
  /-- The key with which the commitments can be opened. -/
  nonce : Option Key
  deriving DecidableEq, Repr

structure Address (Key : Type) where
  scriptPubkey : Bytes
  blindingPubkey : Option Key
  deriving DecidableEq, Repr

def Address.isBlinded {Key : Type} (address : Address Key) : Bool := address.blindingPubkey.isSome

/-- The factors of an output. -/
structure Factors (F : Type) where
  asset : F
  value : F
  deriving DecidableEq, Repr

def Factors.zero {F : Type} [Zero F] : Factors F := ⟨0, 0⟩

/-- An amount and the factors of its commitments. -/
abbrev BlindingParams (F : Type) := Nat × Factors F

def UnblindedOutput.blindingParams {F AssetId : Type} [Zero F]
    (output : UnblindedOutput (Factors F) AssetId) : BlindingParams F :=
  (output.amount, output.secrets.getD .zero)

def TxOut.amount {F AssetId Key : Type} (output : TxOut F AssetId Key) : Nat :=
  output.value.value?.getD 0

def TxOut.blindingParams {F AssetId Key : Type} [Zero F] (output : TxOut F AssetId Key) :
    BlindingParams F :=
  (output.amount, ⟨output.asset.factor, output.value.factor⟩)

def TxOut.isBlinded {F AssetId Key : Type} (output : TxOut F AssetId Key) : Bool :=
  output.asset.isConfidential && output.value.isConfidential

/-- The outputs that pay a fee have no script. -/
def TxOut.newFee {F AssetId Key : Type} (fee : Nat) (asset : AssetId) : TxOut F AssetId Key where
  asset := .explicit asset
  value := .explicit fee
  scriptPubkey := []
  nonce := none

/-! ## Building an output -/

/-- What the builder gets from `secp256k1-zkp` and its random numbers. The range proof and the
surjection proof of the `i`-th output that is built may fail. -/
structure Blinding (F AssetId Key : Type) where
  dummyKey : Key
  assetFactor : F
  valueFactor : Nat → F
  last : Nat → F → List (BlindingParams F) → List (BlindingParams F) → F
  prove : Nat → List (UnblindedOutput (Factors F) AssetId) → TxOut F AssetId Key →
    Except TxError Unit
  /-- The errors of the proofs are not about amounts. -/
  honest : ∀ i unblinded output e, prove i unblinded output = .error e → e.isAmount = false

/-- An output to be built. -/
structure Intent (Key : Type) where
  amount : Nat
  scriptPubkey : Bytes
  blindingPubkey : Option Key
  deriving DecidableEq, Repr

structure Created (F AssetId Key : Type) where
  blinded : Bool
  factors : Factors F
  output : TxOut F AssetId Key
  deriving DecidableEq, Repr

section

variable {F AssetId Key : Type} [Zero F] (blinding : Blinding F AssetId Key)

def createOutput (i : Nat) (unblinded : List (UnblindedOutput (Factors F) AssetId))
    (asset : AssetId × F) (intent : Intent Key) (isFeeEstimation : Bool)
    (lastBlindingParams : Option (List (BlindingParams F))) :
    Except TxError (Created F AssetId Key) :=
  match isFeeEstimation, intent.blindingPubkey with
  | false, some blindingKey => do
    let valueFactor := match lastBlindingParams with
      | some params =>
        blinding.last intent.amount asset.2 (unblinded.map (·.blindingParams)) params
      | none => blinding.valueFactor i
    let output : TxOut F AssetId Key :=
      { asset := .confidential asset.1 asset.2
        value := .confidential intent.amount valueFactor
        scriptPubkey := intent.scriptPubkey
        nonce := some blindingKey }
    blinding.prove i unblinded output
    return { blinded := true, factors := ⟨asset.2, valueFactor⟩, output }
  | _, _ =>
    let output : TxOut F AssetId Key :=
      { asset := .explicit asset.1
        value := .explicit intent.amount
        scriptPubkey := intent.scriptPubkey
        nonce := none }
    .ok { blinded := false, factors := .zero, output }

end

/-! ## The outputs of a transaction -/

def dummyBlindedOutput : Nat := 1

/-- `OP_RETURN`. -/
def dummyScript : Bytes := [0x6a]

section

variable {F AssetId Key : Type}

/-- Some input is blinded, and none of the outputs is. -/
def needsDummyOutput (unblinded : List (UnblindedOutput (Factors F) AssetId)) :
    Destination (Address Key) → Bool
  | .single address => unblinded.any (·.secrets.isSome) && !address.isBlinded
  | .multiple destination =>
    unblinded.any (·.secrets.isSome) && (!destination.change.isBlinded &&
      !destination.outputs.any fun output => output.1.isBlinded)

def Address.intent (address : Address Key) (amount : Nat) : Intent Key where
  amount := amount
  scriptPubkey := address.scriptPubkey
  blindingPubkey := address.blindingPubkey

/-- What is left of the inputs for the outputs that were asked for and the fee. The release build
does not check for overflows. -/
def inputSum (unblinded : List (UnblindedOutput (Factors F) AssetId)) (needsDummy : Bool) : Nat :=
  let inputSum := Word.sum u64Size (unblinded.map (·.amount))
  if needsDummy then Word.sub u64Size inputSum dummyBlindedOutput else inputSum

def dummyIntents (dummyKey : Key) (needsDummy : Bool) : List (Intent Key) :=
  if needsDummy then
    [{ amount := dummyBlindedOutput, scriptPubkey := dummyScript, blindingPubkey := dummyKey }]
  else []

def dummyAmount (needsDummy : Bool) : Nat := if needsDummy then dummyBlindedOutput else 0

def Outputs.intents (destination : Outputs (Address Key)) (sweepAmount : Nat) :
    List (Intent Key) :=
  destination.outputs.map (fun output => output.1.intent output.2) ++
    [destination.change.intent sweepAmount]

/-- The outputs before they are sorted. -/
def intents (dummyKey : Key) (unblinded : List (UnblindedOutput (Factors F) AssetId))
    (destination : Destination (Address Key)) (fee : Nat) : Except TxError (List (Intent Key)) :=
  let needsDummy := needsDummyOutput unblinded destination
  let inputSum := inputSum unblinded needsDummy
  match destination with
  | .single address =>
    match Word.checkedSub inputSum fee with
    | some amount => .ok (dummyIntents dummyKey needsDummy ++ [address.intent amount])
    | none => .error .feeExceedsInputs
  | .multiple destination =>
    let outputSum := Word.sum u64Size (destination.outputs.map (·.2))
    let total := Word.add u64Size (Word.add u64Size outputSum fee) (dummyAmount needsDummy)
    if total > inputSum then .error .outputsExceedInputs
    else
      let sweepAmount := Word.sub u64Size (Word.sub u64Size inputSum fee) outputSum
      .ok (dummyIntents dummyKey needsDummy ++ Outputs.intents destination sweepAmount)

/-- The comparison of a fee with the inputs. -/
def accepts (unblinded : List (UnblindedOutput (Factors F) AssetId))
    (destination : Destination (Address Key)) (fee : Nat) : Bool :=
  let needsDummy := needsDummyOutput unblinded destination
  match destination with
  | .single _ => fee ≤ inputSum unblinded needsDummy
  | .multiple destination =>
    Word.add u64Size (Word.add u64Size (Word.sum u64Size (destination.outputs.map (·.2))) fee)
      (dummyAmount needsDummy) ≤ inputSum unblinded needsDummy

/-- What the comparison leaves for the last address. -/
def remaining (unblinded : List (UnblindedOutput (Factors F) AssetId))
    (destination : Destination (Address Key)) (fee : Nat) : Nat :=
  let inputSum := inputSum unblinded (needsDummyOutput unblinded destination)
  match destination with
  | .single _ => inputSum - fee
  | .multiple destination =>
    Word.sub u64Size (Word.sub u64Size inputSum fee)
      (Word.sum u64Size (destination.outputs.map (·.2)))

/-- The order of outputs by amount and script. -/
def intentLe (a b : Intent Key) : Prop :=
  ((compare a.amount b.amount).then (compare a.scriptPubkey b.scriptPubkey)).isLE = true

instance (a b : Intent Key) : Decidable (intentLe a b) :=
  inferInstanceAs (Decidable (_ = true))

/-- An output that was built, as the loop keeps it. -/
structure Entry (F AssetId Key : Type) where
  amount : Nat
  factors : Factors F
  output : TxOut F AssetId Key
  deriving DecidableEq, Repr

def Entry.blindingParams (entry : Entry F AssetId Key) : BlindingParams F :=
  (entry.amount, entry.factors)

/-- The accumulators of the loop. -/
structure Built (F AssetId Key : Type) where
  outputs : List (Entry F AssetId Key) := []
  lastToBlind : Option (Nat × Intent Key) := none
  deriving DecidableEq, Repr

variable [Zero F] (blinding : Blinding F AssetId Key)
variable (unblinded : List (UnblindedOutput (Factors F) AssetId)) (assetId : AssetId)
variable (isFeeEstimation : Bool)

def buildOutput (built : Built F AssetId Key) (intent : Intent Key) :
    Except TxError (Built F AssetId Key) := do
  let created ← createOutput blinding built.outputs.length unblinded
    (assetId, blinding.assetFactor) intent isFeeEstimation none
  return {
    lastToBlind :=
      if created.blinded then some (built.outputs.length, intent) else built.lastToBlind
    outputs := built.outputs ++ [⟨intent.amount, created.factors, created.output⟩] }

/-- The loop over the intents. -/
def buildOutputs (built : Built F AssetId Key) :
    List (Intent Key) → Except TxError (Built F AssetId Key)
  | [] => .ok built
  | intent :: intents => do
    buildOutputs (← buildOutput blinding unblinded assetId isFeeEstimation built intent) intents

def feeEntry (fee : Nat) : Entry F AssetId Key := ⟨fee, .zero, .newFee fee assetId⟩

/-- The last blinded output again, now with the parameters of all others. -/
def balanceLast (outputs : List (Entry F AssetId Key)) :
    Option (Nat × Intent Key) → Except TxError (List (Entry F AssetId Key))
  | none => .ok outputs
  | some (index, intent) => do
    let created ← createOutput blinding outputs.length unblinded (assetId, blinding.assetFactor)
      intent isFeeEstimation (some ((outputs.eraseIdx index).map (·.blindingParams)))
    if index < outputs.length then
      .ok (outputs.set index ⟨intent.amount, created.factors, created.output⟩)
    else .error (.outputIndexOutOfBounds index)

def blindOutputs (destination : Destination (Address Key)) (fee : Nat) :
    Except TxError (List (TxOut F AssetId Key)) := do
  let intents ← intents blinding.dummyKey unblinded destination fee
  let built ← buildOutputs blinding unblinded assetId isFeeEstimation {}
    (intents.insertionSort intentLe)
  let outputs ← balanceLast blinding unblinded assetId isFeeEstimation
    (built.outputs ++ [feeEntry assetId fee]) built.lastToBlind
  return outputs.map (·.output)

end

/-! ## What is built -/

section

variable {F AssetId Key : Type} [Zero F]

/-- Whether an intent becomes a commitment. -/
def Intent.blinds (intent : Intent Key) (isFeeEstimation : Bool) : Bool :=
  !isFeeEstimation && intent.blindingPubkey.isSome

/-- An entry is built from an intent. -/
structure Entry.BuiltFrom (isFeeEstimation : Bool) (intent : Intent Key)
    (entry : Entry F AssetId Key) : Prop where
  amount : entry.amount = intent.amount
  params : entry.output.blindingParams = entry.blindingParams
  script : entry.output.scriptPubkey = intent.scriptPubkey
  isBlinded : entry.output.isBlinded = intent.blinds isFeeEstimation
  plain : intent.blinds isFeeEstimation = false → entry.factors = .zero

variable {blinding : Blinding F AssetId Key}
variable {unblinded : List (UnblindedOutput (Factors F) AssetId)}
variable {intent : Intent Key} {isFeeEstimation : Bool}

theorem createOutput_ok {i : Nat} {asset : AssetId × F}
    {params : Option (List (BlindingParams F))} {created : Created F AssetId Key}
    (h : createOutput blinding i unblinded asset intent isFeeEstimation params = .ok created) :
    created.blinded = intent.blinds isFeeEstimation ∧
      Entry.BuiltFrom isFeeEstimation intent
        ⟨intent.amount, created.factors, created.output⟩ := by
  obtain ⟨amount, script, key⟩ := intent
  cases isFeeEstimation with
  | true =>
    cases h
    exact ⟨rfl, ⟨rfl, rfl, rfl, rfl, fun _ => rfl⟩⟩
  | false =>
    cases key with
    | none =>
      cases h
      exact ⟨rfl, ⟨rfl, rfl, rfl, rfl, fun _ => rfl⟩⟩
    | some key =>
      obtain ⟨-, -, h⟩ := bind_eq_ok.mp h
      cases h
      exact ⟨rfl, ⟨rfl, rfl, rfl, rfl, fun h => absurd h (by simp [Intent.blinds])⟩⟩

/-- The factors of a blinded output that is built with the parameters of the others. -/
theorem createOutput_last {i : Nat} {asset : AssetId × F} {params : List (BlindingParams F)}
    {created : Created F AssetId Key} (hblinds : intent.blinds isFeeEstimation = true)
    (h : createOutput blinding i unblinded asset intent isFeeEstimation (some params) =
      .ok created) :
    created.factors = ⟨asset.2,
      blinding.last intent.amount asset.2 (unblinded.map (·.blindingParams)) params⟩ := by
  obtain ⟨amount, script, key⟩ := intent
  simp only [Intent.blinds, Bool.and_eq_true, Bool.not_eq_true', Option.isSome_iff_exists]
    at hblinds
  obtain ⟨rfl, key, rfl⟩ := hblinds
  obtain ⟨-, -, h⟩ := bind_eq_ok.mp h
  cases h
  rfl

/-- The accumulators after the intents in `done`. -/
structure Built.Of (isFeeEstimation : Bool) (done : List (Intent Key))
    (built : Built F AssetId Key) : Prop where
  outputs : List.Forall₂ (Entry.BuiltFrom isFeeEstimation) done built.outputs
  last : ∀ index intent, built.lastToBlind = some (index, intent) →
    done[index]? = some intent ∧ intent.blinds isFeeEstimation = true
  noLast : built.lastToBlind = none → ∀ intent ∈ done, intent.blinds isFeeEstimation = false

theorem Built.of_nil : Built.Of isFeeEstimation [] ({} : Built F AssetId Key) where
  outputs := .nil
  last _ _ h := nomatch h
  noLast _ _ h := nomatch h

variable {assetId : AssetId}

theorem buildOutput_ok {done : List (Intent Key)} {built built' : Built F AssetId Key}
    (hof : built.Of isFeeEstimation done)
    (h : buildOutput blinding unblinded assetId isFeeEstimation built intent = .ok built') :
    built'.Of isFeeEstimation (done ++ [intent]) := by
  obtain ⟨created, hcreated, h⟩ := bind_eq_ok.mp h
  obtain ⟨hblinded, hfrom⟩ := createOutput_ok hcreated
  cases h
  have hlength : done.length = built.outputs.length := hof.outputs.length_eq
  refine ⟨List.rel_append hof.outputs (.cons hfrom .nil), ?_, ?_⟩
  · intro index last hlast
    simp only [hblinded] at hlast
    split at hlast
    · rename_i hblinds
      cases hlast
      refine ⟨?_, hblinds⟩
      rw [← hlength, List.getElem?_append_right (Nat.le_refl _), Nat.sub_self]
      rfl
    · obtain ⟨hget, hblinds⟩ := hof.last index last hlast
      have hlt : index < done.length := (List.getElem?_eq_some_iff.mp hget).1
      exact ⟨by rw [List.getElem?_append_left hlt, hget], hblinds⟩
  · intro hlast other hother
    simp only [hblinded] at hlast
    split at hlast
    · cases hlast
    · rename_i hblinds
      rcases List.mem_append.mp hother with hother | hother
      · exact hof.noLast hlast other hother
      · rw [List.mem_singleton.mp hother]
        exact Bool.not_eq_true _ ▸ hblinds

theorem buildOutputs_ok {intents : List (Intent Key)} {done : List (Intent Key)}
    {built built' : Built F AssetId Key} (hof : built.Of isFeeEstimation done)
    (h : buildOutputs blinding unblinded assetId isFeeEstimation built intents = .ok built') :
    built'.Of isFeeEstimation (done ++ intents) := by
  induction intents generalizing done built with
  | nil =>
    cases h
    rw [List.append_nil]
    exact hof
  | cons intent intents ih =>
    obtain ⟨next, hstep, h⟩ := bind_eq_ok.mp h
    have hdone := ih (buildOutput_ok hof hstep) h
    rwa [List.append_assoc, List.singleton_append] at hdone

theorem exists_of_forall₂ {α β : Type} {R : α → β → Prop} {l : List α} {l' : List β} {a : α}
    (h : List.Forall₂ R l l') (ha : a ∈ l) : ∃ b ∈ l', R a b := by
  induction h with
  | nil => cases ha
  | cons hr hrs ih =>
    rcases List.mem_cons.mp ha with rfl | ha
    · exact ⟨_, List.mem_cons_self, hr⟩
    · obtain ⟨b, hb, hr⟩ := ih ha
      exact ⟨b, List.mem_cons_of_mem _ hb, hr⟩

theorem forall₂_set {α β : Type} {R : α → β → Prop} {l : List α} {l' : List β} {k : Nat} {a : α}
    {b : β} (h : List.Forall₂ R l l') (hget : l[k]? = some a) (hab : R a b) :
    List.Forall₂ R l (l'.set k b) := by
  induction h generalizing k with
  | nil => cases hget
  | cons hr hrs ih =>
    cases k with
    | zero =>
      cases hget
      exact .cons hab hrs
    | succ k => exact .cons hr (ih hget)

theorem balanceLast_ok {intents : List (Intent Key)} {built : Built F AssetId Key}
    {outputs : List (Entry F AssetId Key)} {fee : Nat} (hof : built.Of isFeeEstimation intents)
    (h : balanceLast blinding unblinded assetId isFeeEstimation
      (built.outputs ++ [feeEntry assetId fee]) built.lastToBlind = .ok outputs) :
    ∃ entries, outputs = entries ++ [feeEntry assetId fee] ∧
      List.Forall₂ (Entry.BuiltFrom isFeeEstimation) intents entries := by
  cases hlast : built.lastToBlind with
  | none =>
    rw [hlast] at h
    cases h
    exact ⟨built.outputs, rfl, hof.outputs⟩
  | some last =>
    obtain ⟨index, intent⟩ := last
    obtain ⟨hget, hblinds⟩ := hof.last index intent hlast
    have hlt : index < built.outputs.length :=
      hof.outputs.length_eq ▸ (List.getElem?_eq_some_iff.mp hget).1
    rw [hlast] at h
    obtain ⟨created, hcreated, h⟩ := bind_eq_ok.mp h
    obtain ⟨-, hfrom⟩ := createOutput_ok hcreated
    split at h
    · cases h
      rw [List.set_append_left _ _ hlt]
      exact ⟨_, rfl, forall₂_set hof.outputs hget hfrom⟩
    · cases h

/-- The outputs that were asked for, and what is left of the inputs. -/
def destinationIntents (destination : Destination (Address Key)) (rest : Nat) :
    List (Intent Key) :=
  match destination with
  | .single address => [address.intent rest]
  | .multiple destination => Outputs.intents destination rest

omit [Zero F] in
theorem intents_ok {dummyKey : Key} {destination : Destination (Address Key)} {fee : Nat}
    {unsorted : List (Intent Key)} (h : intents dummyKey unblinded destination fee = .ok unsorted) :
    accepts unblinded destination fee = true ∧
      unsorted = dummyIntents dummyKey (needsDummyOutput unblinded destination) ++
        destinationIntents destination (remaining unblinded destination fee) := by
  cases destination with
  | single address =>
    unfold intents at h
    simp only at h
    split at h
    · rename_i amount hamount
      obtain ⟨hle, rfl⟩ := Word.checkedSub_eq_some.mp hamount
      cases h
      exact ⟨decide_eq_true hle, rfl⟩
    · cases h
  | multiple destination =>
    unfold intents at h
    simp only at h
    split at h
    · cases h
    · rename_i hle
      cases h
      exact ⟨decide_eq_true (Nat.le_of_not_lt hle), rfl⟩

omit [Zero F] in
theorem intents_error {dummyKey : Key} {destination : Destination (Address Key)} {fee : Nat}
    {e : TxError} (h : intents dummyKey unblinded destination fee = .error e) :
    accepts unblinded destination fee = false ∧ e.isAmount = true := by
  cases destination with
  | single address =>
    unfold intents at h
    simp only at h
    split at h
    · cases h
    · rename_i hnone
      cases h
      exact ⟨decide_eq_false (Nat.not_le_of_lt (Word.checkedSub_eq_none.mp hnone)), rfl⟩
  | multiple destination =>
    unfold intents at h
    simp only at h
    split at h
    · rename_i hlt
      cases h
      exact ⟨decide_eq_false (Nat.not_le_of_lt hlt), rfl⟩
    · cases h

/-- What the outputs of a transaction are built from. -/
theorem blindOutputs_ok {destination : Destination (Address Key)} {fee : Nat}
    {outputs : List (TxOut F AssetId Key)}
    (h : blindOutputs blinding unblinded assetId isFeeEstimation destination fee = .ok outputs) :
    ∃ unsorted entries, intents blinding.dummyKey unblinded destination fee = .ok unsorted ∧
      List.Forall₂ (Entry.BuiltFrom isFeeEstimation) (unsorted.insertionSort intentLe) entries ∧
      outputs = entries.map (·.output) ++ [.newFee fee assetId] := by
  obtain ⟨unsorted, hunsorted, h⟩ := bind_eq_ok.mp h
  obtain ⟨built, hbuilt, h⟩ := bind_eq_ok.mp h
  obtain ⟨all, hall, h⟩ := bind_eq_ok.mp h
  cases h
  obtain ⟨entries, rfl, hentries⟩ := balanceLast_ok (buildOutputs_ok Built.of_nil hbuilt) hall
  refine ⟨unsorted, entries, hunsorted, hentries, ?_⟩
  rw [List.map_append]
  rfl

/-! ## Errors of the steps -/

/-- A proof failed with this error. -/
def Blinding.Fails (blinding : Blinding F AssetId Key) (e : TxError) : Prop :=
  ∃ i unblinded output, blinding.prove i unblinded output = .error e

omit [Zero F] in
theorem Blinding.Fails.isAmount {e : TxError} (h : blinding.Fails e) : e.isAmount = false := by
  obtain ⟨i, unblinded, output, h⟩ := h
  exact blinding.honest i unblinded output e h

theorem createOutput_error {i : Nat} {asset : AssetId × F}
    {params : Option (List (BlindingParams F))} {e : TxError}
    (h : createOutput blinding i unblinded asset intent isFeeEstimation params = .error e) :
    blinding.Fails e := by
  unfold createOutput at h
  split at h
  · rcases bind_eq_error.mp h with h | ⟨-, -, h⟩
    · exact ⟨_, _, _, h⟩
    · cases h
  · cases h

theorem buildOutputs_error {intents : List (Intent Key)} {built : Built F AssetId Key} {e : TxError}
    (h : buildOutputs blinding unblinded assetId isFeeEstimation built intents = .error e) :
    blinding.Fails e := by
  induction intents generalizing built with
  | nil => cases h
  | cons intent intents ih =>
    rcases bind_eq_error.mp h with h | ⟨next, -, h⟩
    · rcases bind_eq_error.mp h with h | ⟨created, -, h⟩
      · exact createOutput_error h
      · cases h
    · exact ih h

/-- The index of the last blinded output is in range. -/
theorem balanceLast_error {intents : List (Intent Key)} {built : Built F AssetId Key} {fee : Nat}
    {e : TxError} (hof : built.Of isFeeEstimation intents)
    (h : balanceLast blinding unblinded assetId isFeeEstimation
      (built.outputs ++ [feeEntry assetId fee]) built.lastToBlind = .error e) :
    blinding.Fails e := by
  cases hlast : built.lastToBlind with
  | none =>
    rw [hlast] at h
    cases h
  | some last =>
    obtain ⟨index, intent⟩ := last
    obtain ⟨hget, -⟩ := hof.last index intent hlast
    have hlt : index < built.outputs.length :=
      hof.outputs.length_eq ▸ (List.getElem?_eq_some_iff.mp hget).1
    rw [hlast] at h
    rcases bind_eq_error.mp h with h | ⟨created, -, h⟩
    · exact createOutput_error h
    · rw [if_pos (by rw [List.length_append]; omega)] at h
      cases h

/-- Apart from the proofs only the comparison fails. -/
theorem blindOutputs_error {destination : Destination (Address Key)} {fee : Nat} {e : TxError}
    (h : blindOutputs blinding unblinded assetId isFeeEstimation destination fee = .error e) :
    (accepts unblinded destination fee = false ∧ e.isAmount = true) ∨ blinding.Fails e := by
  rcases bind_eq_error.mp h with h | ⟨unsorted, -, h⟩
  · exact .inl (intents_error h)
  · rcases bind_eq_error.mp h with h | ⟨built, hbuilt, h⟩
    · exact .inr (buildOutputs_error h)
    · rcases bind_eq_error.mp h with h | ⟨all, -, h⟩
      · exact .inr (balanceLast_error (buildOutputs_ok Built.of_nil hbuilt) h)
      · cases h

end

/-! ## The builder with these outputs -/

/-- The libraries below the builder. -/
structure Primitives (Keys Rate F AssetId Key : Type) where
  signing : Signing Keys (TxOut F AssetId Key)
  honest : signing.Honest
  rates : FeeRates Rate
  vsize : Transaction (TxOut F AssetId Key) → Nat
  unblind : TxOut F AssetId Key → Keys → Option (AssetId × Nat × Factors F)
  blinding : Blinding F AssetId Key

section

variable {Keys Rate F AssetId Key : Type} [Zero F]

def Primitives.library (primitives : Primitives Keys Rate F AssetId Key) :
    Library Keys Rate (TxOut F AssetId Key) (Address Key) (Factors F) AssetId where
  signing := primitives.signing
  rates := primitives.rates
  vsize := primitives.vsize
  isConfidential output := output.value.isConfidential
  unblind output key :=
    match primitives.unblind output key with
    | some (asset, amount, factors) => .ok { asset, amount, secrets := some factors }
    | none => .error .unblind
  explicitAsset output := output.asset.explicit?
  explicitValue output := output.value.explicit?
  blindOutputs unblinded assetId destination fee isFeeEstimation :=
    blindOutputs primitives.blinding unblinded assetId isFeeEstimation destination fee

variable [DecidableEq AssetId] {sha256 : Bytes → FixedBytes 32}
variable {primitives : Primitives Keys Rate F AssetId Key}

/-- What a transaction that is returned was built from. -/
theorem constructTx_ok {inputs : List (InputDetail Keys (TxOut F AssetId Key))}
    {destination : Destination (Address Key)} {fee : FeeTarget Rate}
    {tx : Transaction (TxOut F AssetId Key)} {charged : Nat}
    (h : constructTx sha256 primitives.library inputs destination fee = .ok (tx, charged)) :
    ∃ first rest,
      unblindOutputs primitives.library 0 (sortInputs (·.outpoint) inputs) = .ok (first :: rest) ∧
      blindOutputs primitives.blinding (first :: rest) first.asset false destination charged =
        .ok tx.output := by
  obtain ⟨unblinded, hunblinded, h⟩ := bind_eq_ok.mp h
  split at h
  · cases h
  · rename_i first rest
    split at h
    · obtain ⟨lockTime, -, h⟩ := bind_eq_ok.mp (exists_construct_of_targetFee h)
      obtain ⟨output, houtput, h⟩ := bind_eq_ok.mp h
      obtain ⟨input, -, h⟩ := bind_eq_ok.mp h
      cases h
      exact ⟨first, rest, hunblinded, houtput⟩
    · cases h

end

end Boltz.Core.Elements

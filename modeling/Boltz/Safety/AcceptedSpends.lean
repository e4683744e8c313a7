import Boltz.Core.BlindOutputs
import Boltz.Safety.BitcoinAmounts
import Boltz.Safety.SpentSwaps

/-!
# Built transactions are valid

An input of a swap is valid in the transaction that a builder returns, whatever the other inputs are:
its signature is for the place it has after sorting, and the lock time is late enough for all
refunds. Nothing but the amounts, and lock times that are no heights, keeps a builder from returning
one.
-/

namespace Boltz.Core

open Script (Item)

variable {version : UInt8}

/-! ## Builders -/

section

variable {Keys TxOut : Type} {v : Validation TxOut} {keys : PublicKeys Keys}
variable {signing : Signing Keys TxOut} {inputs sorted : List (InputDetail Keys TxOut)}
variable {tx : Transaction TxOut} {built : SwapParams → SwapScripts → Prop}

/-- Every input spends an output of some swap, whose scripts were built. -/
def SpendSwaps (v : Validation TxOut) (keys : PublicKeys Keys)
    (built : SwapParams → SwapScripts → Prop) (inputs : List (InputDetail Keys TxOut)) : Prop :=
  ∀ input ∈ inputs, ∃ p scripts, built p scripts ∧ SpendsSwap v keys p scripts input ∧
    ∀ lockTime, input.inputType = .refund lockTime → TakesRefund v p scripts input.outputType

/-- All inputs of a transaction are valid, with the outputs that they spend. -/
def AllValid (v : Validation TxOut) (inputs : List (InputDetail Keys TxOut))
    (tx : Transaction TxOut) : Prop :=
  ∃ sorted : List (InputDetail Keys TxOut), sorted.Perm inputs ∧
    tx.input.map (·.previousOutput) = sorted.map (·.outpoint) ∧
    ∀ i < tx.input.length, v.validInput tx (sorted.map fun input => input.txOut) i = true

theorem allValid_of_signedWith (hsound : signing.Sound v keys version)
    (hbuilt : ∀ p scripts, built p scripts → p.IsLayout version scripts)
    (hspends : SpendSwaps v keys built inputs) (hperm : sorted.Perm inputs)
    (hsigned : SignedWith v.sha256 signing sorted tx) : AllValid v inputs tx := by
  refine ⟨sorted, hperm, ?_, fun i hi => ?_⟩
  · apply List.ext_getElem?
    intro i
    rw [List.getElem?_map, List.getElem?_map]
    cases hinput : sorted[i]? with
    | none =>
      have hnone : tx.input[i]? = none := by
        have hlength := hsigned.length
        rw [List.getElem?_eq_none_iff] at hinput ⊢
        omega
      rw [hnone]
      rfl
    | some input =>
      obtain ⟨txIn, htxIn, hsign⟩ := hsigned.input i input hinput
      rw [htxIn]
      exact congrArg some (signInput_keeps hsign).1
  · obtain ⟨input, hinput⟩ : ∃ input, sorted[i]? = some input :=
      ⟨_, List.getElem?_eq_getElem (by rw [← hsigned.length]; exact hi)⟩
    obtain ⟨p, scripts, hscripts, hspend, htakes⟩ :=
      hspends input (hperm.mem_iff.mp (List.mem_of_getElem? hinput))
    exact validInput_of_signedWith hsound (hbuilt p scripts hscripts) hspend htakes hsigned hinput

/-- Nothing but a lock time that is no height keeps inputs of swaps from being signed. -/
theorem signInputs_total (hsound : signing.Sound v keys version)
    (hbuilt : ∀ p scripts, built p scripts → p.IsLayout version scripts)
    (hspends : SpendSwaps v keys built inputs) (time : Nat) (output : List TxOut) :
    ∃ signed, signInputs v.sha256 signing { lockTime := time, input := unsignedInputs inputs, output }
      (inputs.map fun input => input.txOut) 0 inputs (unsignedInputs inputs) = .ok signed := by
  cases hsigned : signInputs v.sha256 signing
      { lockTime := time, input := unsignedInputs inputs, output }
      (inputs.map fun input => input.txOut) 0 inputs (unsignedInputs inputs) with
  | ok signed => exact ⟨signed, rfl⟩
  | error e =>
    obtain ⟨i, input, hinput, hsign⟩ := signInputs_eq_error hsigned
    obtain ⟨p, scripts, hscripts, hspend, -⟩ := hspends input (List.mem_of_getElem? hinput)
    have hlt : i < inputs.length := (List.getElem?_eq_some_iff.mp hinput).1
    let tx : Transaction TxOut := { lockTime := time, input := unsignedInputs inputs, output }
    have hlength : tx.input.length = inputs.length := List.length_map _
    obtain ⟨txIn, htxIn⟩ : ∃ txIn, signInput v.sha256 signing tx
        (inputs.map fun input => input.txOut) (0 + i) input { previousOutput := input.outpoint } =
          .ok txIn :=
      signInput_total hsound (hbuilt p scripts hscripts) hspend (by omega)
        (by rw [List.length_map, hlength])
    cases hsign.symm.trans htxIn

/-- Every refund has a height as its lock time. -/
def Heights (inputs : List (InputDetail Keys TxOut)) : Prop :=
  ∀ lockTime ∈ refundLockTimes inputs, lockTime < 500000000

instance : Decidable (Heights inputs) :=
  inferInstanceAs (Decidable (∀ lockTime ∈ refundLockTimes inputs, lockTime < 500000000))

theorem lockTime_isOk_iff : (∃ time, lockTime inputs = .ok time) ↔ Heights inputs := by
  constructor
  · rintro ⟨time, htime⟩ lockTime hmem
    obtain ⟨hle, hheight, -⟩ := lockTime_eq_ok htime
    exact Nat.lt_of_le_of_lt (hle lockTime hmem) (hheight (List.ne_nil_of_mem hmem)).2
  · intro hheights
    cases htime : lockTime inputs with
    | ok time => exact ⟨time, rfl⟩
    | error e =>
      obtain ⟨-, lockTime, hmem, hle⟩ := lockTime_eq_error htime
      exact absurd (hheights lockTime hmem) (Nat.not_lt_of_le hle)

end

/-- The outputs can be made with the fee of a target, and with the one for the size. -/
def TargetFits {Rate Tx E : Type} (rates : FeeRates Rate) (size : Tx → Nat)
    (construct : Nat → Bool → Except E Tx) (fits : Nat → Bool → Prop) : FeeTarget Rate → Prop
  | .absolute fee => fits fee false
  | .relative rate => rates.valid rate = true ∧ fits 1 true ∧
    ∀ estimated, construct 1 true = .ok estimated → fits (rates.fee rate (size estimated)) false

theorem targetFeeOf_isOk_iff {Rate Tx E : Type} {rates : FeeRates Rate} {size : Tx → Nat}
    {invalidFeeRate : E} {construct : Nat → Bool → Except E Tx} {fits : Nat → Bool → Prop}
    {always : Prop}
    (h : ∀ fee isFeeEstimation, (∃ tx, construct fee isFeeEstimation = .ok tx) ↔
      fits fee isFeeEstimation ∧ always) (fee : FeeTarget Rate) :
    (∃ tx charged, targetFeeOf rates size invalidFeeRate construct fee = .ok (tx, charged)) ↔
      TargetFits rates size construct fits fee ∧ always := by
  cases fee with
  | absolute fee =>
    rw [TargetFits, ← h]
    constructor
    · rintro ⟨tx, charged, hok⟩
      obtain ⟨tx', htx, -⟩ := bind_eq_ok.mp hok
      exact ⟨tx', htx⟩
    · rintro ⟨tx, htx⟩
      exact ⟨tx, fee, bind_eq_ok.mpr ⟨tx, htx, rfl⟩⟩
  | relative rate =>
    constructor
    · rintro ⟨tx, charged, hok⟩
      simp only [targetFeeOf] at hok
      split at hok
      · rename_i hvalid
        obtain ⟨estimated, hestimated, hok⟩ := bind_eq_ok.mp hok
        obtain ⟨tx', htx, -⟩ := bind_eq_ok.mp hok
        obtain ⟨hstub, halways⟩ := (h 1 true).mp ⟨estimated, hestimated⟩
        refine ⟨⟨hvalid, hstub, fun other hother => ?_⟩, halways⟩
        cases hestimated.symm.trans hother
        exact ((h _ _).mp ⟨tx', htx⟩).1
      · cases hok
    · rintro ⟨⟨hvalid, hstub, hfits⟩, halways⟩
      obtain ⟨estimated, hestimated⟩ := (h 1 true).mpr ⟨hstub, halways⟩
      obtain ⟨tx, htx⟩ := (h _ _).mpr ⟨hfits estimated hestimated, halways⟩
      refine ⟨tx, rates.fee rate (size estimated), ?_⟩
      rw [targetFeeOf, if_pos hvalid]
      exact bind_eq_ok.mpr ⟨estimated, hestimated, bind_eq_ok.mpr ⟨tx, htx, rfl⟩⟩

/-! ## Bitcoin -/

namespace Bitcoin.Checked

variable {Keys Rate : Type} {v : Validation TxOut} {keys : PublicKeys Keys}
variable {library : Library Keys Rate} {inputs : List (InputDetail Keys TxOut)}
variable {destination : Destination Address} {overflowChecks : Bool}

/-- The builders of the scripts. -/
def BuiltScripts (p : SwapParams) (scripts : SwapScripts) : Prop := scripts = Bitcoin.scripts p

theorem isLayout_of_built (p : SwapParams) (scripts : SwapScripts) (h : BuiltScripts p scripts) :
    p.IsLayout tapscriptVersion scripts := by
  rw [h]
  exact isLayout_scripts p

theorem signedWith_of_constructRaw {fee : Nat} {tx : Transaction TxOut}
    (h : constructRaw v.sha256 library overflowChecks inputs destination fee = .ok tx) :
    SignedWith v.sha256 library.signing inputs tx :=
  (assemble_ok (constructRaw_ok h).2).2

/-- Amounts and lock times are all that can be refused. -/
theorem constructRaw_isOk_iff (hsound : library.signing.Sound v keys tapscriptVersion)
    (hspends : SpendSwaps v keys BuiltScripts inputs) (fee : Nat) :
    (∃ tx, constructRaw v.sha256 library overflowChecks inputs destination fee = .ok tx) ↔
      verdict overflowChecks inputs destination fee = .accepts ∧ Heights inputs := by
  constructor
  · rintro ⟨tx, htx⟩
    exact ⟨(constructRaw_ok htx).1, lockTime_isOk_iff.mp
      ⟨_, (signedWith_of_constructRaw htx).lockTime⟩⟩
  · rintro ⟨hverdict, hheights⟩
    obtain ⟨time, htime⟩ := lockTime_isOk_iff.mpr hheights
    rw [constructRaw_eq, pay_eq, hverdict]
    obtain ⟨signed, hsigned⟩ := signInputs_total hsound isLayout_of_built hspends time
      ((requestedOutputs (remaining inputs destination fee) destination).insertionSort outputLe)
    have hassemble : assemble v.sha256 library inputs ((requestedOutputs (remaining inputs
        destination fee) destination).insertionSort outputLe) = .ok
          { lockTime := time, input := signed, output := (requestedOutputs (remaining inputs
              destination fee) destination).insertionSort outputLe } :=
      bind_eq_ok.mpr ⟨time, htime, bind_eq_ok.mpr ⟨signed, hsigned, rfl⟩⟩
    exact ⟨_, congrArg liftTx hassemble⟩

/-- The inputs are worth the outputs and the fee, and no sum of amounts overflows. -/
def Fits (sha256 : Bytes → FixedBytes 32) (library : Library Keys Rate) (overflowChecks : Bool)
    (inputs : List (InputDetail Keys TxOut)) (destination : Destination Address)
    (fee : FeeTarget Rate) : Prop :=
  TargetFits library.rates (fun tx : Transaction TxOut => library.vsize tx + tx.input.length)
    (fun fee _ => constructRaw sha256 library overflowChecks (sortInputs (·.outpoint) inputs)
      destination fee)
    (fun fee _ => verdict overflowChecks inputs destination fee = .accepts) fee

theorem constructTx_eq (fee : FeeTarget Rate) :
    constructTx v.sha256 library overflowChecks inputs destination fee =
      targetFeeOf library.rates (fun tx => library.vsize tx + tx.input.length)
        (.error .invalidFeeRate) (fun fee _ => constructRaw v.sha256 library overflowChecks
          (sortInputs (·.outpoint) inputs) destination fee) fee := rfl

theorem heights_sort : Heights (sortInputs (·.outpoint) inputs) ↔ Heights inputs := by
  have hperm : (refundLockTimes (sortInputs (·.outpoint) inputs)).Perm (refundLockTimes inputs) :=
    (List.perm_insertionSort _ inputs).filterMap _
  exact forall_congr' fun lockTime => by rw [hperm.mem_iff]

theorem spendSwaps_sort {built : SwapParams → SwapScripts → Prop}
    (h : SpendSwaps v keys built inputs) :
    SpendSwaps v keys built (sortInputs (·.outpoint) inputs) :=
  fun input hinput => h input ((List.perm_insertionSort _ inputs).mem_iff.mp hinput)

theorem constructTx_isOk_iff (hsound : library.signing.Sound v keys tapscriptVersion)
    (hspends : SpendSwaps v keys BuiltScripts inputs) (fee : FeeTarget Rate) :
    (∃ tx charged, constructTx v.sha256 library overflowChecks inputs destination fee =
        .ok (tx, charged)) ↔
      Fits v.sha256 library overflowChecks inputs destination fee ∧ Heights inputs := by
  have hverdict : ∀ fee, verdict overflowChecks (sortInputs (·.outpoint) inputs) destination fee =
      verdict overflowChecks inputs destination fee := by
    intro fee
    simp only [verdict, totalInputs_sort]
  rw [constructTx_eq]
  refine targetFeeOf_isOk_iff (fun fee _ => ?_) fee
  rw [constructRaw_isOk_iff hsound (spendSwaps_sort hspends), hverdict, heights_sort]

theorem allValid_of_constructTx (hsound : library.signing.Sound v keys tapscriptVersion)
    (hspends : SpendSwaps v keys BuiltScripts inputs) {fee : FeeTarget Rate} {tx : Transaction TxOut}
    {charged : Nat}
    (h : constructTx v.sha256 library overflowChecks inputs destination fee = .ok (tx, charged)) :
    AllValid v inputs tx := by
  rw [constructTx_eq] at h
  exact allValid_of_signedWith hsound isLayout_of_built hspends (List.perm_insertionSort _ inputs)
    (signedWith_of_constructRaw (targetFeeOf_ok h).1)

end Bitcoin.Checked

/-! ## Elements -/

namespace Elements

variable {Keys Rate TxOut Address Secrets AssetId : Type} {v : Validation TxOut}
variable {keys : PublicKeys Keys} {library : Library Keys Rate TxOut Address Secrets AssetId}
variable {inputs : List (InputDetail Keys TxOut)} {destination : Destination Address}
variable {unblinded : List (UnblindedOutput Secrets AssetId)} {assetId : AssetId}

/-- The builders of the scripts, also with a covenant. -/
def BuiltScripts (sha256 : Bytes → FixedBytes 32) (p : SwapParams) (scripts : SwapScripts) : Prop :=
  ∃ claimCovenantParams, scripts = Elements.scripts sha256 p claimCovenantParams

theorem isLayout_of_built {sha256 : Bytes → FixedBytes 32} (p : SwapParams) (scripts : SwapScripts)
    (h : BuiltScripts sha256 p scripts) : p.IsLayout tapscriptVersion scripts := by
  obtain ⟨claimCovenantParams, rfl⟩ := h
  exact isLayout_scripts sha256 p claimCovenantParams

theorem signedWith_of_constructRaw {fee : Nat} {isFeeEstimation : Bool} {tx : Transaction TxOut}
    (h : constructRaw v.sha256 library inputs unblinded assetId destination fee isFeeEstimation =
      .ok tx) :
    SignedWith v.sha256 library.signing (inputs.map (·.toInputDetail)) tx ∧
      library.blindOutputs unblinded assetId destination fee isFeeEstimation = .ok tx.output := by
  obtain ⟨time, htime, h⟩ := bind_eq_ok.mp h
  obtain ⟨output, houtput, h⟩ := bind_eq_ok.mp h
  obtain ⟨signed, hsigned, h⟩ := bind_eq_ok.mp h
  cases h
  exact ⟨signedWith_of_signInputs htime hsigned, houtput⟩

theorem constructRaw_isOk_iff (hsound : library.signing.Sound v keys tapscriptVersion)
    {built : SwapParams → SwapScripts → Prop}
    (hbuilt : ∀ p scripts, built p scripts → p.IsLayout tapscriptVersion scripts)
    (hspends : SpendSwaps v keys built (inputs.map (·.toInputDetail))) (fee : Nat)
    (isFeeEstimation : Bool) :
    (∃ tx, constructRaw v.sha256 library inputs unblinded assetId destination fee isFeeEstimation =
        .ok tx) ↔
      (∃ output, library.blindOutputs unblinded assetId destination fee isFeeEstimation =
        .ok output) ∧ Heights (inputs.map (·.toInputDetail)) := by
  constructor
  · rintro ⟨tx, htx⟩
    obtain ⟨hsigned, houtput⟩ := signedWith_of_constructRaw htx
    exact ⟨⟨_, houtput⟩, lockTime_isOk_iff.mp ⟨_, hsigned.lockTime⟩⟩
  · rintro ⟨⟨output, houtput⟩, hheights⟩
    obtain ⟨time, htime⟩ := lockTime_isOk_iff.mpr hheights
    obtain ⟨signed, hsigned⟩ := signInputs_total hsound hbuilt hspends time output
    exact ⟨{ lockTime := time, input := signed, output }, bind_eq_ok.mpr ⟨time, htime,
      bind_eq_ok.mpr ⟨output, houtput, bind_eq_ok.mpr ⟨signed, hsigned, rfl⟩⟩⟩⟩

/-- The inputs can be unblinded and share an asset, and the outputs can be made of them. -/
def Fits (sha256 : Bytes → FixedBytes 32)
    (library : Library Keys Rate TxOut Address Secrets AssetId)
    (inputs : List (InputDetail Keys TxOut)) (destination : Destination Address)
    (fee : FeeTarget Rate) : Prop :=
  let inputs := sortInputs (·.outpoint) inputs
  ∃ first rest, unblindOutputs library 0 inputs = .ok (first :: rest) ∧
    (∀ other ∈ rest, other.asset = first.asset) ∧
    TargetFits library.rates (fun tx : Transaction TxOut => library.vsize tx + tx.input.length)
      (fun fee isFeeEstimation => constructRaw sha256 library inputs (first :: rest) first.asset
        destination fee isFeeEstimation)
      (fun fee isFeeEstimation => ∃ output, library.blindOutputs (first :: rest) first.asset
        destination fee isFeeEstimation = .ok output) fee

theorem perm_sort :
    ((sortInputs (·.outpoint) inputs).map (·.toInputDetail)).Perm (inputs.map (·.toInputDetail)) :=
  (List.perm_insertionSort _ inputs).map _

variable [DecidableEq AssetId]

/-- The builder with the first asset. -/
theorem constructTx_eq_ok {fee : FeeTarget Rate} {built : Transaction TxOut × Nat} :
    constructTx v.sha256 library inputs destination fee = .ok built ↔
      ∃ first rest, unblindOutputs library 0 (sortInputs (·.outpoint) inputs) =
          .ok (first :: rest) ∧ (∀ other ∈ rest, other.asset = first.asset) ∧
        targetFeeOf library.rates (fun tx => library.vsize tx + tx.input.length) .invalidFeeRate
          (fun fee isFeeEstimation => constructRaw v.sha256 library
            (sortInputs (·.outpoint) inputs) (first :: rest) first.asset destination fee
            isFeeEstimation) fee = .ok built := by
  have hassets : ∀ (first : UnblindedOutput Secrets AssetId) rest,
      ((first :: rest).all fun input => input.asset = first.asset) = true ↔
        ∀ other ∈ rest, other.asset = first.asset := by
    intro first rest
    simp [List.all_eq_true]
  simp only [constructTx, targetFee_eq]
  constructor
  · intro h
    obtain ⟨unblinded, hunblinded, h⟩ := bind_eq_ok.mp h
    cases unblinded with
    | nil => cases h
    | cons first rest =>
      simp only at h
      split at h
      · rename_i hall
        exact ⟨first, rest, hunblinded, (hassets first rest).mp hall, h⟩
      · cases h
  · rintro ⟨first, rest, hunblinded, hall, h⟩
    refine bind_eq_ok.mpr ⟨_, hunblinded, ?_⟩
    simp only
    rw [if_pos ((hassets first rest).mpr hall)]
    exact h

theorem constructTx_isOk_iff (hsound : library.signing.Sound v keys tapscriptVersion)
    (hspends : SpendSwaps v keys (BuiltScripts v.sha256) (inputs.map (·.toInputDetail)))
    (fee : FeeTarget Rate) :
    (∃ tx charged, constructTx v.sha256 library inputs destination fee = .ok (tx, charged)) ↔
      Fits v.sha256 library inputs destination fee ∧ Heights (inputs.map (·.toInputDetail)) := by
  have hspends' : SpendSwaps v keys (BuiltScripts v.sha256)
      ((sortInputs (·.outpoint) inputs).map (·.toInputDetail)) :=
    fun input hinput => hspends input (perm_sort.mem_iff.mp hinput)
  have htimes : (refundLockTimes ((sortInputs (·.outpoint) inputs).map (·.toInputDetail))).Perm
      (refundLockTimes (inputs.map (·.toInputDetail))) := perm_sort.filterMap _
  have hheights : Heights ((sortInputs (·.outpoint) inputs).map (·.toInputDetail)) ↔
      Heights (inputs.map (·.toInputDetail)) :=
    forall_congr' fun lockTime => by rw [htimes.mem_iff]
  have htarget : ∀ (first : UnblindedOutput Secrets AssetId) rest,
      (∃ tx charged, targetFeeOf library.rates
          (fun tx : Transaction TxOut => library.vsize tx + tx.input.length) TxError.invalidFeeRate
          (fun fee isFeeEstimation => constructRaw v.sha256 library
            (sortInputs (·.outpoint) inputs) (first :: rest) first.asset destination fee
            isFeeEstimation) fee = .ok (tx, charged)) ↔ _ :=
    fun first rest => targetFeeOf_isOk_iff
      (constructRaw_isOk_iff hsound isLayout_of_built hspends') fee
  simp only [constructTx_eq_ok, Fits]
  constructor
  · rintro ⟨tx, charged, first, rest, hunblinded, hassets, h⟩
    obtain ⟨hfits, htime⟩ := (htarget first rest).mp ⟨tx, charged, h⟩
    exact ⟨⟨first, rest, hunblinded, hassets, hfits⟩, hheights.mp htime⟩
  · rintro ⟨⟨first, rest, hunblinded, hassets, hfits⟩, htime⟩
    obtain ⟨tx, charged, h⟩ := (htarget first rest).mpr ⟨hfits, hheights.mpr htime⟩
    exact ⟨tx, charged, first, rest, hunblinded, hassets, h⟩

theorem allValid_of_constructTx (hsound : library.signing.Sound v keys tapscriptVersion)
    (hspends : SpendSwaps v keys (BuiltScripts v.sha256) (inputs.map (·.toInputDetail)))
    {fee : FeeTarget Rate} {tx : Transaction TxOut} {charged : Nat}
    (h : constructTx v.sha256 library inputs destination fee = .ok (tx, charged)) :
    AllValid v (inputs.map (·.toInputDetail)) tx := by
  obtain ⟨first, rest, -, -, h⟩ := constructTx_eq_ok.mp h
  exact allValid_of_signedWith hsound isLayout_of_built hspends perm_sort
    (signedWith_of_constructRaw (targetFeeOf_ok h).1).1

end Elements

/-! ### Outputs that can be made -/

namespace Elements

variable {Keys Rate F AssetId Key : Type} [Zero F] {primitives : Primitives Keys Rate F AssetId Key}
variable {destination : Destination (Address Key)}

/-- When no proof fails, only the comparison with the inputs can. -/
theorem blindOutputs_isOk_iff (hproves : ∀ e, ¬primitives.blinding.Fails e)
    {unblinded : List (UnblindedOutput (Factors F) AssetId)} {assetId : AssetId}
    {isFeeEstimation : Bool} {fee : Nat} :
    (∃ outputs, blindOutputs primitives.blinding unblinded assetId isFeeEstimation destination fee =
        .ok outputs) ↔ accepts unblinded destination fee = true := by
  constructor
  · rintro ⟨outputs, houtputs⟩
    obtain ⟨_, _, hintents, -, -⟩ := blindOutputs_ok houtputs
    exact (intents_ok hintents).1
  · intro haccepts
    cases houtputs : blindOutputs primitives.blinding unblinded assetId isFeeEstimation destination
        fee with
    | ok outputs => exact ⟨outputs, rfl⟩
    | error e =>
      rcases blindOutputs_error houtputs with ⟨hrejects, -⟩ | hfails
      · rw [haccepts] at hrejects
        cases hrejects
      · exact absurd hfails (hproves e)

/-- The inputs are worth the outputs, the fee and the dummy output. -/
theorem fits_primitives_iff (hproves : ∀ e, ¬primitives.blinding.Fails e)
    {sha256 : Bytes → FixedBytes 32} {inputs : List (InputDetail Keys (TxOut F AssetId Key))}
    {fee : FeeTarget Rate} :
    Fits sha256 primitives.library inputs destination fee ↔
      ∃ first rest, unblindOutputs primitives.library 0 (sortInputs (·.outpoint) inputs) =
          .ok (first :: rest) ∧ (∀ other ∈ rest, other.asset = first.asset) ∧
        TargetFits primitives.rates (fun tx => primitives.vsize tx + tx.input.length)
          (fun fee isFeeEstimation => constructRaw sha256 primitives.library
            (sortInputs (·.outpoint) inputs) (first :: rest) first.asset destination fee
            isFeeEstimation)
          (fun fee _ => accepts (first :: rest) destination fee = true) fee := by
  have hfits : ∀ unblinded : List (UnblindedOutput (Factors F) AssetId), ∀ assetId,
      (fun fee isFeeEstimation => ∃ output, primitives.library.blindOutputs unblinded assetId
        destination fee isFeeEstimation = .ok output) =
        fun fee _ => accepts unblinded destination fee = true := by
    intro unblinded assetId
    funext fee isFeeEstimation
    exact propext (blindOutputs_isOk_iff hproves)
  simp only [Fits, hfits]
  exact Iff.rfl

end Elements

/-! ## Both chains -/

/-- A transaction is returned exactly when the amounts and the lock times are in order, and its
inputs are valid. -/
theorem constructTx_satisfies_scripts {Keys Rate TxOut Address Secrets AssetId : Type}
    [DecidableEq AssetId] (keys : PublicKeys Keys) (fee : FeeTarget Rate) (overflowChecks : Bool)
    (v : Validation Bitcoin.TxOut) (library : Bitcoin.Library Keys Rate)
    (inputs : List (InputDetail Keys Bitcoin.TxOut)) (destination : Destination Bitcoin.Address)
    (hsound : library.signing.Sound v keys Bitcoin.tapscriptVersion)
    (hspends : SpendSwaps v keys Bitcoin.Checked.BuiltScripts inputs)
    (w : Validation TxOut) (elements : Elements.Library Keys Rate TxOut Address Secrets AssetId)
    (elementsInputs : List (Elements.InputDetail Keys TxOut))
    (elementsDestination : Destination Address)
    (helementsSound : elements.signing.Sound w keys Elements.tapscriptVersion)
    (helementsSpends : SpendSwaps w keys (Elements.BuiltScripts w.sha256)
      (elementsInputs.map (·.toInputDetail))) :
    ((∃ tx charged, Bitcoin.Checked.constructTx v.sha256 library overflowChecks inputs destination
          fee = .ok (tx, charged)) ↔
        Bitcoin.Checked.Fits v.sha256 library overflowChecks inputs destination fee ∧
          Heights inputs) ∧
      (∀ tx charged, Bitcoin.Checked.constructTx v.sha256 library overflowChecks inputs destination
        fee = .ok (tx, charged) → AllValid v inputs tx) ∧
      ((∃ tx charged, Elements.constructTx w.sha256 elements elementsInputs elementsDestination fee =
          .ok (tx, charged)) ↔
        Elements.Fits w.sha256 elements elementsInputs elementsDestination fee ∧
          Heights (elementsInputs.map (·.toInputDetail))) ∧
      ∀ tx charged, Elements.constructTx w.sha256 elements elementsInputs elementsDestination fee =
        .ok (tx, charged) → AllValid w (elementsInputs.map (·.toInputDetail)) tx :=
  ⟨Bitcoin.Checked.constructTx_isOk_iff hsound hspends fee,
    fun _ _ => Bitcoin.Checked.allValid_of_constructTx hsound hspends,
    Elements.constructTx_isOk_iff helementsSound helementsSpends fee,
    fun _ _ => Elements.allValid_of_constructTx helementsSound helementsSpends⟩

/-! ## Signatures of an index and a key -/

/-- Hashes are the first bytes. -/
def firstBytes (n : ℕ) (bytes : Bytes) : FixedBytes n :=
  ⟨(bytes ++ List.replicate n 0).take n, by simp⟩

def validationOf {TxOut : Type} (scriptPubkey : TxOut → Bytes) : Validation TxOut where
  hash160 := firstBytes 20
  sha256 := firstBytes 32
  legacy _ i _ signature key := signature = UInt8.ofNat i :: key
  segwit _ i _ _ signature key := signature = UInt8.ofNat i :: key
  taproot _ i _ _ signature key := signature = UInt8.ofNat i :: key ++ List.replicate 31 0
  leafVersion _ _ controlBlock := controlBlock.head?
  scriptPubkey := scriptPubkey
  minimalIf := true
  nullFail := true
  other _ _ := none

def exampleValidation : Validation Bitcoin.TxOut := validationOf Bitcoin.TxOut.scriptPubkey

def exampleKeys : PublicKeys UInt8 where
  publicKey := repeated 33
  xOnlyPublicKey := repeated 32
  outputKey _ := repeated 32 9

def exampleSignature (i : Nat) (key : UInt8) : EcdsaSignature :=
  ⟨UInt8.ofNat i :: (repeated 33 key).1, by simp [repeated]⟩

def exampleSigning {TxOut : Type} : Signing UInt8 TxOut where
  legacySignature _ i _ key := .ok (exampleSignature i key)
  segwitSignature _ i _ _ key := .ok (exampleSignature i key)
  taprootSignature _ i _ _ key :=
    .ok ⟨UInt8.ofNat i :: (repeated 32 key).1 ++ List.replicate 31 0, by simp [repeated]⟩
  controlBlock _ leaf _ := .ok [leaf.version]

theorem exampleSigning_sound {TxOut : Type} (scriptPubkey : TxOut → Bytes) (version : UInt8) :
    exampleSigning.Sound (validationOf scriptPubkey) exampleKeys version where
  legacy _ _ _ _ _ := ⟨_, rfl, decide_eq_true rfl⟩
  segwit _ _ _ _ _ _ := ⟨_, rfl, decide_eq_true rfl⟩
  taproot _ _ _ _ _ _ _ _ := ⟨_, rfl, decide_eq_true rfl⟩
  controlBlock details inputType _ hversions :=
    ⟨_, rfl, congrArg some (hversions _ (leaf_mem_leaves details inputType))⟩

def exampleInput (inputType : InputType)
    (outputType : OutputType (Option UncooperativeDetails) Bytes) (vout : Nat) (key : UInt8) :
    InputDetail UInt8 Bitcoin.TxOut where
  inputType := inputType
  outputType := outputType
  outpoint := { hash := [], vout }
  txOut :=
    { value := 50000, scriptPubkey := outputType.scriptPubkey exampleValidation exampleKeys }
  keys := key

def exampleRates : FeeRates Nat where
  valid _ := true
  fee rate size := rate * size

def exampleLibrary : Bitcoin.Library UInt8 Nat where
  signing := exampleSigning
  rates := exampleRates
  vsize _ := 150

theorem exampleSigning_honest {TxOut : Type} :
    (exampleSigning : Signing UInt8 TxOut).Honest where
  legacy _ _ _ _ _ h := nomatch h
  segwit _ _ _ _ _ _ h := nomatch h
  taproot _ _ _ _ _ _ h := nomatch h
  controlBlock _ _ _ _ h := nomatch h

/-- With one asset, and commitments that nobody can open. -/
def exampleElements : Elements.Primitives UInt8 Nat ℕ Unit Unit where
  signing := exampleSigning
  honest := exampleSigning_honest
  rates := exampleRates
  vsize _ := 150
  unblind _ _ := none
  blinding :=
    { dummyKey := ()
      assetFactor := 0
      valueFactor := fun _ => 0
      last := fun _ _ _ _ => 0
      prove := fun _ _ _ => .ok ()
      honest := fun _ _ _ _ h => nomatch h }

theorem exampleElements_proves (e : TxError) : ¬exampleElements.blinding.Fails e := by
  rintro ⟨i, unblinded, output, h⟩
  have hok : (Except.ok () : Except TxError Unit) = .error e := h
  cases hok

def exampleDetails (tree : Tree) : UncooperativeDetails where
  tree := tree
  internalKey := repeated 32 8

/-- A refund from a tree, and a claim that is sorted in front of it. -/
def exampleInputs (scripts : SwapScripts) : List (InputDetail UInt8 Bitcoin.TxOut) :=
  [exampleInput (.refund 120) (.taproot (some (exampleDetails scripts.swapTree))) 1 5,
    exampleInput (.claim (repeated 32 7)) (.legacy scripts.reverseScript) 0 2]

theorem exampleInputs_spend {built : SwapParams → SwapScripts → Prop} {scripts : SwapScripts}
    (hbuilt : built exampleSwap scripts) :
    SpendSwaps exampleValidation exampleKeys built (exampleInputs scripts) := by
  intro input hinput
  simp only [exampleInputs, List.mem_cons, List.not_mem_nil, or_false] at hinput
  rcases hinput with rfl | rfl
  · refine ⟨exampleSwap, scripts, hbuilt, ⟨.inl rfl, rfl, ?_, ?_⟩, ?_⟩
    · rintro preimage ⟨⟩
    · rintro lockTime ⟨⟩
      exact ⟨rfl, by decide⟩
    · rintro lockTime ⟨⟩
      show 1 ≤ exampleSwap.lockTime
      decide
  · refine ⟨exampleSwap, scripts, hbuilt, ⟨.inr rfl, rfl, ?_, ?_⟩, ?_⟩
    · rintro preimage ⟨⟩
      exact ⟨rfl, Subtype.ext (by decide)⟩
    · rintro lockTime ⟨⟩
    · rintro lockTime ⟨⟩

def elementsValidation : Validation (Elements.TxOut ℕ Unit Unit) :=
  validationOf Elements.TxOut.scriptPubkey

/-- The same input with an explicit output. -/
def explicitInput (input : InputDetail UInt8 Bitcoin.TxOut) :
    Elements.InputDetail UInt8 (Elements.TxOut ℕ Unit Unit) where
  inputType := input.inputType
  outputType := input.outputType
  outpoint := input.outpoint
  txOut :=
    { asset := .explicit ()
      value := .explicit input.txOut.value
      scriptPubkey := input.txOut.scriptPubkey
      nonce := none }
  keys := input.keys
  blindingKey := none

theorem explicitInputs_spend {built : SwapParams → SwapScripts → Prop}
    {inputs : List (InputDetail UInt8 Bitcoin.TxOut)}
    (h : SpendSwaps exampleValidation exampleKeys built inputs) :
    SpendSwaps elementsValidation exampleKeys built
      ((inputs.map explicitInput).map (·.toInputDetail)) := by
  intro input hinput
  obtain ⟨_, hexplicit, rfl⟩ := List.mem_map.mp hinput
  obtain ⟨original, horiginal, rfl⟩ := List.mem_map.mp hexplicit
  obtain ⟨p, scripts, hscripts, hspend, htakes⟩ := h original horiginal
  exact ⟨p, scripts, hscripts, ⟨hspend.uses, hspend.pays, hspend.claim, hspend.refund⟩, htakes⟩

def exampleElementsInputs : List (Elements.InputDetail UInt8 (Elements.TxOut ℕ Unit Unit)) :=
  (exampleInputs (Elements.scripts (firstBytes 32) exampleSwap none)).map explicitInput

theorem constructTx_satisfies_scripts_example :
    (∃ tx charged, Bitcoin.Checked.constructTx exampleValidation.sha256 exampleLibrary true
        (exampleInputs (Bitcoin.scripts exampleSwap)) (.single ⟨[0x51]⟩) (.absolute 1000) =
          .ok (tx, charged) ∧
        AllValid exampleValidation (exampleInputs (Bitcoin.scripts exampleSwap)) tx) ∧
      ∃ tx charged, Elements.constructTx elementsValidation.sha256 exampleElements.library
        exampleElementsInputs (.single ⟨[0x51], none⟩) (.absolute 1000) = .ok (tx, charged) ∧
        AllValid elementsValidation (exampleElementsInputs.map (·.toInputDetail)) tx := by
  obtain ⟨hbitcoin, hvalid, helements, hvalid'⟩ := constructTx_satisfies_scripts exampleKeys
    (.absolute 1000) true exampleValidation exampleLibrary
    (exampleInputs (Bitcoin.scripts exampleSwap)) (.single ⟨[0x51]⟩) (exampleSigning_sound _ _)
    (exampleInputs_spend rfl) elementsValidation exampleElements.library exampleElementsInputs
    (.single ⟨[0x51], none⟩) (exampleSigning_sound _ _)
    (explicitInputs_spend (exampleInputs_spend ⟨none, rfl⟩))
  obtain ⟨tx, charged, htx⟩ := hbitcoin.mpr
    ⟨(by decide : Bitcoin.Checked.verdict true (exampleInputs (Bitcoin.scripts exampleSwap))
      (.single ⟨[0x51]⟩) 1000 = .accepts), by decide⟩
  have hfits : Elements.Fits elementsValidation.sha256 exampleElements.library
      exampleElementsInputs (.single ⟨[0x51], none⟩) (.absolute 1000) :=
    (Elements.fits_primitives_iff exampleElements_proves).mpr
      ⟨_, _, rfl, by decide, (by decide : Elements.accepts _ _ 1000 = true)⟩
  obtain ⟨tx', charged', htx'⟩ := helements.mpr ⟨hfits, by decide⟩
  exact ⟨⟨tx, charged, htx, hvalid tx charged htx⟩, tx', charged', htx', hvalid' tx' charged' htx'⟩

/-! ## What the builders do not make valid -/

theorem not_allValid_singleton {input : InputDetail UInt8 Bitcoin.TxOut} {fee : FeeTarget Nat}
    {destination : Destination Bitcoin.Address}
    (h : (match Bitcoin.Checked.constructTx exampleValidation.sha256 exampleLibrary true [input]
        destination fee with
      | .ok (tx, _) =>
        decide (0 < tx.input.length) && !exampleValidation.validInput tx [input.txOut] 0
      | .error _ => false) = true) :
    ∀ tx charged, Bitcoin.Checked.constructTx exampleValidation.sha256 exampleLibrary true [input]
      destination fee = .ok (tx, charged) → ¬AllValid exampleValidation [input] tx := by
  rintro tx charged htx ⟨sorted, hperm, -, hvalid⟩
  rw [htx] at h
  obtain rfl := List.perm_singleton.mp hperm
  simp only [Bool.and_eq_true, decide_eq_true_iff, Bool.not_eq_true'] at h
  have hinput := hvalid 0 h.1
  rw [List.map_singleton, h.2] at hinput
  cases hinput

/-- Its lock time is no height. -/
def lateSwap : SwapParams := { exampleSwap with lockTime := 500000000 }

def zeroSwap : SwapParams := { exampleSwap with lockTime := 0 }

/-- The dummy is a preimage. -/
def dummySwap : SwapParams := { exampleSwap with preimageHash := repeated 20 0 }

def lateRefund : InputDetail UInt8 Bitcoin.TxOut :=
  exampleInput (.refund 500000000) (.segwitV0 (Bitcoin.scripts lateSwap).swapScript) 0 3

def zeroRefund : InputDetail UInt8 Bitcoin.TxOut :=
  exampleInput (.refund 0) (.taproot (some (exampleDetails (Bitcoin.scripts zeroSwap).swapTree))) 0 5

def dummyRefund : InputDetail UInt8 Bitcoin.TxOut :=
  exampleInput (.refund 120) (.segwitV0 (Bitcoin.scripts dummySwap).swapScript) 0 3

theorem spendsSwap_refund {p : SwapParams} {scripts : SwapScripts}
    {outputType : OutputType (Option UncooperativeDetails) Bytes} {time vout : Nat} {key : UInt8}
    (huses : outputType.Uses scripts)
    (hkey : outputType.HasKey exampleKeys key p.refundPubkey p.refundKey)
    (htime : p.lockTime.toNat ≤ time) :
    SpendsSwap exampleValidation exampleKeys p scripts
      (exampleInput (.refund time) outputType vout key) where
  uses := huses
  pays := rfl
  claim := by rintro preimage ⟨⟩
  refund := by
    rintro lockTime ⟨⟩
    exact ⟨hkey, htime⟩

theorem refunds_not_valid :
    (SpendsSwap exampleValidation exampleKeys lateSwap (Bitcoin.scripts lateSwap) lateRefund ∧
      Bitcoin.Checked.constructTx exampleValidation.sha256 exampleLibrary true [lateRefund]
        (.single ⟨[0x51]⟩) (.absolute 1000) = .error (.error .lockTime)) ∧
    (SpendsSwap exampleValidation exampleKeys lateSwap (Bitcoin.scripts lateSwap) lateRefund ∧
      Bitcoin.Checked.constructTx exampleValidation.sha256 exampleLibrary true [lateRefund]
        (.single ⟨[0x51]⟩) (.absolute 60000) = .error (.error .feeExceedsInputs)) ∧
    (SpendsSwap exampleValidation exampleKeys zeroSwap (Bitcoin.scripts zeroSwap) zeroRefund ∧
      ∀ tx charged, Bitcoin.Checked.constructTx exampleValidation.sha256 exampleLibrary true
        [zeroRefund] (.single ⟨[0x51]⟩) (.absolute 1000) = .ok (tx, charged) →
          ¬AllValid exampleValidation [zeroRefund] tx) ∧
    (SpendsSwap exampleValidation exampleKeys dummySwap (Bitcoin.scripts dummySwap) dummyRefund ∧
      ∀ tx charged, Bitcoin.Checked.constructTx exampleValidation.sha256 exampleLibrary true
        [dummyRefund] (.single ⟨[0x51]⟩) (.absolute 1000) = .ok (tx, charged) →
          ¬AllValid exampleValidation [dummyRefund] tx) := by
  have hlate : SpendsSwap exampleValidation exampleKeys lateSwap (Bitcoin.scripts lateSwap)
      lateRefund := spendsSwap_refund (.inl rfl) rfl (by decide)
  refine ⟨⟨hlate, ?_⟩, ⟨hlate, ?_⟩, ⟨spendsSwap_refund (.inl rfl) rfl (by decide), ?_⟩,
    spendsSwap_refund (.inl rfl) rfl (by decide), ?_⟩
  · decide +kernel
  · decide +kernel
  · exact not_allValid_singleton (by decide +kernel)
  · exact not_allValid_singleton (by decide +kernel)

end Boltz.Core

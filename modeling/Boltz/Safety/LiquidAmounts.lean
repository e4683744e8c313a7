import Boltz.Core.Sorting
import Boltz.Safety.BlindingBalance

/-!
# Amounts of Liquid transactions

A transaction has to pay the outputs that were asked for, the fee and the dummy output from its
inputs. The builder takes the dummy output off the inputs and adds it again to the outputs when it
compares them, and its sums wrap around `2 ^ 64`. The comparison is right on the remainders exactly
when it is right on the sums.
-/

namespace Boltz.Core.Elements

section

variable {F AssetId Key : Type}

/-! ## What is asked for -/

def totalInputs (unblinded : List (UnblindedOutput (Factors F) AssetId)) : Nat :=
  (unblinded.map (·.amount)).sum

/-- The outputs with an amount. -/
def requested : Destination (Address Key) → List (Address Key × Nat)
  | .single _ => []
  | .multiple destination => destination.outputs

variable (unblinded : List (UnblindedOutput (Factors F) AssetId))
variable (destination : Destination (Address Key))

/-- The dummy output, if there has to be one. -/
def dummy : Nat := dummyAmount (needsDummyOutput unblinded destination)

/-- The outputs, the fee and the dummy output. -/
def required (fee : Nat) : Nat :=
  ((requested destination).map (·.2)).sum + fee + dummy unblinded destination

def Exceeds (fee : Nat) : Prop := totalInputs unblinded < required unblinded destination fee

instance (fee : Nat) : Decidable (Exceeds unblinded destination fee) :=
  inferInstanceAs (Decidable (_ < _))

/-- The order of outputs by amount and script. -/
def outputLe (a b : Nat × Bytes) : Prop :=
  ((compare a.1 b.1).then (compare a.2 b.2)).isLE = true

def TxOut.paysTo (output : TxOut F AssetId Key) : Nat × Bytes :=
  (output.amount, output.scriptPubkey)

def Intent.paysTo (intent : Intent Key) : Nat × Bytes := (intent.amount, intent.scriptPubkey)

/-- A transaction that pays what was asked for, and the rest of the inputs. -/
structure Paid (dummyKey : Key) (assetId : AssetId) (tx : Transaction (TxOut F AssetId Key))
    (fee : Nat) : Prop where
  affordable : ¬ Exceeds unblinded destination fee
  sum : (tx.output.map (·.amount)).sum = totalInputs unblinded
  outputs : ∃ body rest, tx.output = body ++ [.newFee fee assetId] ∧
    (body.map (·.paysTo)).Perm ((dummyIntents dummyKey (needsDummyOutput unblinded destination) ++
      destinationIntents destination rest).map (·.paysTo)) ∧
    (body.map (·.paysTo)).Pairwise outputLe

/-- A request is rejected when it cannot be paid, and paid otherwise. -/
structure Conserves (dummyKey : Key) (assetId : AssetId) (fee : Nat)
    (result : Except TxError (Transaction (TxOut F AssetId Key) × Nat)) : Prop where
  rejected : ∀ e, result = .error e → e.isAmount = true → Exceeds unblinded destination fee
  paid : ∀ tx charged, result = .ok (tx, charged) →
    charged = fee ∧ Paid unblinded destination dummyKey assetId tx charged

/-- A transaction is returned, or an error about amounts. -/
def Decided {α : Type} (result : Except TxError α) : Prop :=
  ∀ e, result = .error e → e.isAmount = true

/-! ## When the comparison is right -/

/-- The inputs without the dummy output, as the builder computes them. -/
def left : Nat := (totalInputs unblinded + (u64Size - dummy unblinded destination)) % u64Size

/-- Sums that do not wrap; otherwise the remainders have to compare like the sums. -/
def Covers (fee : Nat) : Prop :=
  match destination with
  | .single _ => dummy unblinded destination ≤ totalInputs unblinded ∧
      totalInputs unblinded < u64Size + dummy unblinded destination
  | .multiple _ =>
    let total := required unblinded destination fee
    if total ≤ totalInputs unblinded then
      total % u64Size ≤ left unblinded destination ∧ totalInputs unblinded - total < u64Size
    else left unblinded destination < total % u64Size

instance (fee : Nat) : Decidable (Covers unblinded destination fee) :=
  match destination with
  | .single _ => inferInstanceAs (Decidable (_ ∧ _))
  | .multiple outputs =>
    if h : required unblinded (.multiple outputs) fee ≤ totalInputs unblinded then
      decidable_of_iff (_ % _ ≤ left _ _ ∧ _ < u64Size) (iff_of_eq (if_pos h).symm)
    else decidable_of_iff (left _ _ < _ % _) (iff_of_eq (if_neg h).symm)

/-- With a rate the fee of one with which the size is estimated has to be accepted, too. -/
def CoversTarget {Rate : Type} (rates : FeeRates Rate) (size : Nat) : FeeTarget Rate → Prop
  | .absolute fee => Covers unblinded destination fee
  | .relative rate =>
    if accepts unblinded destination 1 then Covers unblinded destination (rates.fee rate size)
    else Exceeds unblinded destination (rates.fee rate size)

/-! ## The comparison -/

variable {unblinded destination}

theorem dummy_le : dummy unblinded destination ≤ 1 := by
  unfold dummy dummyAmount
  split <;> decide

theorem inputSum_eq :
    inputSum unblinded (needsDummyOutput unblinded destination) = left unblinded destination := by
  have hsum : Word.sum u64Size (unblinded.map (·.amount)) = totalInputs unblinded % u64Size :=
    Word.sum_eq _
  simp only [inputSum, left, dummy, hsum]
  cases needsDummyOutput unblinded destination with
  | false => simp [dummyAmount]
  | true =>
    simp only [dummyAmount, dummyBlindedOutput, Word.sub, u64Size, if_true]
    omega

theorem accepts_single {address : Address Key} {fee : Nat} :
    accepts unblinded (.single address) fee = true ↔ fee ≤ left unblinded (.single address) := by
  simp only [accepts, inputSum_eq, decide_eq_true_eq]

/-- The three sums of the builder are one remainder. -/
theorem accepts_multiple {outputs : Outputs (Address Key)} {fee : Nat} :
    accepts unblinded (.multiple outputs) fee = true ↔
      required unblinded (.multiple outputs) fee % u64Size ≤ left unblinded (.multiple outputs) := by
  have hadd : Word.add u64Size (Word.add u64Size
      (Word.sum u64Size (outputs.outputs.map (·.2))) fee)
      (dummyAmount (needsDummyOutput unblinded (.multiple outputs))) =
      required unblinded (.multiple outputs) fee % u64Size := by
    rw [Word.sum_eq]
    simp only [Word.add, required, requested, dummy, u64Size]
    omega
  simp only [accepts, hadd, inputSum_eq, decide_eq_true_eq]

variable (unblinded destination) in
/-- What an accepted transaction pays is the sum of the inputs. -/
def Sums (fee : Nat) : Prop :=
  dummy unblinded destination + ((requested destination).map (·.2)).sum +
    remaining unblinded destination fee + fee = totalInputs unblinded

theorem sums_single {address : Address Key} {fee : Nat}
    (hfee : fee ≤ left unblinded (.single address)) :
    Sums unblinded (.single address) fee ↔
      dummy unblinded (.single address) + left unblinded (.single address) =
        totalInputs unblinded := by
  simp only [Sums, remaining, requested, inputSum_eq, List.map_nil, List.sum_nil]
  omega

theorem sums_multiple {outputs : Outputs (Address Key)} {fee : Nat} :
    Sums unblinded (.multiple outputs) fee ↔
      required unblinded (.multiple outputs) fee ≤ totalInputs unblinded ∧
        totalInputs unblinded - required unblinded (.multiple outputs) fee < u64Size := by
  have hdummy : dummy unblinded (.multiple outputs) ≤ 1 := dummy_le
  simp only [Sums, remaining, requested, required, inputSum_eq, Word.sum_eq, Word.sub, left]
  generalize (outputs.outputs.map (·.2)).sum = o
  unfold u64Size
  omega

theorem not_exceeds_of_sums {fee : Nat} (h : Sums unblinded destination fee) :
    ¬ Exceeds unblinded destination fee := by
  unfold Sums at h
  unfold Exceeds required
  omega

theorem covers_iff_verdict {fee : Nat} (hfee : fee < u64Size) :
    (if accepts unblinded destination fee then Sums unblinded destination fee
      else Exceeds unblinded destination fee) ↔ Covers unblinded destination fee := by
  have hdummy : dummy unblinded destination ≤ 1 := dummy_le
  cases destination with
  | single address =>
    by_cases haccepts : accepts unblinded (.single address) fee = true
    · have hle := accepts_single.mp haccepts
      rw [if_pos haccepts, sums_single hle]
      simp only [Covers, left] at hle ⊢
      unfold u64Size at hle ⊢
      omega
    · have hlt : ¬ fee ≤ left unblinded (.single address) := fun h =>
        haccepts (accepts_single.mpr h)
      rw [if_neg haccepts]
      simp only [Covers, Exceeds, required, requested, left, List.map_nil, List.sum_nil]
        at hlt ⊢
      unfold u64Size at hfee hlt ⊢
      omega
  | multiple outputs =>
    simp only [accepts_multiple, sums_multiple, Covers, Exceeds]
    split <;> split <;> omega

/-! ## What is built -/

section

variable [Zero F] {Keys Rate : Type} {primitives : Primitives Keys Rate F AssetId Key}
variable {assetId : AssetId} {isFeeEstimation : Bool}

theorem sum_dummyIntents (dummyKey : Key) (needsDummy : Bool) :
    ((dummyIntents dummyKey needsDummy).map (·.amount)).sum = dummyAmount needsDummy := by
  cases needsDummy <;> rfl

theorem sum_destinationIntents (rest : Nat) :
    ((destinationIntents destination rest).map (·.amount)).sum =
      ((requested destination).map (·.2)).sum + rest := by
  cases destination with
  | single address => simp [destinationIntents, requested, Address.intent]
  | multiple outputs =>
    simp [destinationIntents, requested, Outputs.intents, Address.intent, Function.comp_def]

theorem pairwise_intentLe (intents : List (Intent Key)) :
    (intents.insertionSort intentLe).Pairwise intentLe :=
  pairwise_insertionSort (compareLex (compareOn Intent.amount) (compareOn Intent.scriptPubkey))
    (fun _ _ => Iff.rfl) intents

/-- An output pays what its intent says. -/
theorem map_paysTo {intents : List (Intent Key)} {entries : List (Entry F AssetId Key)}
    (h : List.Forall₂ (Entry.BuiltFrom isFeeEstimation) intents entries) :
    (entries.map (·.output)).map (·.paysTo) = intents.map (·.paysTo) := by
  induction h with
  | nil => rfl
  | cons hfrom hrest ih =>
    have hamount := (congrArg Prod.fst hfrom.params).trans hfrom.amount
    rw [List.map_cons, List.map_cons, List.map_cons, ih]
    exact congrArg (· :: _) (Prod.ext hamount hfrom.script)

omit [Zero F] in
theorem sum_paysTo (outputs : List (TxOut F AssetId Key)) :
    (outputs.map (·.amount)).sum = ((outputs.map (·.paysTo)).map (·.1)).sum := by
  rw [List.map_map]
  rfl

/-- The outputs are those of the accepted request. -/
theorem blindOutputs_pays {fee : Nat} {outputs : List (TxOut F AssetId Key)}
    (h : blindOutputs primitives.blinding unblinded assetId isFeeEstimation destination fee =
      .ok outputs) :
    accepts unblinded destination fee = true ∧ ∃ body, outputs = body ++ [.newFee fee assetId] ∧
      (body.map (·.paysTo)).Perm ((dummyIntents primitives.blinding.dummyKey
        (needsDummyOutput unblinded destination) ++ destinationIntents destination
          (remaining unblinded destination fee)).map (·.paysTo)) ∧
      (body.map (·.paysTo)).Pairwise outputLe ∧
      (outputs.map (·.amount)).sum = dummy unblinded destination +
        ((requested destination).map (·.2)).sum + remaining unblinded destination fee + fee := by
  obtain ⟨unsorted, entries, hunsorted, hentries, rfl⟩ := blindOutputs_ok h
  obtain ⟨haccepts, rfl⟩ := intents_ok hunsorted
  have hpays := map_paysTo hentries
  have hperm : ((entries.map (·.output)).map (·.paysTo)).Perm ((dummyIntents
      primitives.blinding.dummyKey (needsDummyOutput unblinded destination) ++
        destinationIntents destination (remaining unblinded destination fee)).map (·.paysTo)) := by
    rw [hpays]
    exact (List.perm_insertionSort _ _).map _
  refine ⟨haccepts, entries.map (·.output), rfl, hperm, ?_, ?_⟩
  · rw [hpays, List.pairwise_map]
    exact (pairwise_intentLe _).imp fun h => h
  · have hamounts : ∀ intents : List (Intent Key),
        (intents.map (·.paysTo)).map (·.1) = intents.map (·.amount) := by
      intro intents
      rw [List.map_map]
      rfl
    rw [List.map_append, List.sum_append, sum_paysTo, (hperm.map _).sum_eq, hamounts,
      List.map_append, List.sum_append, sum_dummyIntents, sum_destinationIntents]
    simp only [List.map_cons, List.map_nil, List.sum_cons, List.sum_nil, dummy]
    simp only [TxOut.newFee, TxOut.amount, Confidential.value?, Option.getD_some]
    omega

variable {sha256 : Bytes → FixedBytes 32} {inputs : List (InputDetail Keys (TxOut F AssetId Key))}
variable {fee : Nat}

theorem constructRaw_ok {tx : Transaction (TxOut F AssetId Key)}
    (h : constructRaw sha256 primitives.library inputs unblinded assetId destination fee
      isFeeEstimation = .ok tx) :
    blindOutputs primitives.blinding unblinded assetId isFeeEstimation destination fee =
      .ok tx.output := by
  obtain ⟨lockTime, -, h⟩ := bind_eq_ok.mp h
  obtain ⟨output, houtput, h⟩ := bind_eq_ok.mp h
  obtain ⟨input, -, h⟩ := bind_eq_ok.mp h
  cases h
  exact houtput

/-- Apart from the comparison, a step fails that does not look at amounts. -/
theorem constructRaw_error {e : TxError}
    (h : constructRaw sha256 primitives.library inputs unblinded assetId destination fee
      isFeeEstimation = .error e) :
    lockTime (inputs.map (·.toInputDetail)) = .error e ∨
      (∃ tx prevouts, signInputs sha256 primitives.signing tx prevouts 0
        (inputs.map (·.toInputDetail)) (unsignedInputs (inputs.map (·.toInputDetail))) =
          .error e) ∨
      primitives.blinding.Fails e ∨
      (accepts unblinded destination fee = false ∧ e.isAmount = true) := by
  rcases bind_eq_error.mp h with h | ⟨lockTime, -, h⟩
  · exact .inl h
  rcases bind_eq_error.mp h with h | ⟨output, -, h⟩
  · exact .inr (.inr (blindOutputs_error h).symm)
  rcases bind_eq_error.mp h with h | ⟨input, -, h⟩
  · exact .inr (.inl ⟨_, _, h⟩)
  · cases h

theorem accepts_of_amount {e : TxError}
    (h : constructRaw sha256 primitives.library inputs unblinded assetId destination fee
      isFeeEstimation = .error e) (hamount : e.isAmount = true) :
    accepts unblinded destination fee = false := by
  rcases constructRaw_error h with h | ⟨tx, prevouts, h⟩ | h | ⟨h, -⟩
  · rw [lockTime_error h] at hamount
    cases hamount
  · rw [signInputs_error primitives.honest h] at hamount
    cases hamount
  · rw [h.isAmount] at hamount
    cases hamount
  · exact h

/-! ## Requests -/

variable (primitives sha256 inputs unblinded assetId destination)

/-- The builder for sorted inputs. -/
def feeBuilder : FeeBuilder (Transaction (TxOut F AssetId Key)) TxError where
  construct := constructRaw sha256 primitives.library inputs unblinded assetId destination
  verdict fee := if accepts unblinded destination fee then .accepts else .rejects
  verdictOf e := if e.isAmount then some .rejects else none
  accepts_of_ok fee estimation tx h := by
    rw [if_pos (blindOutputs_pays (constructRaw_ok h)).1]
  verdict_of_error fee estimation e v h hv := by
    split at hv
    · rename_i hamount
      cases hv
      rw [accepts_of_amount h hamount]
      exact ⟨Verdict.noConfusion, rfl⟩
    · cases hv

def feeSpec (dummyKey : Key) : FeeSpec (Transaction (TxOut F AssetId Key)) where
  exceeds := Exceeds unblinded destination
  paid := Paid unblinded destination dummyKey assetId

/-- Nothing but the amounts can make the builder fail. -/
structure Succeeds (fee : FeeTarget Rate) : Prop where
  lockTime : ∃ lockTime, Core.lockTime (inputs.map (·.toInputDetail)) = .ok lockTime
  signInputs : ∀ tx prevouts, ∃ signed, signInputs sha256 primitives.signing tx prevouts 0
    (inputs.map (·.toInputDetail)) (unsignedInputs (inputs.map (·.toInputDetail))) = .ok signed
  prove : ∀ i unblinded output, primitives.blinding.prove i unblinded output = .ok ()
  rate : ∀ rate, fee = .relative rate → primitives.rates.valid rate = true

variable {primitives sha256 inputs unblinded assetId destination}

theorem paid_iff_sums {tx : Transaction (TxOut F AssetId Key)}
    (h : constructRaw sha256 primitives.library inputs unblinded assetId destination fee
      isFeeEstimation = .ok tx) :
    Paid unblinded destination primitives.blinding.dummyKey assetId tx fee ↔
      Sums unblinded destination fee := by
  obtain ⟨-, body, houtput, hperm, hsorted, hsum⟩ := blindOutputs_pays (constructRaw_ok h)
  constructor
  · exact fun hpaid => hsum.symm.trans hpaid.sum
  · intro hsums
    exact ⟨not_exceeds_of_sums hsums, hsum.trans hsums, body, _, houtput, hperm, hsorted⟩

theorem isAmount_of_succeeds {target : FeeTarget Rate} {e : TxError}
    (hsucceeds : Succeeds primitives sha256 inputs target)
    (h : constructRaw sha256 primitives.library inputs unblinded assetId destination fee
      isFeeEstimation = .error e) : e.isAmount = true := by
  rcases constructRaw_error h with h | ⟨tx, prevouts, h⟩ | ⟨i, unblinded, output, h⟩ | ⟨-, h⟩
  · obtain ⟨lockTime, hlockTime⟩ := hsucceeds.lockTime
    rw [hlockTime] at h
    cases h
  · obtain ⟨signed, hsigned⟩ := hsucceeds.signInputs tx prevouts
    rw [hsigned] at h
    cases h
  · rw [hsucceeds.prove] at h
    cases h
  · exact h

theorem decided_of_succeeds {target : FeeTarget Rate}
    (hsucceeds : Succeeds primitives sha256 inputs target) :
    Decided (targetFee primitives.rates primitives.vsize (constructRaw sha256 primitives.library
      inputs unblinded assetId destination) target) := by
  intro e h
  cases target with
  | absolute fee =>
    rcases bind_eq_error.mp h with h | ⟨tx, -, h⟩
    · exact isAmount_of_succeeds hsucceeds h
    · cases h
  | relative rate =>
    rw [targetFee, if_pos (hsucceeds.rate rate rfl)] at h
    rcases bind_eq_error.mp h with h | ⟨estimated, -, h⟩
    · exact isAmount_of_succeeds hsucceeds h
    rcases bind_eq_error.mp h with h | ⟨tx, -, h⟩
    · exact isAmount_of_succeeds hsucceeds h
    · cases h

end

/-- The target is covered when the verdicts of the builder are right. -/
theorem fitsTarget_iff [Zero F] {Keys Rate : Type} {primitives : Primitives Keys Rate F AssetId Key}
    {sha256 : Bytes → FixedBytes 32} {inputs : List (InputDetail Keys (TxOut F AssetId Key))}
    {assetId : AssetId} {dummyKey : Key} {n : Nat} {fee : FeeTarget Rate}
    (hfee : fee.feeFor primitives.rates n < u64Size) :
    (feeBuilder unblinded destination primitives assetId sha256 inputs).FitsTarget
        (feeSpec unblinded destination assetId dummyKey) primitives.rates
        (Sums unblinded destination) n fee ↔
      CoversTarget unblinded destination primitives.rates n fee := by
  let builder := feeBuilder unblinded destination primitives assetId sha256 inputs
  have hverdict : ∀ fee, builder.verdict fee =
      if accepts unblinded destination fee then .accepts else .rejects := fun _ => rfl
  have hfits : ∀ fee, fee < u64Size → (builder.Fits
      (feeSpec unblinded destination assetId dummyKey) (Sums unblinded destination) fee ↔
      Covers unblinded destination fee) := by
    intro fee hfee
    rw [← covers_iff_verdict hfee]
    by_cases haccepts : accepts unblinded destination fee = true
    · rw [if_pos haccepts]
      exact FeeBuilder.fits_of_accepts ((hverdict fee).trans (if_pos haccepts))
    · rw [if_neg haccepts]
      exact FeeBuilder.fits_of_rejects ((hverdict fee).trans (if_neg haccepts))
  cases fee with
  | absolute fee => exact hfits fee hfee
  | relative rate =>
    simp only [FeeBuilder.FitsTarget, CoversTarget]
    by_cases haccepts : accepts unblinded destination 1 = true
    · rw [if_pos haccepts, (hverdict 1).trans (if_pos haccepts)]
      exact hfits _ hfee
    · rw [if_neg haccepts, (hverdict 1).trans (if_neg haccepts)]
      exact Iff.rfl

end

/-! ## The builder -/

/-- The outcome of a request about amounts is right exactly when the comparison is. -/
theorem conserves_iff_coversTarget {Keys Rate F AssetId Key : Type} [Zero F] [DecidableEq AssetId]
    (primitives : Primitives Keys Rate F AssetId Key) (sha256 : Bytes → FixedBytes 32)
    (inputs : List (InputDetail Keys (TxOut F AssetId Key))) (destination : Destination (Address Key))
    (fee : FeeTarget Rate) (unblinded : List (UnblindedOutput (Factors F) AssetId))
    (assetId : AssetId) (size : Nat)
    (hunblinded : unblindOutputs primitives.library 0 (sortInputs (·.outpoint) inputs) =
      .ok unblinded)
    (hne : unblinded ≠ []) (hasset : ∀ input ∈ unblinded, input.asset = assetId)
    (hsize : ∀ tx, constructRaw sha256 primitives.library (sortInputs (·.outpoint) inputs) unblinded
      assetId destination 1 true = .ok tx → size = primitives.vsize tx + tx.input.length)
    (hfee : fee.feeFor primitives.rates size < u64Size) :
    (Succeeds primitives sha256 (sortInputs (·.outpoint) inputs) fee →
      Decided (constructTx sha256 primitives.library inputs destination fee)) ∧
    (Decided (constructTx sha256 primitives.library inputs destination fee) →
      (Conserves unblinded destination primitives.blinding.dummyKey assetId
          (fee.feeFor primitives.rates size)
          (constructTx sha256 primitives.library inputs destination fee) ↔
        CoversTarget unblinded destination primitives.rates size fee)) := by
  have hresult : constructTx sha256 primitives.library inputs destination fee =
      targetFee primitives.rates primitives.vsize (constructRaw sha256 primitives.library
        (sortInputs (·.outpoint) inputs) unblinded assetId destination) fee := by
    cases unblinded with
    | nil => exact absurd rfl hne
    | cons first rest =>
      have hfirst : first.asset = assetId := hasset first List.mem_cons_self
      have hall : ((first :: rest).all fun input => input.asset = first.asset) = true := by
        refine List.all_eq_true.mpr fun input hinput => decide_eq_true ?_
        rw [hasset input hinput, hfirst]
      unfold constructTx
      simp only [hunblinded, bind, Except.bind, hall, if_true]
      rw [hfirst]
      rfl
  rw [hresult]
  refine ⟨decided_of_succeeds, fun hdecided => ?_⟩
  let builder := feeBuilder unblinded destination primitives assetId sha256
    (sortInputs (·.outpoint) inputs)
  let spec := feeSpec unblinded destination assetId primitives.blinding.dummyKey
  rw [targetFee_eq] at hdecided ⊢
  have hdecided' : builder.Decided (targetFeeOf primitives.rates
      (fun tx => primitives.vsize tx + tx.input.length) .invalidFeeRate builder.construct fee) := by
    intro e he
    exact congrArg Option.isSome (if_pos (hdecided e he))
  have hsound : ∀ fee tx, builder.construct fee false = .ok tx →
      (spec.paid tx fee ↔ Sums unblinded destination fee) := fun fee tx h => paid_iff_sums h
  refine Iff.trans ?_ ((FeeBuilder.correct_iff rfl hsize hsound hdecided').trans
    (fitsTarget_iff hfee))
  constructor
  · rintro ⟨hrejected, hpaid⟩
    refine ⟨fun e _ => ?_, fun e he hv => hrejected e he (hdecided e he),
      fun tx charged htx => (hpaid tx charged htx).2⟩
    simp only [builder, feeBuilder]
    split <;> simp
  · rintro ⟨-, hrejected, hpaid⟩
    refine ⟨fun e he hamount => hrejected e he (if_pos hamount), fun tx charged htx =>
      ⟨(targetFeeOf_ok htx).2 size hsize, hpaid tx charged htx⟩⟩

/-! ## Requests that spend a blinded input -/

def unblindedSample : List (UnblindedOutput (Factors Scalar) String) :=
  [{ asset := "lbtc", amount := 1000, secrets := some sampleFactors }]

/-- Nothing but the dummy output is blinded. -/
def plainDestination : Destination (Address Nat) :=
  .multiple { change := ⟨[0x52], none⟩, outputs := [(⟨[0x51], none⟩, 500)] }

theorem rate_is_covered :
    Conserves unblindedSample plainDestination 0 "lbtc" 151
      (constructTx noSha256 samplePrimitives.library [sampleInput 0 (sampleBlinded "lbtc" 1000)]
        plainDestination (.relative 1)) := by
  have hestimated : (constructRaw noSha256 samplePrimitives.library
      [sampleInput 0 (sampleBlinded "lbtc" 1000)] unblindedSample "lbtc" plainDestination 1 true >>=
      fun tx => Except.ok (samplePrimitives.vsize tx + tx.input.length)) = .ok 151 := by
    decide +kernel
  have hconserves := conserves_iff_coversTarget samplePrimitives noSha256
    [sampleInput 0 (sampleBlinded "lbtc" 1000)] plainDestination (.relative 1) unblindedSample "lbtc"
    151 rfl (List.cons_ne_nil _ _) (fun input hinput => by rw [List.mem_singleton.mp hinput])
    (fun tx htx => by
      rw [show sortInputs _ _ = [sampleInput 0 (sampleBlinded "lbtc" 1000)] from rfl] at htx
      rw [htx] at hestimated
      exact (Except.ok.inj hestimated).symm)
    (by decide +kernel)
  refine (hconserves.2 (hconserves.1 ⟨⟨100, rfl⟩, fun tx prevouts => ⟨_, rfl⟩, fun _ _ _ => rfl,
    fun _ _ => rfl⟩)).mpr ?_
  rw [CoversTarget, if_pos (by decide +kernel)]
  decide +kernel

/-- The outputs, the fee and the dummy output are exactly the input, and the builder refuses. -/
theorem dummy_counted_twice :
    ¬ Conserves unblindedSample plainDestination 0 "lbtc" 499
      (constructTx noSha256 samplePrimitives.library [sampleInput 0 (sampleBlinded "lbtc" 1000)]
        plainDestination (.absolute 499)) := by
  intro h
  have hrefused : constructTx noSha256 samplePrimitives.library
      [sampleInput 0 (sampleBlinded "lbtc" 1000)] plainDestination (.absolute 499) =
      .error .outputsExceedInputs := by
    decide +kernel
  exact absurd (h.rejected _ hrefused rfl) (by decide +kernel)

end Boltz.Core.Elements

import Boltz.Core.ConstructTx

/-!
# Builders and fee targets (`boltz-core/src/target_fee.rs`)

A builder that is asked for a fee rate is called twice, with a stub fee for the size and with the
fee for that size. What it makes of every single fee therefore says what it makes of a target.
-/

namespace Boltz.Core

theorem bind_eq_error {ε α β : Type} {x : Except ε α} {f : α → Except ε β} {e : ε} :
    (x >>= f) = .error e ↔ x = .error e ∨ ∃ a, x = .ok a ∧ f a = .error e := by
  cases x with
  | error e' =>
    constructor
    · intro h
      cases h
      exact .inl rfl
    · rintro (h | ⟨a, h, -⟩)
      · cases h
        rfl
      · cases h
  | ok a =>
    constructor
    · exact fun h => .inr ⟨a, rfl, h⟩
    · rintro (h | ⟨a', h, hf⟩)
      · cases h
      · cases h
        exact hf

/-- `target_fee` for transactions and errors of any type. -/
def targetFeeOf {Rate Tx E : Type} (rates : FeeRates Rate) (size : Tx → Nat) (invalidFeeRate : E)
    (construct : Nat → Bool → Except E Tx) : FeeTarget Rate → Except E (Tx × Nat)
  | .absolute fee => do return (← construct fee false, fee)
  | .relative rate =>
    if rates.valid rate then do
      let tx ← construct 1 true
      let fee := rates.fee rate (size tx)
      return (← construct fee false, fee)
    else .error invalidFeeRate

theorem targetFee_eq {Rate TxOut : Type} (rates : FeeRates Rate) (vsize : Transaction TxOut → Nat)
    (construct : Nat → Bool → Except TxError (Transaction TxOut)) :
    targetFee rates vsize construct =
      targetFeeOf rates (fun tx => vsize tx + tx.input.length) .invalidFeeRate construct := by
  funext fee
  cases fee <;> rfl

/-- The fee of a target for a transaction of a size. -/
def FeeTarget.feeFor {Rate : Type} (rates : FeeRates Rate) (size : Nat) : FeeTarget Rate → Nat
  | .absolute fee => fee
  | .relative rate => rates.fee rate size

section

variable {Rate Tx E : Type} {rates : FeeRates Rate} {size : Tx → Nat} {invalidFeeRate : E}
variable {construct : Nat → Bool → Except E Tx} {fee : FeeTarget Rate}

/-- A transaction that is returned was constructed with the fee that was charged. -/
theorem targetFeeOf_ok {tx : Tx} {charged : Nat}
    (h : targetFeeOf rates size invalidFeeRate construct fee = .ok (tx, charged)) :
    construct charged false = .ok tx ∧
      ∀ n, (∀ estimated, construct 1 true = .ok estimated → n = size estimated) →
        charged = fee.feeFor rates n := by
  cases fee with
  | absolute fee =>
    obtain ⟨tx', htx, h⟩ := bind_eq_ok.mp h
    cases h
    exact ⟨htx, fun n hn => rfl⟩
  | relative rate =>
    simp only [targetFeeOf] at h
    split at h
    · obtain ⟨estimated, hestimated, h⟩ := bind_eq_ok.mp h
      obtain ⟨tx', htx, h⟩ := bind_eq_ok.mp h
      cases h
      refine ⟨htx, fun n hn => ?_⟩
      rw [hn estimated hestimated, FeeTarget.feeFor]
    · cases h

end

/-! ## Errors about amounts -/

/-- The errors of a builder that cannot pay. -/
def TxError.isAmount : TxError → Bool
  | .feeExceedsInputs | .outputsExceedInputs => true
  | _ => false

/-- The errors of signatures are not about amounts. -/
structure Signing.Honest {Keys TxOut : Type} (signing : Signing Keys TxOut) : Prop where
  legacy : ∀ tx i script keys e, signing.legacySignature tx i script keys = .error e →
    e.isAmount = false
  segwit : ∀ tx i script txOut keys e, signing.segwitSignature tx i script txOut keys = .error e →
    e.isAmount = false
  taproot : ∀ tx i prevouts leaf keys e,
    signing.taprootSignature tx i prevouts leaf keys = .error e → e.isAmount = false
  controlBlock : ∀ details leaf i e, signing.controlBlock details leaf i = .error e →
    e.isAmount = false

section

variable {Keys TxOut : Type} {sha256 : Bytes → FixedBytes 32} {signing : Signing Keys TxOut}
variable {tx : Transaction TxOut} {prevouts : List TxOut} {e : TxError}

theorem pushBytes_error {data : Bytes} (h : pushBytes data = .error e) : e.isAmount = false := by
  unfold pushBytes at h
  split at h
  · cases h
  · cases h
    rfl

theorem scriptSig_error (hhonest : signing.Honest) {i : Nat} {input : InputDetail Keys TxOut}
    (h : scriptSig sha256 signing tx i input = .error e) : e.isAmount = false := by
  unfold scriptSig at h
  split at h
  · rcases bind_eq_error.mp h with h | ⟨signature, -, h⟩
    · exact hhonest.legacy _ _ _ _ _ h
    · rcases bind_eq_error.mp h with h | ⟨script, -, h⟩
      · exact pushBytes_error h
      · cases h
  · cases h
  · cases h

theorem witness_error (hhonest : signing.Honest) {i : Nat} {input : InputDetail Keys TxOut}
    (h : witness signing tx prevouts i input = .error e) : e.isAmount = false := by
  unfold witness at h
  split at h
  · cases h
  · rcases bind_eq_error.mp h with h | ⟨signature, -, h⟩
    · exact hhonest.taproot _ _ _ _ _ _ h
    · rcases bind_eq_error.mp h with h | ⟨controlBlock, -, h⟩
      · exact hhonest.controlBlock _ _ _ _ h
      · cases h
  · rcases bind_eq_error.mp h with h | ⟨signature, -, h⟩
    · exact hhonest.segwit _ _ _ _ _ _ h
    · cases h
  · rcases bind_eq_error.mp h with h | ⟨signature, -, h⟩
    · exact hhonest.segwit _ _ _ _ _ _ h
    · cases h
  · cases h

theorem signInputs_error (hhonest : signing.Honest) {i : Nat}
    {inputs : List (InputDetail Keys TxOut)} {txIns : List TxIn}
    (h : signInputs sha256 signing tx prevouts i inputs txIns = .error e) :
    e.isAmount = false := by
  induction inputs generalizing i txIns with
  | nil =>
    rw [signInputs] at h
    · cases h
    · exact fun _ _ _ _ h => nomatch h
  | cons input inputs ih =>
    cases txIns with
    | nil =>
      rw [signInputs] at h
      · cases h
      · exact fun _ _ _ _ _ h => nomatch h
    | cons txIn txIns =>
      rw [signInputs] at h
      rcases bind_eq_error.mp h with h | ⟨signed, -, h⟩
      · rcases bind_eq_error.mp h with h | ⟨script, -, h⟩
        · exact scriptSig_error hhonest h
        · rcases bind_eq_error.mp h with h | ⟨stack, -, h⟩
          · exact witness_error hhonest h
          · cases h
      · rcases bind_eq_error.mp h with h | ⟨rest, -, h⟩
        · exact ih h
        · cases h

theorem lockTime_error {inputs : List (InputDetail Keys TxOut)}
    (h : lockTime inputs = .error e) : e.isAmount = false := by
  unfold lockTime at h
  split at h
  · split at h
    · cases h
    · cases h
      rfl
  · cases h

end

/-! ## What a builder makes of a fee -/

inductive Verdict where
  | accepts
  | rejects
  | panics
  deriving DecidableEq, Repr

/-- A builder, and what its errors mean for the fee, if anything. -/
structure FeeBuilder (Tx E : Type) where
  construct : Nat → Bool → Except E Tx
  verdict : Nat → Verdict
  verdictOf : E → Option Verdict
  accepts_of_ok : ∀ fee estimation tx, construct fee estimation = .ok tx → verdict fee = .accepts
  verdict_of_error : ∀ fee estimation e v, construct fee estimation = .error e → verdictOf e = some v →
    v ≠ .accepts ∧ verdict fee = v

/-- What is right: which fees are too high, and which transactions pay a fee. -/
structure FeeSpec (Tx : Type) where
  exceeds : Nat → Prop
  paid : Tx → Nat → Prop

namespace FeeBuilder

variable {Rate Tx E : Type} (builder : FeeBuilder Tx E) (spec : FeeSpec Tx)

/-- The outcome says something about the fee. -/
def Decided {α : Type} (result : Except E α) : Prop :=
  ∀ e, result = .error e → (builder.verdictOf e).isSome = true

/-- A rejected fee is too high, and a transaction that is returned pays its fee. -/
structure Correct (fee : Nat) (result : Except E (Tx × Nat)) : Prop where
  noPanic : ∀ e, result = .error e → builder.verdictOf e ≠ some .panics
  rejected : ∀ e, result = .error e → builder.verdictOf e = some .rejects → spec.exceeds fee
  paid : ∀ tx charged, result = .ok (tx, charged) → spec.paid tx charged

/-- The verdict on a fee is right, if a transaction that is accepted is. -/
def Fits (sound : Nat → Prop) (fee : Nat) : Prop :=
  match builder.verdict fee with
  | .accepts => sound fee
  | .rejects => spec.exceeds fee
  | .panics => False

/-- The verdict on the stub fee matters as well for a rate. -/
def FitsTarget (rates : FeeRates Rate) (sound : Nat → Prop) (n : Nat) : FeeTarget Rate → Prop
  | .absolute fee => builder.Fits spec sound fee
  | .relative rate =>
    match builder.verdict 1 with
    | .accepts => builder.Fits spec sound (rates.fee rate n)
    | .rejects => spec.exceeds (rates.fee rate n)
    | .panics => False

variable {builder spec} {sound : Nat → Prop}

theorem fits_of_accepts {fee : Nat} (h : builder.verdict fee = .accepts) :
    builder.Fits spec sound fee ↔ sound fee := by
  rw [Fits, h]

theorem fits_of_rejects {fee : Nat} (h : builder.verdict fee = .rejects) :
    builder.Fits spec sound fee ↔ spec.exceeds fee := by
  rw [Fits, h]

theorem not_fits_of_panics {fee : Nat} (h : builder.verdict fee = .panics) :
    ¬ builder.Fits spec sound fee := by
  rw [Fits, h]
  exact id

/-- An error is right when it rejects a fee that is too high. -/
theorem correct_error_iff {fee : Nat} {e : E} {v : Verdict} (hv : builder.verdictOf e = some v)
    (hne : v ≠ .accepts) :
    builder.Correct spec fee (.error e) ↔
      match v with
      | .rejects => spec.exceeds fee
      | _ => False := by
  cases v with
  | accepts => exact absurd rfl hne
  | rejects =>
    constructor
    · exact fun h => h.rejected e rfl hv
    · intro h
      refine ⟨fun e' he => ?_, fun _ _ _ => h, fun tx charged htx => (nomatch htx)⟩
      cases he
      rw [hv]
      exact fun h => nomatch h
  | panics =>
    constructor
    · exact fun h => h.noPanic e rfl hv
    · exact fun h => h.elim

/-- An outcome for a single fee. -/
theorem correct_iff_fits {fee : Nat} {estimation : Bool}
    (hsound : ∀ tx, builder.construct fee estimation = .ok tx → (spec.paid tx fee ↔ sound fee))
    (hdecided : builder.Decided (builder.construct fee estimation)) :
    builder.Correct spec fee ((builder.construct fee estimation).map (·, fee)) ↔
      builder.Fits spec sound fee := by
  cases hresult : builder.construct fee estimation with
  | ok tx =>
    have hverdict := builder.accepts_of_ok fee estimation tx hresult
    simp only [Fits, hverdict]
    rw [← hsound tx hresult]
    constructor
    · exact fun h => h.paid tx fee rfl
    · intro h
      refine ⟨fun e he => (nomatch he), fun e he => (nomatch he), fun tx' charged htx => ?_⟩
      cases htx
      exact h
  | error e =>
    obtain ⟨v, hv⟩ := Option.isSome_iff_exists.mp (hdecided e hresult)
    obtain ⟨hne, hverdict⟩ := builder.verdict_of_error fee estimation e v hresult hv
    cases v with
    | accepts => exact absurd rfl hne
    | rejects | panics =>
      simp only [Fits, hverdict]
      exact correct_error_iff hv hne

/-- An outcome for a target. -/
theorem correct_iff {rates : FeeRates Rate} {size : Tx → Nat} {invalidFeeRate : E} {n : Nat}
    {fee : FeeTarget Rate} (hinvalid : builder.verdictOf invalidFeeRate = none)
    (hsize : ∀ tx, builder.construct 1 true = .ok tx → n = size tx)
    (hsound : ∀ fee tx, builder.construct fee false = .ok tx → (spec.paid tx fee ↔ sound fee))
    (hdecided : builder.Decided
      (targetFeeOf rates size invalidFeeRate builder.construct fee)) :
    builder.Correct spec (fee.feeFor rates n)
        (targetFeeOf rates size invalidFeeRate builder.construct fee) ↔
      builder.FitsTarget spec rates sound n fee := by
  have hmap : ∀ f, (do return (← builder.construct f false, f) : Except E (Tx × Nat)) =
      (builder.construct f false).map (·, f) := by
    intro f
    cases builder.construct f false <;> rfl
  have hdecided' : ∀ f, builder.Decided ((builder.construct f false).map (·, f)) →
      builder.Decided (builder.construct f false) := by
    intro f h e he
    exact h e (by rw [he]; rfl)
  cases fee with
  | absolute fee =>
    simp only [targetFeeOf, hmap] at hdecided ⊢
    exact correct_iff_fits (hsound fee) (hdecided' fee hdecided)
  | relative rate =>
    simp only [targetFeeOf] at hdecided ⊢
    by_cases hvalid : rates.valid rate = true
    · simp only [hvalid, if_true, hmap] at hdecided ⊢
      cases hstub : builder.construct 1 true with
      | ok estimated =>
        -- the stub was accepted, and the fee for its size decides
        obtain rfl := hsize estimated hstub
        rw [hstub] at hdecided
        simp only [FitsTarget, builder.accepts_of_ok 1 true estimated hstub]
        exact correct_iff_fits (hsound _) (hdecided' _ hdecided)
      | error e =>
        rw [hstub] at hdecided
        obtain ⟨v, hv⟩ := Option.isSome_iff_exists.mp (hdecided e rfl)
        obtain ⟨hne, hverdict⟩ := builder.verdict_of_error 1 true e v hstub hv
        cases v with
        | accepts => exact absurd rfl hne
        | rejects | panics =>
          simp only [FitsTarget, hverdict]
          exact correct_error_iff hv hne
    · rw [if_neg hvalid] at hdecided
      exact absurd (hdecided invalidFeeRate rfl) (by rw [hinvalid]; simp)

end FeeBuilder

end Boltz.Core

import Boltz.Safety.LockupVerdicts

/-!
# Amounts of commitments (`contracts/Commitments.ts`, `EthereumNursery.ts`)

A commitment links a lockup to a swap after its amount was checked, and then the nursery checks the
lockup like any other. The check of the commitment asks the overpayment protector for the tolerance
only, which the request can override; the nursery also refuses more than twice the expected amount.
-/

namespace Boltz.LockupAmounts

open Ethereum

/-- What was locked up in one of the contracts. -/
inductive ContractAmount where
  | ether (wei : Nat)
  | token (decimals tokens : Nat)
  deriving DecidableEq, Repr

namespace ContractAmount

/-- The amount in the units of the server, as the commitment reads it. -/
def satoshis : ContractAmount → Nat
  | ether wei => wei / etherDecimals
  | token decimals tokens => normalizeTokenAmount decimals tokens

/-- The expected amount is more than the tokens, but less than with one more of their units. -/
def Rounded (expected : Nat) : ContractAmount → Prop
  | ether _ => False
  | token decimals tokens => BetweenUnits decimals expected tokens

theorem satoshis_lt_of_rounded {expected : Nat} {amount : ContractAmount}
    (h : amount.Rounded expected) : amount.satoshis < expected := by
  cases amount with
  | ether wei => exact h.elim
  | token decimals tokens =>
    obtain ⟨hdecimals, hmore, -⟩ := h
    change normalizeTokenAmount decimals tokens < expected
    unfold normalizeTokenAmount
    rwa [if_neg (Nat.ne_of_lt hdecimals), if_neg (Nat.not_lt.mpr hdecimals.le)]

end ContractAmount

section checks

variable (manager : EthereumManager) (expected : Nat) (amount : ContractAmount)

/-- The amount check of the nursery, for a submarine swap. -/
def nurseryError : ContractAmount → Option AmountError
  | .ether wei =>
    EthereumNursery.validateEtherSwapLockup manager.overpaymentProtector (.submarine expected) wei
  | .token decimals tokens =>
    EthereumNursery.validateErc20SwapLockup manager.overpaymentProtector decimals
      (.submarine expected) tokens

def NurseryAccepts : Prop := nurseryError manager expected amount = none

/-- The amount check of the commitment, for a submarine swap. -/
def CommitAccepts (maxOverpaymentPercentage : Option ℚ) : Prop :=
  Commitments.checkAcceptedAmount manager expected amount.satoshis .submarine
    maxOverpaymentPercentage = .ok ()

/-- Without an override both checks accept the same amounts, and with one the nursery does not
refuse what the commitment accepted. -/
def JudgedAsNursery (maxOverpaymentPercentage : Option ℚ) : Prop :=
  (CommitAccepts manager expected amount maxOverpaymentPercentage →
    NurseryAccepts manager expected amount) ∧
  (maxOverpaymentPercentage = none → NurseryAccepts manager expected amount →
    CommitAccepts manager expected amount none)

/-- The tolerance of the commitment. -/
def commitSlippage (maxOverpaymentPercentage : Option ℚ) : ℚ :=
  match maxOverpaymentPercentage with
  | some maxPercentage =>
    { manager.overpaymentProtector with maxPercentage }.getAllowedPositiveSlippage expected
  | none => manager.overpaymentProtector.getAllowedPositiveSlippage expected

/-- An amount that is enough and within the tolerance of the commitment is no overpayment for the
nursery. Without an override, the expected amount is not between two amounts of the token, unless
even then the nursery takes what is locked up for an overpayment. -/
def ToleratedAlike (maxOverpaymentPercentage : Option ℚ) : Prop :=
  (expected ≤ amount.satoshis →
    (amount.satoshis : ℚ) ≤ expected + commitSlippage manager expected maxOverpaymentPercentage →
    (amount.satoshis : ℚ) ≤ expected + manager.overpaymentProtector.getAllowedPositiveSlippage expected ∧
      amount.satoshis ≤ expected * 2) ∧
  (maxOverpaymentPercentage = none → amount.Rounded expected →
    expected + manager.overpaymentProtector.getAllowedPositiveSlippage expected < (amount.satoshis : ℚ))

end checks

/-! ## What each check accepts -/

section accepted

variable (manager : EthereumManager) {expected : Nat} (amount : ContractAmount)

theorem commitAccepts_iff (maxOverpaymentPercentage : Option ℚ) :
    CommitAccepts manager expected amount maxOverpaymentPercentage ↔
      expected ≤ amount.satoshis ∧
        (amount.satoshis : ℚ) ≤
          expected + commitSlippage manager expected maxOverpaymentPercentage := by
  unfold CommitAccepts Commitments.checkAcceptedAmount
  rw [if_neg (by simp)]
  by_cases hshort : amount.satoshis < expected
  · rw [if_pos hshort, if_neg (by decide)]
    exact iff_of_false (by simp) fun h => absurd hshort (Nat.not_lt.mpr h.1)
  rw [if_neg hshort]
  have hle : expected ≤ amount.satoshis := Nat.not_lt.mp hshort
  have hcheck : ∀ slippage : ℚ,
      (if ((amount.satoshis - expected : ℕ) : ℚ) > slippage then
        .error (.overpaidAmount amount.satoshis expected) else .ok () : Except CommitError Unit) =
          .ok () ↔ (amount.satoshis : ℚ) ≤ expected + slippage := by
    intro slippage
    rw [Nat.cast_sub hle]
    by_cases hover : (amount.satoshis : ℚ) - expected > slippage
    · rw [if_pos hover]
      exact iff_of_false (by simp) (by linarith)
    · rw [if_neg hover]
      exact iff_of_true rfl (by linarith)
  rw [and_iff_right hle]
  cases maxOverpaymentPercentage with
  | none => exact hcheck _
  | some maxPercentage => exact hcheck _

theorem checkOverpayment_eq_none (protector : OverpaymentProtector) (actual : Nat) :
    checkOverpayment protector .submarine expected actual = none ↔
      (actual : ℚ) ≤ expected + protector.getAllowedPositiveSlippage expected ∧
        actual ≤ expected * 2 := by
  have hoverpay : protector.isUnacceptableOverpay .submarine ((expected : Nat) : ℚ) actual = false ↔
      (actual : ℚ) ≤ expected + protector.getAllowedPositiveSlippage expected ∧
        actual ≤ expected * 2 := by
    unfold OverpaymentProtector.isUnacceptableOverpay
    rw [if_neg (by decide), Bool.or_eq_false_iff, decide_eq_false_iff_not, decide_eq_false_iff_not,
      not_lt, not_lt, sub_le_iff_le_add']
    refine and_congr Iff.rfl ?_
    exact_mod_cast Iff.rfl
  unfold checkOverpayment
  rw [← hoverpay]
  change (if protector.isUnacceptableOverpay .submarine ((expected : Nat) : ℚ) actual = true then _
    else _) = none ↔ _
  split <;> simp_all

theorem nurseryAccepts_iff (hpos : 0 < expected) :
    NurseryAccepts manager expected amount ↔
      (expected ≤ amount.satoshis ∨ amount.Rounded expected) ∧
        (amount.satoshis : ℚ) ≤
            expected + manager.overpaymentProtector.getAllowedPositiveSlippage expected ∧
          amount.satoshis ≤ expected * 2 := by
  have hvalidate : EthereumNursery.shouldValidateAmount (.submarine expected) = some expected :=
    shouldValidateAmount_eq (.submarine expected) (.inr hpos)
  unfold NurseryAccepts
  cases amount with
  | ether wei =>
    unfold nurseryError EthereumNursery.validateEtherSwapLockup
    rw [hvalidate]
    simp only [gt_iff_lt, lt_mul_etherDecimals, ContractAmount.Rounded, or_false]
    change (if wei / etherDecimals < expected then _ else _) = none ↔ expected ≤ wei / etherDecimals ∧ _
    by_cases hshort : wei / etherDecimals < expected
    · rw [if_pos hshort]
      exact iff_of_false (by simp) fun h => absurd hshort (Nat.not_lt.mpr h.1)
    · rw [if_neg hshort, and_iff_right (Nat.not_lt.mp hshort)]
      exact checkOverpayment_eq_none _ _
  | token decimals tokens =>
    unfold nurseryError EthereumNursery.validateErc20SwapLockup
    rw [hvalidate]
    simp only [gt_iff_lt]
    have hshort : tokens < formatTokenAmount decimals expected ↔
        ¬(expected ≤ normalizeTokenAmount decimals tokens ∨
          BetweenUnits decimals expected tokens) := by
      rw [lt_formatTokenAmount, not_or, Nat.not_le]
    change _ ↔ (expected ≤ normalizeTokenAmount decimals tokens ∨
      BetweenUnits decimals expected tokens) ∧ _
    by_cases henough : expected ≤ normalizeTokenAmount decimals tokens ∨
        BetweenUnits decimals expected tokens
    · rw [if_neg fun h => hshort.mp h henough, and_iff_right henough]
      exact checkOverpayment_eq_none _ _
    · rw [if_pos (hshort.mpr henough)]
      exact iff_of_false (by simp) fun h => henough h.1

end accepted

/-- The commitment judges an amount as the nursery does exactly when both tolerate it alike. -/
theorem commit_judged_iff (manager : EthereumManager) {expected : Nat} (hpos : 0 < expected)
    (amount : ContractAmount) (maxOverpaymentPercentage : Option ℚ) :
    JudgedAsNursery manager expected amount maxOverpaymentPercentage ↔
      ToleratedAlike manager expected amount maxOverpaymentPercentage := by
  have hrounded : amount.Rounded expected → amount.satoshis < expected :=
    ContractAmount.satoshis_lt_of_rounded
  unfold JudgedAsNursery ToleratedAlike
  rw [commitAccepts_iff, commitAccepts_iff, nurseryAccepts_iff manager amount hpos]
  refine and_congr ?_ ?_
  · constructor
    · intro h henough hwithin
      exact (h ⟨henough, hwithin⟩).2
    · rintro h ⟨henough, hwithin⟩
      exact ⟨.inl henough, h henough hwithin⟩
  · refine forall_congr' fun _ => ?_
    constructor
    · intro h hr
      by_contra hwithin
      refine absurd (hrounded hr) (Nat.not_lt.mpr (h ⟨.inr hr, not_lt.mp hwithin, ?_⟩).1)
      exact le_trans (hrounded hr).le (Nat.le_mul_of_pos_right expected (by decide))
    · rintro h ⟨henough | hr, hwithin, -⟩
      · exact ⟨henough, hwithin⟩
      · exact absurd hwithin (not_le.mpr (h hr))

/-- A chain with the default tolerance: 10000 or two percent. -/
def defaultManager : EthereumManager where
  symbol := 1
  address := 100
  contracts := [⟨5, 51, 52, true⟩]
  requiredConfirmations := 1
  tokenAddresses _ := none
  normalizeTokenAmount _ amount := amount
  hashValues _ _ := 0
  isSignature _ := true
  checkCommitmentSignature _ _ _ _ := true
  recoverAddress _ _ := none

/-- One percent more than expected. -/
theorem small_overpayment_judged : 0 < 1000000 ∧
    JudgedAsNursery defaultManager 1000000 (.ether (1010000 * 10 ^ 10)) none := by
  have hpos : 0 < 1000000 := by decide
  have hslippage :
      defaultManager.overpaymentProtector.getAllowedPositiveSlippage (1000000 : Nat) = 20000 := by
    decide +kernel
  refine ⟨hpos, (commit_judged_iff defaultManager hpos _ none).mpr ⟨fun _ _ => ?_, nofun⟩⟩
  rw [hslippage]
  decide +kernel

/-- The commitment accepts four times the expected amount, as what is too much is exempt, and with an
override what the nursery does not tolerate; the nursery then fails the swap. -/
theorem committed_overpayment_refused :
    (CommitAccepts defaultManager 1000 (.ether (4000 * 10 ^ 10)) none ∧
      nurseryError defaultManager 1000 (.ether (4000 * 10 ^ 10)) =
        some (.overpaidAmount 4000 (some 1000)) ∧
      ¬JudgedAsNursery defaultManager 1000 (.ether (4000 * 10 ^ 10)) none) ∧
    CommitAccepts defaultManager 1000000 (.ether (1080000 * 10 ^ 10)) (some 10) ∧
      nurseryError defaultManager 1000000 (.ether (1080000 * 10 ^ 10)) =
        some (.overpaidAmount 1080000 (some 1000000)) ∧
      ¬JudgedAsNursery defaultManager 1000000 (.ether (1080000 * 10 ^ 10)) (some 10) := by
  have hrefused : nurseryError defaultManager 1000 (.ether (4000 * 10 ^ 10)) =
      some (.overpaidAmount 4000 (some 1000)) := by decide +kernel
  have hrefused' : nurseryError defaultManager 1000000 (.ether (1080000 * 10 ^ 10)) =
      some (.overpaidAmount 1080000 (some 1000000)) := by decide +kernel
  have haccepted : CommitAccepts defaultManager 1000 (.ether (4000 * 10 ^ 10)) none :=
    (commitAccepts_iff defaultManager _ none).mpr (by decide +kernel)
  have haccepted' : CommitAccepts defaultManager 1000000 (.ether (1080000 * 10 ^ 10)) (some 10) :=
    (commitAccepts_iff defaultManager _ (some 10)).mpr (by decide +kernel)
  refine ⟨⟨haccepted, hrefused, fun h => ?_⟩, haccepted', hrefused', fun h => ?_⟩
  · exact Option.some_ne_none _ (hrefused.symm.trans (h.1 haccepted))
  · exact Option.some_ne_none _ (hrefused'.symm.trans (h.1 haccepted'))

end Boltz.LockupAmounts

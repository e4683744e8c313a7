import Boltz.Swap.LockupAmounts

/-!
# The nurseries judge lockup amounts

A submarine swap can be locked up before its invoice sets the expected amount. `UtxoNursery` and
`EthereumNursery` then leave the amount unchecked; `ArkNursery` compares with `null`, which counts
as zero, so every amount is an overpayment.
-/

namespace Boltz.LockupAmounts

open Ethereum

/-! ## One amount in the units of every chain -/

/-- A lockup amount in satoshis, in wei and in the units of a token. -/
structure LockupAmount where
  satoshis : Nat
  wei : Nat
  tokenDecimals : Nat
  tokens : Nat
  wei_eq : wei / etherDecimals = satoshis
  tokens_eq : normalizeTokenAmount tokenDecimals tokens = satoshis

section verdicts

variable (protector : OverpaymentProtector) (swap : LockedSwap) (amount : LockupAmount)

def utxoVerdict : Verdict := verdict (UtxoNursery.checkAmount protector swap amount.satoshis)

def etherVerdict : Verdict :=
  verdict (EthereumNursery.validateEtherSwapLockup protector swap amount.wei)

def tokenVerdict : Verdict :=
  verdict (EthereumNursery.validateErc20SwapLockup protector amount.tokenDecimals swap amount.tokens)

def arkVerdict : Verdict := verdict (ArkNursery.checkAmount protector swap amount.satoshis)

/-- The nurseries come to the same verdict, and accept whatever is locked up for a submarine swap
without an expected amount. -/
def JudgedAlike : Prop :=
  (etherVerdict protector swap amount = utxoVerdict protector swap amount ∧
    tokenVerdict protector swap amount = utxoVerdict protector swap amount ∧
    arkVerdict protector swap amount = utxoVerdict protector swap amount) ∧
  (swap = .submarine none →
    utxoVerdict protector swap amount = .accept ∧ etherVerdict protector swap amount = .accept ∧
      tokenVerdict protector swap amount = .accept ∧ arkVerdict protector swap amount = .accept)

end verdicts

/-- Either there is an amount to expect or nothing was locked up for a submarine swap; for a chain
swap one of the two amounts is not zero. -/
def Comparable : LockedSwap → Nat → Prop
  | .submarine expectedAmount, satoshis => 0 < toNumber expectedAmount ∨ satoshis = 0
  | .chain expectedAmount, satoshis => 0 < expectedAmount ∨ 0 < satoshis

/-! ## The common rule -/

section judge

variable (protector : OverpaymentProtector) (type : SwapType) {expected actual : Nat}

/-- Insufficient when short of the expected amount, else up to the overpayment protector. -/
def judge (expected actual : Nat) (short : Prop) [Decidable short] : Verdict :=
  if short then .insufficient
  else if protector.isUnacceptableOverpay type expected actual then .overpaid
  else .accept

theorem judge_eq_insufficient {short : Prop} [Decidable short] :
    judge protector type expected actual short = .insufficient ↔ short := by
  unfold judge
  split
  · simp_all
  · split <;> simp_all

/-- The rule depends on the amounts only through what counts as short. -/
theorem judge_congr {short short' : Prop} [Decidable short] [Decidable short'] :
    judge protector type expected actual short = judge protector type expected actual short' ↔
      (short ↔ short') := by
  constructor
  · intro heq
    calc short ↔ judge protector type expected actual short = .insufficient :=
          (judge_eq_insufficient protector type).symm
      _ ↔ judge protector type expected actual short' = .insufficient := by rw [heq]
      _ ↔ short' := judge_eq_insufficient protector type
  · intro hiff
    unfold judge
    simp only [hiff]

theorem verdict_checkOverpayment (expected : Option Nat) :
    verdict (checkOverpayment protector type expected actual) =
      judge protector type (toNumber expected) actual False := by
  unfold checkOverpayment judge
  rw [if_neg not_false]
  split <;> rfl

/-- A check for a short amount followed by the overpayment check. -/
theorem verdict_check {short : Prop} [Decidable short] {expected : Option Nat} {e : AmountError}
    (he : verdict (some e) = .insufficient) :
    verdict (if short then some e else checkOverpayment protector type expected actual) =
      judge protector type (toNumber expected) actual short := by
  by_cases hshort : short
  · rw [if_pos hshort, he, eq_comm, judge_eq_insufficient]
    exact hshort
  · rw [if_neg hshort, verdict_checkOverpayment, judge_congr]
    exact (iff_false_intro hshort).symm

/-- Against nothing, everything is an overpayment of a submarine swap. -/
theorem submarine_overpay_zero :
    protector.isUnacceptableOverpay .submarine ((0 : Nat) : ℚ) actual = true ↔ 0 < actual := by
  unfold OverpaymentProtector.isUnacceptableOverpay
  rw [if_neg (by decide), Bool.or_eq_true, decide_eq_true_eq, decide_eq_true_eq, Nat.cast_zero,
    sub_zero, zero_mul]
  constructor
  · rintro (h | h)
    · have hslippage : (0 : ℚ) ≤ protector.getAllowedPositiveSlippage 0 := by
        unfold OverpaymentProtector.getAllowedPositiveSlippage
        rw [zero_mul, zero_div, Int.ceil_zero, Int.cast_zero]
        exact le_max_right _ _
      exact_mod_cast lt_of_le_of_lt hslippage h
    · exact_mod_cast h
  · intro h
    right
    exact_mod_cast h

end judge

/-! ## The rule in each nursery -/

section nurseries

variable (protector : OverpaymentProtector) (swap : LockedSwap) (amount : LockupAmount)

theorem verdict_insufficient (expected : Option Nat) (outputValue : Nat) :
    verdict (some (UtxoNursery.insufficient expected outputValue)) = .insufficient := by
  unfold UtxoNursery.insufficient
  split <;> rfl

theorem utxoVerdict_chain (expected : Nat) :
    utxoVerdict protector (.chain expected) amount =
      judge protector .chain expected amount.satoshis
        (amount.satoshis < expected ∨ amount.satoshis = 0) := by
  unfold utxoVerdict UtxoNursery.checkAmount UtxoNursery.checkChainSwapTransaction
  simp only [Bool.or_eq_true, decide_eq_true_eq]
  exact verdict_check protector .chain (verdict_insufficient _ _)

theorem utxoVerdict_submarine {expected : Option Nat} (hpos : 0 < toNumber expected) :
    utxoVerdict protector (.submarine expected) amount =
      judge protector .submarine (toNumber expected) amount.satoshis
        (amount.satoshis < toNumber expected) := by
  change verdict (UtxoNursery.checkSwapTransaction protector expected amount.satoshis) = _
  unfold UtxoNursery.checkSwapTransaction
  rw [if_pos (Nat.ne_of_gt hpos)]
  exact verdict_check protector .submarine (verdict_insufficient _ _)

/-- The amount of a submarine swap that expects nothing is not checked. -/
theorem utxoVerdict_unset {expected : Option Nat} (hzero : toNumber expected = 0) :
    utxoVerdict protector (.submarine expected) amount = .accept := by
  change verdict (UtxoNursery.checkSwapTransaction protector expected amount.satoshis) = _
  unfold UtxoNursery.checkSwapTransaction
  rw [if_neg (not_not.mpr hzero)]
  rfl

theorem shouldValidateAmount_unset {expected : Option Nat} (hzero : toNumber expected = 0) :
    EthereumNursery.shouldValidateAmount (.submarine expected) = none := by
  rcases expected with _ | expected
  · rfl
  · obtain rfl : expected = 0 := hzero
    rfl

/-- An amount to check against, unless a submarine swap expects nothing. -/
theorem shouldValidateAmount_eq (hswap : swap.type = .chain ∨ 0 < toNumber swap.expectedAmount) :
    EthereumNursery.shouldValidateAmount swap = some (toNumber swap.expectedAmount) := by
  rcases swap with (_ | expected) | expected
  · exact absurd hswap (by decide)
  · have hpos : 0 < expected := hswap.resolve_left SwapType.noConfusion
    unfold EthereumNursery.shouldValidateAmount
    refine Option.filter_eq_some_iff.mpr ⟨rfl, ?_⟩
    simpa [LockedSwap.type, LockedSwap.expectedAmount, toNumber] using hpos
  · rfl

theorem etherVerdict_eq (hswap : swap.type = .chain ∨ 0 < toNumber swap.expectedAmount) :
    etherVerdict protector swap amount =
      judge protector swap.type (toNumber swap.expectedAmount) amount.satoshis
        (amount.satoshis < toNumber swap.expectedAmount) := by
  unfold etherVerdict EthereumNursery.validateEtherSwapLockup
  rw [shouldValidateAmount_eq swap hswap]
  simp only [gt_iff_lt, lt_mul_etherDecimals, amount.wei_eq]
  exact verdict_check protector swap.type rfl

theorem tokenVerdict_eq (hswap : swap.type = .chain ∨ 0 < toNumber swap.expectedAmount)
    [Decidable (BetweenUnits amount.tokenDecimals (toNumber swap.expectedAmount) amount.tokens)] :
    tokenVerdict protector swap amount =
      judge protector swap.type (toNumber swap.expectedAmount) amount.satoshis
        (amount.satoshis < toNumber swap.expectedAmount ∧
          ¬BetweenUnits amount.tokenDecimals (toNumber swap.expectedAmount) amount.tokens) := by
  unfold tokenVerdict EthereumNursery.validateErc20SwapLockup
  rw [shouldValidateAmount_eq swap hswap]
  simp only [gt_iff_lt, lt_formatTokenAmount, amount.tokens_eq]
  exact verdict_check protector swap.type rfl

theorem unset_verdicts {expected : Option Nat} (hzero : toNumber expected = 0) :
    etherVerdict protector (.submarine expected) amount = .accept ∧
      tokenVerdict protector (.submarine expected) amount = .accept := by
  unfold etherVerdict tokenVerdict EthereumNursery.validateEtherSwapLockup
    EthereumNursery.validateErc20SwapLockup
  rw [shouldValidateAmount_unset hzero]
  exact ⟨rfl, rfl⟩

theorem arkVerdict_eq :
    arkVerdict protector swap amount =
      judge protector swap.type (toNumber swap.expectedAmount) amount.satoshis
        (amount.satoshis < toNumber swap.expectedAmount) := by
  unfold arkVerdict ArkNursery.checkAmount
  exact verdict_check protector swap.type rfl

/-- On Ark, an amount is accepted without an expected amount only when it is zero. -/
theorem arkVerdict_unset {expected : Option Nat} (hzero : toNumber expected = 0) :
    arkVerdict protector (.submarine expected) amount = .accept ↔ amount.satoshis = 0 := by
  rw [arkVerdict_eq]
  change judge protector .submarine (toNumber expected) _ (_ < toNumber expected) = _ ↔ _
  unfold judge
  rw [hzero, if_neg (Nat.not_lt_zero _)]
  by_cases hpos : 0 < amount.satoshis
  · rw [if_pos ((submarine_overpay_zero protector).mpr hpos)]
    exact iff_of_false (by decide) (Nat.ne_of_gt hpos)
  · rw [if_neg fun h => hpos ((submarine_overpay_zero protector).mp h)]
    exact iff_of_true rfl (Nat.eq_zero_of_not_pos hpos)

end nurseries

/-! ## Agreement -/

section agreement

variable (protector : OverpaymentProtector) (amount : LockupAmount)

theorem satoshis_lt_of_betweenUnits {expected : Nat}
    (h : BetweenUnits amount.tokenDecimals expected amount.tokens) : amount.satoshis < expected := by
  obtain ⟨hdecimals, hmore, -⟩ := h
  rw [← amount.tokens_eq, normalizeTokenAmount, if_neg (Nat.ne_of_lt hdecimals),
    if_neg (Nat.not_lt.mpr hdecimals.le)]
  exact hmore

theorem judgedAlike_unset {expected : Option Nat} (hzero : toNumber expected = 0) :
    JudgedAlike protector (.submarine expected) amount ↔ amount.satoshis = 0 := by
  obtain ⟨hether, htoken⟩ := unset_verdicts protector amount hzero
  have hutxo := utxoVerdict_unset protector amount hzero
  have hark := arkVerdict_unset protector amount hzero
  unfold JudgedAlike
  rw [hether, htoken, hutxo]
  constructor
  · rintro ⟨⟨-, -, heq⟩, -⟩
    exact hark.mp heq
  · intro h
    exact ⟨⟨rfl, rfl, hark.mpr h⟩, fun _ => ⟨rfl, rfl, rfl, hark.mpr h⟩⟩

theorem judgedAlike_submarine {expected : Option Nat} (hpos : 0 < toNumber expected) :
    JudgedAlike protector (.submarine expected) amount ↔
      ¬BetweenUnits amount.tokenDecimals (toNumber expected) amount.tokens := by
  classical
  have hnone : LockedSwap.submarine expected ≠ .submarine none := by
    rintro ⟨⟩
    exact absurd hpos (Nat.lt_irrefl 0)
  have hether : etherVerdict protector (.submarine expected) amount =
      judge protector .submarine (toNumber expected) amount.satoshis
        (amount.satoshis < toNumber expected) :=
    etherVerdict_eq protector (.submarine expected) amount (.inr hpos)
  have htoken : tokenVerdict protector (.submarine expected) amount =
      judge protector .submarine (toNumber expected) amount.satoshis
        (amount.satoshis < toNumber expected ∧
          ¬BetweenUnits amount.tokenDecimals (toNumber expected) amount.tokens) :=
    tokenVerdict_eq protector (.submarine expected) amount (.inr hpos)
  have hark : arkVerdict protector (.submarine expected) amount =
      judge protector .submarine (toNumber expected) amount.satoshis
        (amount.satoshis < toNumber expected) :=
    arkVerdict_eq protector (.submarine expected) amount
  unfold JudgedAlike
  rw [hether, htoken, utxoVerdict_submarine protector amount hpos, hark]
  simp only [judge_congr, true_and, and_true, hnone, false_implies]
  constructor
  · intro h hbetween
    exact (h.mpr (satoshis_lt_of_betweenUnits amount hbetween)).2 hbetween
  · exact fun h => and_iff_left h

theorem judgedAlike_chain (expected : Nat) :
    JudgedAlike protector (.chain expected) amount ↔
      (0 < expected ∨ 0 < amount.satoshis) ∧
        ¬BetweenUnits amount.tokenDecimals expected amount.tokens := by
  classical
  have hether : etherVerdict protector (.chain expected) amount =
      judge protector .chain expected amount.satoshis (amount.satoshis < expected) :=
    etherVerdict_eq protector (.chain expected) amount (.inl rfl)
  have htoken : tokenVerdict protector (.chain expected) amount =
      judge protector .chain expected amount.satoshis
        (amount.satoshis < expected ∧
          ¬BetweenUnits amount.tokenDecimals expected amount.tokens) :=
    tokenVerdict_eq protector (.chain expected) amount (.inl rfl)
  have hark : arkVerdict protector (.chain expected) amount =
      judge protector .chain expected amount.satoshis (amount.satoshis < expected) :=
    arkVerdict_eq protector (.chain expected) amount
  unfold JudgedAlike
  rw [hether, htoken, utxoVerdict_chain, hark]
  simp only [judge_congr]
  have hlt : BetweenUnits amount.tokenDecimals expected amount.tokens → amount.satoshis < expected :=
    satoshis_lt_of_betweenUnits amount
  constructor
  · rintro ⟨⟨hsats, htokens, -⟩, -⟩
    refine ⟨?_, fun hbetween => (htokens.mpr (.inl (hlt hbetween))).2 hbetween⟩
    by_contra hzero
    have hshort : amount.satoshis < expected := hsats.mpr (.inr (by omega))
    omega
  · rintro ⟨hpos, hbetween⟩
    have hsats : amount.satoshis < expected ↔ amount.satoshis < expected ∨ amount.satoshis = 0 := by
      omega
    exact ⟨⟨hsats, (and_iff_left hbetween).trans hsats, hsats⟩, nofun⟩

/-- The nurseries judge alike exactly when there are amounts to compare and the expected amount is
not between two amounts of the token. -/
theorem judged_alike_iff (swap : LockedSwap) :
    JudgedAlike protector swap amount ↔
      Comparable swap amount.satoshis ∧
        ¬BetweenUnits amount.tokenDecimals (toNumber swap.expectedAmount) amount.tokens := by
  cases swap with
  | chain expected => exact judgedAlike_chain protector amount expected
  | submarine expected =>
    change _ ↔ (0 < toNumber expected ∨ _) ∧
      ¬BetweenUnits amount.tokenDecimals (toNumber expected) amount.tokens
    rcases Nat.eq_zero_or_pos (toNumber expected) with hzero | hpos
    · rw [judgedAlike_unset protector amount hzero, hzero, or_iff_right (Nat.lt_irrefl 0)]
      refine (and_iff_left fun hbetween => ?_).symm
      exact absurd (satoshis_lt_of_betweenUnits amount hbetween) (Nat.not_lt_zero _)
    · rw [judgedAlike_submarine protector amount hpos]
      exact (and_iff_right (.inl hpos)).symm

/-- 1000 satoshis, on a chain with a token of 18 decimals. -/
def thousandSats : LockupAmount where
  satoshis := 1000
  wei := 10 ^ 13
  tokenDecimals := 18
  tokens := 10 ^ 13
  wei_eq := by decide
  tokens_eq := by decide

/-- A swap whose invoice is not set yet fails because of its amount on Ark only. -/
theorem unset_overpaid_on_ark :
    (ArkNursery.checkAmount {} (.submarine none) thousandSats.satoshis).map AmountError.message =
        some "locked 1000 is more than expected null" ∧
      utxoVerdict {} (.submarine none) thousandSats = .accept ∧
      etherVerdict {} (.submarine none) thousandSats = .accept ∧
      ¬JudgedAlike {} (.submarine none) thousandSats := by
  have hmessage : (ArkNursery.checkAmount {} (.submarine none) thousandSats.satoshis).map
      AmountError.message = some "locked 1000 is more than expected null" := by
    decide +kernel
  refine ⟨hmessage, utxoVerdict_unset {} thousandSats rfl, (unset_verdicts {} thousandSats rfl).1,
    fun h => absurd ((judgedAlike_unset {} thousandSats rfl).mp h) (by decide)⟩

end agreement

end Boltz.LockupAmounts

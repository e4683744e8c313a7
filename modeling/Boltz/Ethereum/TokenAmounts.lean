import Boltz.Ethereum.Commitments

/-!
# Amounts of tokens (`ERC20WalletProvider.ts`)

Amounts are kept in units of `10 ^ -8`. A token with fewer decimals cannot express all of them.
-/

namespace Boltz.Ethereum

/-- `formatTokenAmount` of the wallet of a token with the decimals. -/
def formatTokenAmount (decimals amount : Nat) : Nat :=
  if decimals = 8 then amount
  else if 8 < decimals then amount * 10 ^ (decimals - 8)
  else amount / 10 ^ (8 - decimals)

def normalizeTokenAmount (decimals amount : Nat) : Nat :=
  if decimals = 8 then amount
  else if 8 < decimals then amount / 10 ^ (decimals - 8)
  else amount * 10 ^ (8 - decimals)

/-- The amount is more than the tokens, but less than with one more of their units. -/
def BetweenUnits (decimals amount tokens : Nat) : Prop :=
  decimals < 8 ∧ tokens * 10 ^ (8 - decimals) < amount ∧
    amount < (tokens + 1) * 10 ^ (8 - decimals)

theorem lt_mul_etherDecimals (wei amount : Nat) :
    wei < amount * etherDecimals ↔ wei / etherDecimals < amount :=
  (Nat.div_lt_iff_lt_mul (by decide)).symm

section tokens

variable {decimals : Nat} (amount tokens : Nat)

theorem not_betweenUnits (h : 8 ≤ decimals) : ¬BetweenUnits decimals amount tokens :=
  fun hbetween => absurd hbetween.1 (Nat.not_lt.mpr h)

/-- Fewer tokens than the amount formats to. -/
theorem lt_formatTokenAmount :
    tokens < formatTokenAmount decimals amount ↔
      normalizeTokenAmount decimals tokens < amount ∧ ¬BetweenUnits decimals amount tokens := by
  unfold formatTokenAmount normalizeTokenAmount
  rcases Nat.lt_trichotomy decimals 8 with hlt | rfl | hgt
  · have hunit : 0 < 10 ^ (8 - decimals) := Nat.pow_pos (by decide)
    rw [if_neg (Nat.ne_of_lt hlt), if_neg (Nat.not_lt.mpr hlt.le), if_neg (Nat.ne_of_lt hlt),
      if_neg (Nat.not_lt.mpr hlt.le), Nat.lt_iff_add_one_le, Nat.le_div_iff_mul_le hunit]
    have hstep : tokens * 10 ^ (8 - decimals) < (tokens + 1) * 10 ^ (8 - decimals) :=
      Nat.mul_lt_mul_of_pos_right (Nat.lt_succ_self tokens) hunit
    constructor
    · intro hle
      exact ⟨by omega, fun hbetween => absurd hbetween.2.2 (Nat.not_lt.mpr hle)⟩
    · rintro ⟨hmore, hbetween⟩
      by_contra hless
      exact hbetween ⟨hlt, hmore, by omega⟩
  · simp [not_betweenUnits]
  · rw [if_neg (Nat.ne_of_gt hgt), if_pos hgt, if_neg (Nat.ne_of_gt hgt), if_pos hgt,
      Nat.div_lt_iff_lt_mul (Nat.pow_pos (by decide)),
      and_iff_left (not_betweenUnits amount tokens hgt.le)]

end tokens

end Boltz.Ethereum

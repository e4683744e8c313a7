import Boltz.Rates.SwapAmounts

/-!
# Amounts of reverse and chain swaps conserve value

What the user pays, converted to the outgoing currency, is what the server sends with both fees, up
to the roundings. The least amount that is enough for an outgoing amount is found, and it gives
that outgoing amount again up to the roundings.
-/

namespace Boltz

/-- The amounts of a swap, of either kind. -/
structure SwapAmounts where
  incoming : ℚ
  outgoing : ℚ
  percentageFee : ℤ
  deriving DecidableEq, Repr

/-- What is left of the converted incoming amount after the outgoing one and the fees. -/
def SwapAmounts.rest (a : SwapAmounts) (rate baseFee : ℚ) : ℚ :=
  a.incoming * rate - (a.outgoing + baseFee + a.percentageFee)

/-- The calculation of the amounts of a kind of swap, by the incoming and the outgoing amount. -/
abbrev Calculation : Type :=
  Option ℚ → Option ℚ → (rate feePercent baseFee : ℚ) → Option SwapAmounts

def reverseAmounts : Calculation := fun invoiceAmount onchainAmount rate feePercent baseFee =>
  (Service.calculateReverseSwapAmounts invoiceAmount onchainAmount rate feePercent
    baseFee).toOption.map fun a =>
      { incoming := a.holdInvoiceAmount, outgoing := a.onchainAmount
        percentageFee := a.percentageFee }

def chainAmounts : Calculation := fun userLockAmount serverLockAmount rate feePercent baseFee =>
  (Service.calculateChainSwapAmounts userLockAmount serverLockAmount rate feePercent
    baseFee).toOption.map fun a =>
      { incoming := a.userLockAmount, outgoing := a.serverLockAmount
        percentageFee := a.percentageFee }

structure OfIncoming (rate baseFee : ℚ) (amount : ℤ) (a : SwapAmounts) : Prop where
  given : a.incoming = amount
  rest_nonneg : 0 ≤ a.rest rate baseFee
  rest_lt : a.rest rate baseFee < 1

structure OfOutgoing (rate feePercent baseFee : ℚ) (amount : ℤ) (a : SwapAmounts) : Prop where
  given : a.outgoing = amount
  whole : ∃ n : ℤ, a.incoming = n
  enough : amount + baseFee ≤ a.incoming * rate * (1 - feePercent)
  least : ∀ n : ℤ, amount + baseFee ≤ n * rate * (1 - feePercent) → a.incoming ≤ n
  lt_rest : -1 < a.rest rate baseFee
  rest_lt : a.rest rate baseFee < rate * (1 - feePercent)

/-- A calculation conserves value in both modes, and the amount that the second finds for an
outgoing amount gives about that outgoing amount in the first. -/
structure Conserves (calculate : Calculation) (rate feePercent baseFee : ℚ) (amount : ℤ) :
    Prop where
  ofIncoming : ∃ a, calculate (some amount) none rate feePercent baseFee = some a ∧
    OfIncoming rate baseFee amount a
  ofOutgoing : ∃ a, calculate none (some amount) rate feePercent baseFee = some a ∧
    OfOutgoing rate feePercent baseFee amount a ∧
    ∃ again, calculate (some a.incoming) none rate feePercent baseFee = some again ∧
      amount - 1 ≤ again.outgoing ∧ again.outgoing < amount + rate * (1 - feePercent)

section

variable {rate feePercent baseFee : ℚ}

/-! ## Both calculations as one -/

def amountsOfIncoming (rate feePercent baseFee : ℚ) (amount : ℤ) : SwapAmounts :=
  let percentageFee := ⌈feePercent * (amount * rate)⌉
  { incoming := amount
    outgoing := ⌊amount * rate - (percentageFee + baseFee)⌋
    percentageFee := percentageFee }

def amountsOfOutgoing (rate feePercent baseFee : ℚ) (amount : ℤ) : SwapAmounts :=
  let incoming : ℤ := ⌈(amount + baseFee) / rate / (1 - feePercent)⌉
  { incoming := incoming
    outgoing := amount
    percentageFee := ⌈incoming * rate * feePercent⌉ }

/-- A calculation that is one of the two. -/
structure Calculates (calculate : Calculation) : Prop where
  ofIncoming : ∀ (amount : ℤ) (rate feePercent baseFee : ℚ),
    calculate (some amount) none rate feePercent baseFee =
      some (amountsOfIncoming rate feePercent baseFee amount)
  ofOutgoing : ∀ (amount : ℤ) (rate feePercent baseFee : ℚ),
    calculate none (some amount) rate feePercent baseFee =
      some (amountsOfOutgoing rate feePercent baseFee amount)

@[simp] theorem checkWholeNumber_intCast (amount : ℤ) :
    Service.checkWholeNumber (amount : ℚ) = .ok () := by
  simp [Service.checkWholeNumber]

theorem reverseAmounts_calculates : Calculates reverseAmounts where
  ofIncoming amount rate feePercent baseFee := by
    simp only [reverseAmounts, Service.calculateReverseSwapAmounts, checkWholeNumber_intCast]
    rfl
  ofOutgoing amount rate feePercent baseFee := by
    simp only [reverseAmounts, Service.calculateReverseSwapAmounts, checkWholeNumber_intCast]
    rfl

theorem chainAmounts_calculates : Calculates chainAmounts where
  ofIncoming amount rate feePercent baseFee := by
    simp only [chainAmounts, Service.calculateChainSwapAmounts, checkWholeNumber_intCast]
    rfl
  ofOutgoing amount rate feePercent baseFee := by
    simp only [chainAmounts, Service.calculateChainSwapAmounts, checkWholeNumber_intCast]
    rfl

/-! ## The roundings -/

theorem ofIncoming_amounts (amount : ℤ) :
    OfIncoming rate baseFee amount (amountsOfIncoming rate feePercent baseFee amount) := by
  have hle := Int.floor_le (amount * rate - (⌈feePercent * (amount * rate)⌉ + baseFee))
  have hlt := Int.lt_floor_add_one (amount * rate - (⌈feePercent * (amount * rate)⌉ + baseFee))
  refine ⟨rfl, ?_, ?_⟩ <;> simp only [SwapAmounts.rest, amountsOfIncoming] <;> linarith

/-- An amount is enough when it is at least the quotient that is rounded up. -/
theorem enough_iff (hrate : 0 < rate) (hfee : feePercent < 1) (amount : ℤ) (n : ℤ) :
    ⌈(amount + baseFee) / rate / (1 - feePercent)⌉ ≤ n ↔
      amount + baseFee ≤ n * rate * (1 - feePercent) := by
  have hshare : 0 < 1 - feePercent := sub_pos.mpr hfee
  rw [Int.ceil_le, div_le_iff₀ hshare, div_le_iff₀ hrate]
  constructor <;> intro h <;> linarith

theorem ofOutgoing_amounts (hrate : 0 < rate) (hfee : feePercent < 1) (amount : ℤ) :
    OfOutgoing rate feePercent baseFee amount
      (amountsOfOutgoing rate feePercent baseFee amount) := by
  have hshare : 0 < rate * (1 - feePercent) := mul_pos hrate (sub_pos.mpr hfee)
  have henough : ∀ n : ℤ, ⌈(amount + baseFee) / rate / (1 - feePercent)⌉ ≤ n ↔
      amount + baseFee ≤ n * rate * (1 - feePercent) := enough_iff hrate hfee amount
  simp only [amountsOfOutgoing]
  generalize ⌈(amount + baseFee) / rate / (1 - feePercent)⌉ = incoming at henough ⊢
  have hincoming := (henough incoming).mp (le_refl _)
  -- one unit less is not enough
  have hless : ((incoming - 1 : ℤ) : ℚ) * rate * (1 - feePercent) < amount + baseFee := by
    by_contra hle
    have := (henough (incoming - 1)).mpr (not_lt.mp hle)
    omega
  push_cast at hless
  have hceil := Int.le_ceil (incoming * rate * feePercent)
  have hceil' := Int.ceil_lt_add_one (incoming * rate * feePercent)
  refine ⟨rfl, ⟨incoming, rfl⟩, hincoming, fun n hn => ?_, ?_, ?_⟩
  · show (incoming : ℚ) ≤ n
    exact_mod_cast (henough n).mpr hn
  · simp only [SwapAmounts.rest]
    linarith
  · simp only [SwapAmounts.rest]
    linarith

/-- The percentage fee of the amount that was found is the same, so its rest is in the outgoing
amount now. -/
theorem outgoing_again (hrate : 0 < rate) (hfee : feePercent < 1) (amount incoming : ℤ)
    (hincoming : (amountsOfOutgoing rate feePercent baseFee amount).incoming = incoming) :
    amount - 1 ≤ (amountsOfIncoming rate feePercent baseFee incoming).outgoing ∧
      (amountsOfIncoming rate feePercent baseFee incoming).outgoing <
        amount + rate * (1 - feePercent) := by
  obtain ⟨-, -, -, -, hlt, hrest⟩ : OfOutgoing rate feePercent baseFee amount _ :=
    ofOutgoing_amounts hrate hfee amount
  simp only [SwapAmounts.rest, hincoming] at hlt hrest
  simp only [amountsOfOutgoing, Int.cast_inj] at hincoming hlt hrest
  rw [hincoming, mul_comm _ feePercent] at hlt hrest
  simp only [amountsOfIncoming]
  have hfloor := Int.floor_le (incoming * rate - (⌈feePercent * (incoming * rate)⌉ + baseFee))
  have hlower : amount - 1 ≤
      ⌊incoming * rate - (⌈feePercent * (incoming * rate)⌉ + baseFee)⌋ := by
    rw [Int.le_floor]
    push_cast
    linarith
  exact ⟨by exact_mod_cast hlower, by linarith⟩

theorem conserves_of_calculates {calculate : Calculation} (h : Calculates calculate)
    (hrate : 0 < rate) (hfee : feePercent < 1) (amount : ℤ) :
    Conserves calculate rate feePercent baseFee amount := by
  refine ⟨⟨_, h.ofIncoming amount _ _ _, ofIncoming_amounts amount⟩,
    ⟨_, h.ofOutgoing amount _ _ _, ofOutgoing_amounts hrate hfee amount, ?_⟩⟩
  have houtgoing : OfOutgoing rate feePercent baseFee amount _ :=
    ofOutgoing_amounts hrate hfee amount
  obtain ⟨incoming, hincoming⟩ := houtgoing.whole
  rw [hincoming]
  exact ⟨_, h.ofIncoming incoming _ _ _, outgoing_again hrate hfee amount incoming hincoming⟩

end

/-- Both calculations conserve value, and they agree. -/
theorem amounts_conserve_value {rate feePercent : ℚ} (hrate : 0 < rate) (hfee : feePercent < 1)
    (baseFee : ℚ) (amount : ℤ) :
    Conserves reverseAmounts rate feePercent baseFee amount ∧
      Conserves chainAmounts rate feePercent baseFee amount ∧
      reverseAmounts (some amount) none rate feePercent baseFee =
        chainAmounts (some amount) none rate feePercent baseFee ∧
      reverseAmounts none (some amount) rate feePercent baseFee =
        chainAmounts none (some amount) rate feePercent baseFee := by
  have hr := reverseAmounts_calculates
  have hc := chainAmounts_calculates
  refine ⟨conserves_of_calculates hr hrate hfee amount,
    conserves_of_calculates hc hrate hfee amount, ?_, ?_⟩
  · rw [hr.ofIncoming, hc.ofIncoming]
  · rw [hr.ofOutgoing, hc.ofOutgoing]

/-- A hundred thousand units at a rate of one third, with half a percent and 300 units. -/
theorem amounts_conserve_value_third :
    (0 : ℚ) < 1 / 3 ∧ (1 / 200 : ℚ) < 1 ∧
      Conserves reverseAmounts (1 / 3) (1 / 200) 300 100000 :=
  ⟨by norm_num, by norm_num, (amounts_conserve_value (by norm_num) (by norm_num) 300 100000).1⟩

end Boltz

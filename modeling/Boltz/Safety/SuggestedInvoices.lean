import Boltz.Safety.ExtraFees

/-!
# Suggested invoice amounts are accepted

For a lockup there are two suggestions of an invoice amount, by `getSwapRates` and by the error of
an invoice that is too large. Both divide by the percentage of the pair, without an extra
percentage, and the error takes the rate of the sell side the other way round.
-/

namespace Boltz

/-- The percentages of a swap with an optional extra fee, as a share. -/
def shareWith (base : ℚ) : Option ℚ → ℚ
  | none => base
  | some extra => totalShare base extra

/-- A swap with its rate, side and fees. Miner fees are whole. -/
structure HasTerms (cfg : RateConfig) (swap : LockedSwap) (rate base : ℚ) (baseFee : ℕ)
    (side : OrderSide) : Prop where
  rate_eq : swap.rate = rate
  side_eq : swap.orderSide = side
  percentage_eq : cfg.feeProvider.getPercentageFee swap.pair side .submarine .calculation
    swap.referral = base
  baseFee_eq : cfg.feeProvider.getBaseFee (getChainCurrency swap.pair side false) swap.version
    .normalClaim = baseFee

/-- An invoice of the amount is not rejected for the amount. -/
def Fits (cfg : RateConfig) (swap : LockedSwap) (extra : Option ℚ) (amount : ℤ) : Prop :=
  ∀ fees, Service.invoiceFees cfg swap swap.rate amount extra = .ok fees →
    SwapManager.expectedAmount amount swap.rate fees.baseFee fees.percentageFee
      ((fees.extraFee.getD 0 : ℤ) : ℚ) ≤ swap.onchainAmount

def SuggestionsFit (rate base : ℚ) (extra : Option ℚ) (side : OrderSide) : Prop :=
  ∀ cfg rp swap baseFee suggested, HasTerms cfg swap rate base baseFee side →
    baseFee ≤ swap.onchainAmount → Service.getSwapRates cfg rp swap = .ok suggested →
      Fits cfg swap extra suggested

def ReportsFit (rate base : ℚ) (extra : Option ℚ) (side : OrderSide) : Prop :=
  ∀ cfg rp swap baseFee (amount : ℤ) verifyMinimum maximal,
    HasTerms cfg swap rate base baseFee side → baseFee ≤ swap.onchainAmount →
      Service.setSwapInvoice cfg rp swap amount extra verifyMinimum =
        .error (.invalidInvoiceAmount maximal) →
      Fits cfg swap extra maximal

/-- A lockup below the base fee pays for no invoice. -/
def NothingFits (rate base : ℚ) (extra : Option ℚ) (side : OrderSide) : Prop :=
  ∀ cfg swap baseFee, HasTerms cfg swap rate base baseFee side → swap.onchainAmount < baseFee →
    ∀ amount : ℕ, ¬Fits cfg swap extra amount

/-- What the maximal amount of the error divides or multiplies the lockup with. -/
def reportedFactor (side : OrderSide) (rate : ℚ) : ℚ :=
  match side with
  | .buy => 1 / rate
  | .sell => rate

section

variable {rate base : ℚ} {extra : Option ℚ} {side : OrderSide} {cfg : RateConfig}
  {swap : LockedSwap} {baseFee : ℕ}

/-! ## What an invoice costs -/

theorem invoiceFees_eq (hterms : HasTerms cfg swap rate base baseFee side)
    (hextra : ∀ percentage ∈ extra, 0 ≤ percentage) (amount : ℤ) :
    ∃ fees, Service.invoiceFees cfg swap swap.rate amount extra = .ok fees ∧
      fees.baseFee = baseFee ∧ fees.percentageFeeRate = base ∧
      fees.percentageFee + fees.extraFee.getD 0 = ⌈shareWith base extra * (amount * rate)⌉ := by
  obtain ⟨rfl, rfl, hpercentage, hbaseFee⟩ := hterms
  have hside : (SwapType.submarine == SwapType.reverseSubmarine) = false := rfl
  cases extra with
  | none =>
    refine ⟨_, rfl, hbaseFee, hpercentage, ?_⟩
    simp only [hpercentage, shareWith, Option.getD_none, add_zero, mul_assoc]
  | some percentage =>
    have hnonneg := hextra percentage rfl
    simp only [Service.invoiceFees, FeeProvider.getFees, hpercentage, hside, hbaseFee,
      calculateTotal_eq hnonneg, bind, Except.bind, pure, Except.pure, mathRound_intCast]
    refine ⟨_, rfl, rfl, rfl, ?_⟩
    simp only [shareWith, Option.getD_some, mul_assoc]
    ring

theorem fits_iff (hterms : HasTerms cfg swap rate base baseFee side)
    (hextra : ∀ percentage ∈ extra, 0 ≤ percentage) (amount : ℤ) :
    Fits cfg swap extra amount ↔
      ⌊amount * rate⌋ + ⌈shareWith base extra * (amount * rate)⌉ + (baseFee : ℤ) ≤
        swap.onchainAmount := by
  obtain ⟨fees, hfees, hbaseFee, -, hsum⟩ := invoiceFees_eq hterms hextra amount
  have hexpected : SwapManager.expectedAmount amount swap.rate fees.baseFee fees.percentageFee
      ((fees.extraFee.getD 0 : ℤ) : ℚ) =
      ((⌊amount * rate⌋ + ⌈shareWith base extra * (amount * rate)⌉ + (baseFee : ℤ) : ℤ) : ℚ) := by
    rw [← hsum, SwapManager.expectedAmount, hbaseFee, hterms.rate_eq]
    push_cast
    ring
  unfold Fits
  rw [hfees]
  constructor
  · intro h
    have hle := h fees rfl
    rw [hexpected] at hle
    exact_mod_cast hle
  · intro h fees' hfees'
    cases hfees'
    rw [hexpected]
    exact_mod_cast h

theorem shareWith_ge (hbase : -1 < base) (hextra : ∀ percentage ∈ extra, 0 ≤ percentage) :
    -1 ≤ shareWith base extra := by
  cases extra with
  | none => exact hbase.le
  | some percentage =>
    have hpercentage := hextra percentage rfl
    have hround : -10000 ≤ mathRound (base * 10000) := by
      unfold mathRound
      rw [Int.le_floor]
      push_cast
      linarith
    have hround' : 0 ≤ mathRound (percentage * 100) := Int.floor_nonneg.mpr (by linarith)
    simp only [shareWith, totalShare]
    rw [le_div_iff₀ (by norm_num)]
    have : (-10000 : ℚ) ≤ ((mathRound (base * 10000) + mathRound (percentage * 100) : ℤ) : ℚ) := by
      exact_mod_cast by omega
    linarith

/-! ## The roundings -/

/-- The floor of the amount and the ceiling of its fee stay below a whole number together. -/
theorem floor_add_ceil_le {y share : ℚ} {lockup : ℤ} (h : y * (1 + share) ≤ lockup) :
    ⌊y⌋ + ⌈share * y⌉ ≤ lockup := by
  have hceil : ⌈share * y⌉ ≤ lockup - ⌊y⌋ := by
    rw [Int.ceil_le]
    push_cast
    have := Int.floor_le y
    linarith
  omega

theorem le_floor_add_ceil {y share : ℚ} (hy : 0 ≤ y) (hshare : -1 ≤ share) :
    0 ≤ ⌊y⌋ + ⌈share * y⌉ := by
  have hceil : -⌊y⌋ ≤ ⌈share * y⌉ := by
    have hle : -y ≤ share * y := by nlinarith
    calc -⌊y⌋ = ⌈-y⌉ := (Int.ceil_neg).symm
      _ ≤ ⌈share * y⌉ := Int.ceil_le_ceil hle
  omega

/-- The amount for a lockup without its base fee, when the factor converts it. -/
def amountFor (factor base : ℚ) (lockup : ℤ) : ℤ := ⌊lockup * factor / (1 + base)⌋

theorem amountFor_nonneg {factor : ℚ} (hbase : -1 < base) (hfactor : 0 ≤ factor) {lockup : ℤ}
    (hlockup : 0 ≤ lockup) : 0 ≤ amountFor factor base lockup := by
  have hleft : 0 ≤ 1 + base := by linarith
  have hlockupQ : (0 : ℚ) ≤ lockup := by exact_mod_cast hlockup
  unfold amountFor
  exact Int.floor_nonneg.mpr (div_nonneg (mul_nonneg hlockupQ hfactor) hleft)

theorem amountFor_fits {factor share : ℚ} (hrate : 0 < rate) (hbase : -1 < base)
    (hshare : -1 ≤ share) (hfactor : rate * factor * (1 + share) ≤ 1 + base) {lockup : ℤ}
    (hlockup : 0 ≤ lockup) :
    ⌊amountFor factor base lockup * rate⌋ + ⌈share * (amountFor factor base lockup * rate)⌉ ≤
      lockup := by
  have hleft : 0 < 1 + base := by linarith
  have hfloor := Int.floor_le ((lockup : ℚ) * factor / (1 + base))
  have hlockupQ : (0 : ℚ) ≤ lockup := by exact_mod_cast hlockup
  refine floor_add_ceil_le ?_
  unfold amountFor
  calc (⌊(lockup : ℚ) * factor / (1 + base)⌋ : ℚ) * rate * (1 + share)
      ≤ lockup * factor / (1 + base) * rate * (1 + share) := by
        have hshare' : 0 ≤ 1 + share := by linarith
        gcongr
    _ = lockup * (rate * factor * (1 + share) / (1 + base)) := by ring
    _ ≤ lockup * 1 := mul_le_mul_of_nonneg_left ((div_le_one hleft).mpr hfactor) hlockupQ
    _ = lockup := mul_one _

/-- Otherwise there is a lockup at which nothing is rounded, and the amount costs more. -/
theorem exists_not_fits {factor share : ℚ} (hrate : 0 < rate) (hbase : -1 < base)
    (hfactor : factor = rate ∨ factor = 1 / rate)
    (hgt : 1 + base < rate * factor * (1 + share)) :
    ∃ lockup : ℕ, 0 < lockup ∧ 0 ≤ amountFor factor base lockup ∧
      (lockup : ℤ) < ⌊amountFor factor base lockup * rate⌋ +
        ⌈share * (amountFor factor base lockup * rate)⌉ := by
  have hleft : 0 < 1 + base := by linarith
  have hnum : 0 < rate.num := Rat.num_pos.mpr hrate
  have hfactorPos : 0 < factor := by
    rcases hfactor with rfl | rfl
    · exact hrate
    · positivity
  -- the denominators of all quotients
  obtain ⟨k, hk, ⟨converted, hconverted⟩, lockup, hlockup⟩ :
      ∃ k : ℤ, 0 < k ∧ (∃ n : ℤ, (k : ℚ) * rate = n) ∧ ∃ n : ℤ, k * (1 + base) / factor = n := by
    have hden : (0 : ℚ) < base.den := by exact_mod_cast base.den_pos
    have hrateDen : (0 : ℚ) < rate.den := by exact_mod_cast rate.den_pos
    have hrateNum : rate * rate.den = rate.num := Rat.mul_den_eq_num rate
    have hbaseNum : base * base.den = base.num := Rat.mul_den_eq_num base
    refine ⟨base.den * rate.num * rate.den, ?_, ⟨base.den * rate.num * rate.num, ?_⟩, ?_⟩
    · have hden' : (0 : ℤ) < base.den := by exact_mod_cast base.den_pos
      have hrateDen' : (0 : ℤ) < rate.den := by exact_mod_cast rate.den_pos
      positivity
    · push_cast
      rw [← hrateNum]
      ring
    · rcases hfactor with heq | heq <;> rw [heq]
      · refine ⟨(base.den + base.num) * rate.den * rate.den, ?_⟩
        rw [div_eq_iff hrate.ne']
        push_cast
        rw [← hrateNum, ← hbaseNum]
        ring
      · refine ⟨(base.den + base.num) * rate.num * rate.num, ?_⟩
        rw [div_div_eq_mul_div, div_one]
        push_cast
        rw [← hrateNum, ← hbaseNum]
        ring
  have hkQ : (0 : ℚ) < k := by exact_mod_cast hk
  have hpos : (0 : ℚ) < lockup := by
    rw [← hlockup]
    positivity
  have hposZ : 0 < lockup := by exact_mod_cast hpos
  have hamount : amountFor factor base lockup = k := by
    unfold amountFor
    rw [← hlockup, div_mul_cancel₀ _ hfactorPos.ne', mul_div_assoc, div_self hleft.ne', mul_one,
      Int.floor_intCast]
  refine ⟨lockup.toNat, by omega, ?_, ?_⟩
  · rw [Int.toNat_of_nonneg hposZ.le, hamount]
    exact hk.le
  · rw [Int.toNat_of_nonneg hposZ.le, hamount, hconverted, Int.floor_intCast]
    have hceil := Int.le_ceil (share * (converted : ℚ))
    have hlt : (lockup : ℚ) < converted * (1 + share) := by
      rw [← hconverted, ← hlockup, div_lt_iff₀ hfactorPos]
      calc (k : ℚ) * (1 + base) < k * (rate * factor * (1 + share)) :=
            mul_lt_mul_of_pos_left hgt hkQ
        _ = k * rate * (1 + share) * factor := by ring
    have hsum : (lockup : ℚ) < ((converted + ⌈share * (converted : ℚ)⌉ : ℤ) : ℚ) := by
      push_cast
      linarith
    exact_mod_cast hsum

/-! ## Both suggestions -/

theorem suggested_eq {rp : RateProvider} {suggested : ℤ}
    (hterms : HasTerms cfg swap rate base baseFee side)
    (h : Service.getSwapRates cfg rp swap = .ok suggested) :
    suggested = amountFor (1 / rate) base (swap.onchainAmount - baseFee) := by
  obtain ⟨rfl, rfl, hpercentage, hbaseFee⟩ := hterms
  unfold Service.getSwapRates at h
  split at h
  · cases h
  · obtain ⟨-, -, h⟩ := bind_eq_ok.mp h
    obtain ⟨-, -, h⟩ := bind_eq_ok.mp h
    cases h
    rw [swapRatesInvoiceAmount_eq, hpercentage, hbaseFee]
    simp only [conversion, amountFor]
    push_cast
    rfl

theorem calculateInvoiceAmount_eq (side : OrderSide) (rate onchainAmount baseFee base : ℚ) :
    SwapManager.calculateInvoiceAmount side rate onchainAmount baseFee base =
      ⌊(onchainAmount - baseFee) * reportedFactor side rate / (1 + base)⌋ := by
  cases side <;> rfl

theorem invoiceRate_eq (hrate : 0 < rate) (pairRate : ℚ) :
    Service.invoiceRate (some rate) pairRate side = rate := by
  simp [Service.invoiceRate, configuredOr, hrate.ne']

theorem reported_eq {rp : RateProvider} {amount maximal : ℤ} {verifyMinimum : Bool}
    (hrate : 0 < rate) (hextra : ∀ percentage ∈ extra, 0 ≤ percentage)
    (hterms : HasTerms cfg swap rate base baseFee side)
    (h : Service.setSwapInvoice cfg rp swap amount extra verifyMinimum =
      .error (.invalidInvoiceAmount maximal)) :
    maximal = max (amountFor (reportedFactor side rate) base (swap.onchainAmount - baseFee)) 0 := by
  obtain ⟨fees, hfees, hbaseFee, hpercentage, -⟩ := invoiceFees_eq hterms hextra amount
  obtain ⟨rfl, rfl, -, -⟩ := hterms
  unfold Service.setSwapInvoice at h
  cases hpair : Service.getPair cfg rp swap.pair swap.orderSide swap.version .submarine
      swap.referral with
  | error e =>
    rw [hpair] at h
    cases h
  | ok found =>
    simp only [hpair, Except.mapError, bind, Except.bind, invoiceRate_eq hrate, hfees] at h
    split at h
    · rename_i e heq
      split at heq
      · cases heq
        cases h
      · cases heq
    · unfold SwapManager.checkExpectedAmount at h
      simp only at h
      split at h
      · cases h
        rw [calculateInvoiceAmount_eq, hbaseFee, hpercentage]
        simp only [amountFor]
        push_cast
        rfl
      · cases h

/-! ## Runs in which nothing else is rejected -/

/-- A lockup of a pair without base fee. -/
def fullLockup (rate : ℚ) (side : OrderSide) (lockup : ℕ) : LockedSwap :=
  { pair := bitcoinLitecoin
    orderSide := side
    version := .taproot
    rate := rate
    onchainAmount := lockup
    referral := none }

theorem fullLockup_terms (rate base maximal : ℚ) (side : OrderSide) (lockup : ℕ) :
    HasTerms (pairWithFees base 0 0 maximal) (fullLockup rate side lockup) rate base 0 side :=
  ⟨rfl, rfl, pairWithFees_percentage base 0 0 maximal side .submarine, by
    simp [FeeProvider.getBaseFee, pairWithFees]⟩

/-- Limits that allow an amount, before and after its conversion. -/
def maximalFor (rate : ℚ) (amount : ℤ) : ℚ := max amount ⌊amount * rate⌋

theorem getPair_provider (cfg : RateConfig) (rate maximal : ℚ) (side : OrderSide) :
    Service.getPair cfg (providerWithRate rate maximal) bitcoinLitecoin side .taproot .submarine
      none = .ok { rate := rate, limits := { minimal := 0, maximal := maximal } } := rfl

theorem verifyAmount_ok (cfg : RateConfig) (rate converted : ℚ) (side : OrderSide) (amount : ℤ) :
    Service.verifyAmount cfg (providerWithRate rate (maximalFor converted amount)) bitcoinLitecoin
      converted amount side .taproot .submarine none false = .ok () := by
  have hle : ¬((⌊(amount : ℚ)⌋ : ℤ) : ℚ) > maximalFor converted amount := by
    rw [Int.floor_intCast]
    exact not_lt.mpr (le_max_left _ _)
  have hle' : ¬((⌊((⌊amount * converted⌋ : ℤ) : ℚ)⌋ : ℤ) : ℚ) > maximalFor converted amount := by
    rw [Int.floor_intCast]
    exact not_lt.mpr (le_max_right _ _)
  have hminimal : ∀ p : Prop, ¬((false : Bool) = true ∧ p) := fun p h => nomatch h.1
  unfold Service.verifyAmount
  rw [getPair_provider]
  cases side
  · exact (if_neg hle').trans (if_neg (hminimal _))
  · exact (if_neg hle).trans (if_neg (hminimal _))

theorem getSwapRates_of_verified {rp : RateProvider} {suggested : ℤ}
    (hterms : HasTerms cfg swap rate base baseFee side) (hlockup : swap.onchainAmount ≠ 0)
    (hsuggested : Service.swapRatesInvoiceAmount side rate swap.onchainAmount baseFee base =
      suggested)
    (hminimum : Service.verifySubmarineOnchainMinimum cfg rp swap = .ok ())
    (hamount : Service.verifyAmount cfg rp swap.pair (getRate rate side false) suggested side
      swap.version .submarine swap.referral false = .ok ()) :
    Service.getSwapRates cfg rp swap = .ok suggested := by
  obtain ⟨rfl, rfl, hpercentage, hbaseFee⟩ := hterms
  simp only [Service.getSwapRates, if_neg hlockup, hpercentage, hbaseFee, hminimum, hsuggested,
    hamount, Except.mapError, bind, Except.bind, pure, Except.pure]

theorem getSwapRates_fullLockup (rate base : ℚ) (side : OrderSide) {lockup : ℕ}
    (hlockup : 0 < lockup) :
    ∃ maximal, Service.getSwapRates (pairWithFees base 0 0 0) (providerWithRate rate maximal)
      (fullLockup rate side lockup) = .ok (amountFor (1 / rate) base lockup) := by
  refine ⟨maximalFor (getRate rate side false) (amountFor (1 / rate) base lockup),
    getSwapRates_of_verified (fullLockup_terms rate base 0 side lockup) (Nat.ne_of_gt hlockup) ?_
      ?_ (verifyAmount_ok _ _ _ _ _)⟩
  · rw [swapRatesInvoiceAmount_eq]
    simp only [conversion, amountFor, fullLockup]
    push_cast
    rw [sub_zero]
  · have hnonneg : ¬(lockup : ℚ) < 0 := not_lt.mpr (Nat.cast_nonneg lockup)
    exact if_neg hnonneg

theorem setSwapInvoice_fullLockup (hrate : 0 < rate)
    (hextra : ∀ percentage ∈ extra, 0 ≤ percentage) (side : OrderSide) {lockup : ℕ}
    (hlockup : 0 < lockup) {amount : ℤ}
    (hnot : ¬Fits (pairWithFees base 0 0 0) (fullLockup rate side lockup) extra amount) :
    ∃ maximal, Service.setSwapInvoice (pairWithFees base 0 0 0) (providerWithRate rate maximal)
      (fullLockup rate side lockup) amount extra false =
        .error (.invalidInvoiceAmount
          (max (amountFor (reportedFactor side rate) base lockup) 0)) := by
  have hterms := fullLockup_terms rate base 0 side lockup
  obtain ⟨fees, hfees, hbaseFee, hpercentage, -⟩ := invoiceFees_eq hterms hextra amount
  have hgt : (lockup : ℚ) < SwapManager.expectedAmount amount rate fees.baseFee
      fees.percentageFee ((fees.extraFee.getD 0 : ℤ) : ℚ) := by
    by_contra hle
    refine hnot fun fees' hfees' => ?_
    rw [hfees] at hfees'
    cases hfees'
    exact not_lt.mp hle
  refine ⟨maximalFor rate amount, ?_⟩
  have hfees' : Service.invoiceFees (pairWithFees base 0 0 0) (fullLockup rate side lockup) rate
      amount extra = .ok fees := hfees
  have hverify := verifyAmount_ok (pairWithFees base 0 0 0) rate rate side amount
  simp only [Service.setSwapInvoice, fullLockup, getPair_provider, invoiceRate_eq hrate, hverify,
    Except.mapError, bind, Except.bind] at hfees' ⊢
  rw [hfees']
  simp only [SwapManager.checkExpectedAmount]
  rw [if_pos ⟨Nat.ne_of_gt hlockup, hgt⟩, calculateInvoiceAmount_eq, hbaseFee, hpercentage]
  simp only [amountFor]
  push_cast
  rw [sub_zero]

/-! ## When the suggestions fit -/

theorem fits_amountFor {factor : ℚ} (hrate : 0 < rate) (hbase : -1 < base)
    (hextra : ∀ percentage ∈ extra, 0 ≤ percentage)
    (hfactor : rate * factor * (1 + shareWith base extra) ≤ 1 + base)
    (hterms : HasTerms cfg swap rate base baseFee side) (hcovered : baseFee ≤ swap.onchainAmount) :
    Fits cfg swap extra (amountFor factor base (swap.onchainAmount - baseFee)) := by
  have hlockup : 0 ≤ (swap.onchainAmount : ℤ) - baseFee := by omega
  have hle := amountFor_fits hrate hbase (shareWith_ge hbase hextra) hfactor hlockup
  rw [fits_iff hterms hextra]
  omega

theorem exists_lockup_not_fits {factor : ℚ} (hrate : 0 < rate) (hbase : -1 < base)
    (hextra : ∀ percentage ∈ extra, 0 ≤ percentage) (side : OrderSide)
    (hfactor : factor = rate ∨ factor = 1 / rate)
    (hgt : 1 + base < rate * factor * (1 + shareWith base extra)) :
    ∃ lockup : ℕ, 0 < lockup ∧ 0 ≤ amountFor factor base lockup ∧
      ¬Fits (pairWithFees base 0 0 0) (fullLockup rate side lockup) extra
        (amountFor factor base lockup) := by
  obtain ⟨lockup, hpos, hamount, hlt⟩ := exists_not_fits hrate hbase hfactor hgt
  refine ⟨lockup, hpos, hamount, fun hfits => ?_⟩
  have hle := (fits_iff (fullLockup_terms rate base 0 side lockup) hextra _).mp hfits
  simp only [fullLockup] at hle
  omega

theorem suggestionsFit_iff (hrate : 0 < rate) (hbase : -1 < base)
    (hextra : ∀ percentage ∈ extra, 0 ≤ percentage) (side : OrderSide) :
    SuggestionsFit rate base extra side ↔ shareWith base extra ≤ base := by
  have hone : rate * (1 / rate) = 1 := mul_one_div_cancel hrate.ne'
  constructor
  · intro h
    by_contra hgt
    obtain ⟨lockup, hpos, -, hnot⟩ := exists_lockup_not_fits hrate hbase hextra side (.inr rfl)
      (by rw [hone]; linarith)
    obtain ⟨maximal, hrun⟩ := getSwapRates_fullLockup rate base side hpos
    exact hnot (h _ _ _ 0 _ (fullLockup_terms rate base 0 side lockup) (Nat.zero_le _) hrun)
  · intro hle cfg rp swap baseFee suggested hterms hcovered hrun
    rw [suggested_eq hterms hrun]
    refine fits_amountFor hrate hbase hextra ?_ hterms hcovered
    rw [hone]
    linarith

theorem reportsFit_iff (hrate : 0 < rate) (hbase : -1 < base)
    (hextra : ∀ percentage ∈ extra, 0 ≤ percentage) (side : OrderSide) :
    ReportsFit rate base extra side ↔
      rate * reportedFactor side rate * (1 + shareWith base extra) ≤ 1 + base := by
  have hfactor : reportedFactor side rate = rate ∨ reportedFactor side rate = 1 / rate := by
    cases side
    · exact .inr rfl
    · exact .inl rfl
  constructor
  · intro h
    by_contra hgt
    obtain ⟨lockup, hpos, hamount, hnot⟩ := exists_lockup_not_fits hrate hbase hextra side hfactor
      (not_le.mp hgt)
    -- the amount that is reported is submitted to begin with
    obtain ⟨maximal, hrun⟩ := setSwapInvoice_fullLockup hrate hextra side hpos hnot
    rw [max_eq_left hamount] at hrun
    exact hnot (h _ _ _ 0 _ _ _ (fullLockup_terms rate base 0 side lockup) (Nat.zero_le _) hrun)
  · intro hle cfg rp swap baseFee amount verifyMinimum maximal hterms hcovered hrun
    have hpos : 0 ≤ reportedFactor side rate := by
      rcases hfactor with heq | heq <;> rw [heq] <;> positivity
    have hnonneg := amountFor_nonneg hbase hpos
      (show 0 ≤ (swap.onchainAmount : ℤ) - baseFee by omega)
    rw [reported_eq hrate hextra hterms hrun, max_eq_left hnonneg]
    exact fits_amountFor hrate hbase hextra hle hterms hcovered

theorem nothingFits (hrate : 0 < rate) (hbase : -1 < base)
    (hextra : ∀ percentage ∈ extra, 0 ≤ percentage) (side : OrderSide) :
    NothingFits rate base extra side := by
  intro cfg swap baseFee hterms hlt amount hfits
  have hle := (fits_iff hterms hextra amount).mp hfits
  have hcost : (0 : ℚ) ≤ (amount : ℤ) * rate := by positivity
  have hsum := le_floor_add_ceil hcost (shareWith_ge hbase hextra)
  omega

end

/-- When the suggestions of `getSwapRates` and of the error fit, for lockups that cover the base
fee. -/
theorem suggested_amounts_fit_iff {rate base : ℚ} {extra : Option ℚ} (hrate : 0 < rate)
    (hbase : -1 < base) (hextra : ∀ percentage ∈ extra, 0 ≤ percentage) (side : OrderSide) :
    (SuggestionsFit rate base extra side ↔ shareWith base extra ≤ base) ∧
      (ReportsFit rate base extra side ↔
        rate * reportedFactor side rate * (1 + shareWith base extra) ≤ 1 + base) ∧
      NothingFits rate base extra side :=
  ⟨suggestionsFit_iff hrate hbase hextra side, reportsFit_iff hrate hbase hextra side,
    nothingFits hrate hbase hextra side⟩

/-- At a rate of 1/250 and half a percent, without an extra fee, both suggestions fit. -/
theorem suggested_amounts_fit_litecoin :
    SuggestionsFit (1 / 250) (1 / 200) none .buy ∧ ReportsFit (1 / 250) (1 / 200) none .buy := by
  obtain ⟨hsuggestions, hreports, -⟩ := @suggested_amounts_fit_iff (1 / 250) (1 / 200) none
    (by norm_num) (by norm_num) (fun _ h => nomatch h) .buy
  exact ⟨hsuggestions.mpr (le_refl _), hreports.mpr (by norm_num [reportedFactor, shareWith])⟩

/-- With an extra percentage both suggestions for a lockup of 101000 are rejected. On the sell side,
at 250 units of the lockup for one of the invoice, the error for an invoice of 5 reports 250000. -/
theorem suggested_amounts_rejected :
    (Service.getSwapRates (pairWithFees (1 / 100) 0 0 0) (providerWithRate 1 200000)
        (fullLockup 1 .buy 101000) = .ok 100000 ∧
      Service.setSwapInvoice (pairWithFees (1 / 100) 0 0 0) (providerWithRate 1 200000)
        (fullLockup 1 .buy 101000) 100000 (some 1) false =
          .error (.invalidInvoiceAmount 100000)) ∧
      Service.setSwapInvoice (pairWithFees 0 0 0 0) (providerWithRate (1 / 250) 1000000)
        (fullLockup 250 .sell 1000) 5 none false = .error (.invalidInvoiceAmount 250000) ∧
      Service.setSwapInvoice (pairWithFees 0 0 0 0) (providerWithRate (1 / 250) 1000000)
        (fullLockup 250 .sell 1000) 250000 none false =
          .error (.invalidInvoiceAmount 250000) := by
  decide +kernel

end Boltz

import Boltz.Safety.ConservedAmounts
import Mathlib.Algebra.Order.Archimedean.Basic

/-!
# Extra fees of all kinds of swaps

An extra fee is the difference of two calculations, with the percentage of the pair and with the
sum of both percentages. The sum is made of percentages that are rounded to two decimals, and when
the outgoing amount is given the difference is one of incoming amounts.
-/

namespace Boltz

/-- Where an extra fee is calculated, and which amount is given. -/
inductive FeeCalculation where
  | submarine
  | reverse (outgoingGiven : Bool)
  | chain (outgoingGiven : Bool)
  | quote
  deriving DecidableEq, Repr

def FeeCalculation.outgoingGiven : FeeCalculation → Bool
  | .submarine | .quote => false
  | .reverse given | .chain given => given

/-- What is stored for a swap with an extra fee. All amounts are in units of the stored percentage
fee: of the incoming currency of a submarine swap, of the outgoing one of the others. -/
@[ext] structure StoredFees where
  incoming : ℚ
  outgoing : ℚ
  /-- what the percentages are of -/
  charged : ℚ
  baseFee : ℚ
  percentageFee : ℤ
  extraFee : ℤ
  deriving DecidableEq, Repr

/-- The fees of a percentage, with a slack of two units of both currencies for the amounts. -/
structure FeesAccounted (rate share : ℚ) (s : StoredFees) : Prop where
  nonneg : 0 ≤ s.extraFee
  fee : |s.percentageFee + s.extraFee - share * s.charged| < 2
  total : |s.outgoing + s.baseFee + s.percentageFee + s.extraFee - s.incoming| < 2 + 2 * rate

/-- The results of the calculations, at a rate, with the percentage `base` of the pair (with the
premium of a referral) as a share and an extra percentage. Miner fees and amounts are whole. -/
inductive Stores (rate base extra : ℚ) : FeeCalculation → StoredFees → Prop where
  | submarine {fees : FeeProvider} {pair : PairId} {version : SwapVersion} {side : OrderSide}
      {referral : Option Referral} {result : SwapFees} {extraFee : ℤ} (amount baseFee : ℕ)
      (hbase : fees.getPercentageFee pair side .submarine .calculation referral = base)
      (hfees : fees.getFees pair version rate side amount .submarine .normalClaim referral
        (some extra) = .ok result)
      (hbaseFee : result.baseFee = baseFee) (hextra : result.extraFee = some extraFee) :
      Stores rate base extra .submarine
        { incoming := SwapManager.expectedAmount amount rate result.baseFee result.percentageFee
            extraFee
          outgoing := amount * rate
          charged := amount * rate
          baseFee := result.baseFee
          percentageFee := result.percentageFee
          extraFee := extraFee }
  | reverse {cfg : RateConfig} {rp : RateProvider} {pair : PairId} {side : OrderSide}
      {version : SwapVersion} {referral : Option Referral} {found : SomePair}
      {created : CreatedReverseSwap} {extraFee : ℤ} (outgoingGiven : Bool) (amount baseFee : ℕ)
      (hpair : Service.getPair cfg rp pair side version .reverseSubmarine referral = .ok found)
      (hrate : Service.lockupRate found.rate side = rate)
      (hbase : cfg.feeProvider.getPercentageFee pair side .reverseSubmarine .calculation
        referral = base)
      (hbaseFee : cfg.feeProvider.getBaseFee (getSendingChain pair side) version .reverseLockup =
        baseFee)
      (hcreated : Service.createReverseSwap cfg rp pair side version referral
        (if outgoingGiven then none else some (amount : ℚ))
        (if outgoingGiven then some (amount : ℚ) else none) (some extra) = .ok created)
      (hextra : created.extraFee = some extraFee) :
      Stores rate base extra (.reverse outgoingGiven)
        { incoming := created.holdInvoiceAmount * rate
          outgoing := created.onchainAmount
          charged := created.holdInvoiceAmount * rate
          baseFee := baseFee
          percentageFee := created.percentageFee
          extraFee := extraFee }
  | chain {cfg : RateConfig} {rp : RateProvider} {pair : PairId} {side : OrderSide}
      {referral : Option Referral} {found : SomePair} {created : CreatedChainSwap} {extraFee : ℤ}
      (outgoingGiven : Bool) (amount baseFee : ℕ)
      (hpair : Service.getPair cfg rp pair side .taproot .chain referral = .ok found)
      (hrate : Service.lockupRate found.rate side = rate)
      (hfees : Renegotiator.getFees cfg.feeProvider pair side referral = ((baseFee : ℚ), base))
      (hcreated : Service.createChainSwap cfg rp pair side referral
        (if outgoingGiven then none else some (amount : ℚ))
        (if outgoingGiven then some (amount : ℚ) else none) (some extra) = .ok created)
      (hextra : created.extraFee = some extraFee) :
      Stores rate base extra (.chain outgoingGiven)
        { incoming := created.userLockAmount * rate
          outgoing := created.serverLockAmount
          charged := created.userLockAmount * rate
          baseFee := baseFee
          percentageFee := created.percentageFee
          extraFee := extraFee }
  | quote {cfg : RateConfig} {protector : OverpaymentProtector} {rp : RateProvider}
      {swap : QuotedSwap} {entry : PairTypeTaproot} {quoted : Quote} {extraFee : ℤ}
      (amount baseFee : ℕ) (hamount : swap.receivingAmount = amount)
      (hentry : rp.taproot.getPairs cfg .chain swap.referral swap.receivingSymbol
        swap.sendingSymbol = some entry)
      (hrate : entry.rate = rate)
      (hfees : Renegotiator.getFees cfg.feeProvider swap.pair swap.orderSide swap.referral =
        ((baseFee : ℚ), base))
      (hextraFees : swap.extraFees = some extra)
      (hquoted : Renegotiator.calculateNewQuote cfg protector rp swap = .ok quoted)
      (hextra : quoted.extraFee = some extraFee) :
      Stores rate base extra .quote
        { incoming := amount * rate
          outgoing := quoted.serverLockAmount
          charged := amount * rate
          baseFee := baseFee
          percentageFee := quoted.percentageFee
          extraFee := extraFee }

/-! ## The results in one form -/

/-- The sum of the percentages, as a share. -/
def totalShare (base extra : ℚ) : ℚ :=
  ((mathRound (base * 10000) + mathRound (extra * 100) : ℤ) : ℚ) / 10000

theorem calculateTotal_eq {base extra : ℚ} (h : 0 ≤ extra) :
    FeeProvider.calculateTotalPercentageFeeCalculation base extra =
      .ok (totalShare base extra) := by
  unfold FeeProvider.calculateTotalPercentageFeeCalculation
  rw [if_neg (not_lt.mpr h)]
  rfl

@[simp] theorem mathRound_intCast (n : ℤ) : mathRound (n : ℚ) = n := by
  unfold mathRound
  rw [Int.floor_eq_iff]
  constructor <;> norm_num

@[simp] theorem mathRound_intCast_sub (a b : ℤ) : mathRound ((a : ℚ) - b) = a - b := by
  rw [← Int.cast_sub, mathRound_intCast]

/-- What the incoming amount `charged` gives, when the percentage is `base` at first and then
`total`. -/
def storedOfIncoming (base total charged : ℚ) (baseFee : ℕ) : StoredFees :=
  { incoming := charged
    outgoing := ⌊charged - (⌈total * charged⌉ + baseFee)⌋
    charged := charged
    baseFee := baseFee
    percentageFee := ⌈base * charged⌉
    extraFee := ⌈total * charged⌉ - ⌈base * charged⌉ }

def storedOfInvoice (base total charged : ℚ) (baseFee : ℕ) : StoredFees :=
  { incoming := ⌊charged⌋ + baseFee + ⌈total * charged⌉
    outgoing := charged
    charged := charged
    baseFee := baseFee
    percentageFee := ⌈base * charged⌉
    extraFee := ⌈total * charged⌉ - ⌈base * charged⌉ }

/-- The least incoming amount for an outgoing one with its base fee. -/
def incomingFor (rate share outgoing : ℚ) : ℤ := ⌈outgoing / rate / (1 - share)⌉

def storedOfOutgoing (rate base total : ℚ) (amount baseFee : ℕ) : StoredFees :=
  let incoming := incomingFor rate base (amount + baseFee)
  let incomingWithExtraFees := incomingFor rate total (amount + baseFee)
  { incoming := incomingWithExtraFees * rate
    outgoing := amount
    charged := incomingWithExtraFees * rate
    baseFee := baseFee
    percentageFee := ⌈incoming * rate * base⌉
    extraFee := incomingWithExtraFees - incoming }

def storedFees (rate base total : ℚ) (amount baseFee : ℕ) : FeeCalculation → StoredFees
  | .submarine => storedOfInvoice base total (amount * rate) baseFee
  | .quote => storedOfIncoming base total (amount * rate) baseFee
  | .reverse outgoingGiven | .chain outgoingGiven =>
    if outgoingGiven then storedOfOutgoing rate base total amount baseFee
    else storedOfIncoming base total (amount * rate) baseFee

section

variable {rate base extra : ℚ}

@[simp] theorem checkWholeNumber_natCast (amount : ℕ) :
    Service.checkWholeNumber (amount : ℚ) = .ok () :=
  checkWholeNumber_intCast amount

/-- Whole fees are taken out of a rounding. -/
theorem floor_sub_fee (charged baseFee : ℚ) (fee : ℤ) :
    ⌊charged - (fee + baseFee)⌋ = ⌊charged - baseFee⌋ - fee := by
  rw [← Int.floor_sub_intCast]
  congr 1
  ring

theorem submarine_stored (hextra : 0 ≤ extra) {fees : FeeProvider} {pair : PairId}
    {version : SwapVersion} {side : OrderSide} {referral : Option Referral} (amount baseFee : ℕ)
    (hbase : fees.getPercentageFee pair side .submarine .calculation referral = base)
    (hbaseFee : fees.getBaseFee (getChainCurrency pair side false) version .normalClaim =
      baseFee) :
    fees.getFees pair version rate side amount .submarine .normalClaim referral (some extra) =
      .ok
        { baseFee := baseFee
          percentageFee := ⌈base * (amount * rate)⌉
          percentageFeeRate := base
          extraFee := some (⌈totalShare base extra * (amount * rate)⌉ -
            ⌈base * (amount * rate)⌉) } := by
  have hside : (SwapType.submarine == SwapType.reverseSubmarine) = false := rfl
  simp only [FeeProvider.getFees, hbase, hside, hbaseFee, calculateTotal_eq hextra, bind,
    Except.bind, pure, Except.pure, mathRound_intCast, mul_assoc]

theorem reverse_stored (hextra : 0 ≤ extra) {cfg : RateConfig} {rp : RateProvider}
    {pair : PairId} {side : OrderSide} {version : SwapVersion} {referral : Option Referral}
    {found : SomePair} (outgoingGiven : Bool) (amount baseFee : ℕ)
    (hpair : Service.getPair cfg rp pair side version .reverseSubmarine referral = .ok found)
    (hrate : Service.lockupRate found.rate side = rate)
    (hbase : cfg.feeProvider.getPercentageFee pair side .reverseSubmarine .calculation
      referral = base)
    (hbaseFee : cfg.feeProvider.getBaseFee (getSendingChain pair side) version .reverseLockup =
      baseFee) :
    ∃ created extraFee, Service.createReverseSwap cfg rp pair side version referral
        (if outgoingGiven then none else some (amount : ℚ))
        (if outgoingGiven then some (amount : ℚ) else none) (some extra) = .ok created ∧
      created.extraFee = some extraFee ∧
      storedFees rate base (totalShare base extra) amount baseFee (.reverse outgoingGiven) =
        { incoming := created.holdInvoiceAmount * rate
          outgoing := created.onchainAmount
          charged := created.holdInvoiceAmount * rate
          baseFee := baseFee
          percentageFee := created.percentageFee
          extraFee := extraFee } := by
  cases outgoingGiven with
  | false =>
    simp only [Service.createReverseSwap, Service.calculateReverseSwapAmounts, hpair, hrate, hbase,
      hbaseFee, calculateTotal_eq hextra, checkWholeNumber_natCast, Except.mapError, bind,
      Except.bind, pure, Except.pure, Bool.false_eq_true, if_false, if_true, mathRound_intCast_sub]
    refine ⟨_, _, rfl, rfl, ?_⟩
    ext1 <;> simp [storedFees, storedOfIncoming, floor_sub_fee]
  | true =>
    simp only [Service.createReverseSwap, Service.calculateReverseSwapAmounts, hpair, hrate, hbase,
      hbaseFee, calculateTotal_eq hextra, checkWholeNumber_natCast, Except.mapError, bind,
      Except.bind, pure, Except.pure, Bool.false_eq_true, if_false, if_true, mathRound_intCast_sub]
    exact ⟨_, _, rfl, rfl, rfl⟩

theorem chain_stored (hextra : 0 ≤ extra) {cfg : RateConfig} {rp : RateProvider}
    {pair : PairId} {side : OrderSide} {referral : Option Referral} {found : SomePair}
    (hpairs : pair.base ≠ pair.quote) (outgoingGiven : Bool) (amount baseFee : ℕ)
    (hpair : Service.getPair cfg rp pair side .taproot .chain referral = .ok found)
    (hrate : Service.lockupRate found.rate side = rate)
    (hfees : Renegotiator.getFees cfg.feeProvider pair side referral = ((baseFee : ℚ), base)) :
    ∃ created extraFee, Service.createChainSwap cfg rp pair side referral
        (if outgoingGiven then none else some (amount : ℚ))
        (if outgoingGiven then some (amount : ℚ) else none) (some extra) = .ok created ∧
      created.extraFee = some extraFee ∧
      storedFees rate base (totalShare base extra) amount baseFee (.chain outgoingGiven) =
        { incoming := created.userLockAmount * rate
          outgoing := created.serverLockAmount
          charged := created.userLockAmount * rate
          baseFee := baseFee
          percentageFee := created.percentageFee
          extraFee := extraFee } := by
  cases outgoingGiven with
  | false =>
    simp only [Service.createChainSwap, Service.calculateChainSwapAmounts,
      Renegotiator.calculateServerLockAmount, hpair, hrate, hfees, hpairs,
      calculateTotal_eq hextra, checkWholeNumber_natCast, bind, Except.bind, Bool.false_eq_true,
      if_false, if_true, mathRound_intCast_sub]
    refine ⟨_, _, rfl, rfl, ?_⟩
    ext1 <;> simp [storedFees, storedOfIncoming, floor_sub_fee]
  | true =>
    simp only [Service.createChainSwap, Service.calculateChainSwapAmounts,
      hpair, hrate, hfees, hpairs,
      calculateTotal_eq hextra, checkWholeNumber_natCast, bind, Except.bind, Bool.false_eq_true,
      if_false, if_true, mathRound_intCast_sub]
    exact ⟨_, _, rfl, rfl, rfl⟩

/-- The quote of an amount within the limits. -/
def quotedFees (rate base total : ℚ) (amount baseFee : ℕ) : Quote :=
  { percentageFee := ⌈base * (amount * rate)⌉
    serverLockAmount := ⌊amount * rate - (⌈total * (amount * rate)⌉ + (baseFee : ℚ))⌋
    extraFee := some (⌈total * (amount * rate)⌉ - ⌈base * (amount * rate)⌉) }

theorem calculateNewQuote_eq (hextra : 0 ≤ extra) {cfg : RateConfig}
    {protector : OverpaymentProtector} {rp : RateProvider} {swap : QuotedSwap}
    {entry : PairTypeTaproot} (amount baseFee : ℕ) (hamount : swap.receivingAmount = amount)
    (hentry : rp.taproot.getPairs cfg .chain swap.referral swap.receivingSymbol
      swap.sendingSymbol = some entry)
    (hrate : entry.rate = rate)
    (hfees : Renegotiator.getFees cfg.feeProvider swap.pair swap.orderSide swap.referral =
      ((baseFee : ℚ), base))
    (hextraFees : swap.extraFees = some extra) :
    Renegotiator.calculateNewQuote cfg protector rp swap =
      if amount > entry.limits.maximal +
          protector.getAllowedPositiveSlippage entry.limits.maximal then
        .error (.exceedMaximalAmount amount entry.limits.maximal)
      else if amount < entry.limits.minimal then
        .error (.beneathMinimalAmount amount entry.limits.minimal)
      else .ok (quotedFees rate base (totalShare base extra) amount baseFee) := by
  simp only [Renegotiator.calculateNewQuote, Renegotiator.calculateServerLockAmount, hentry,
    hamount, hrate, hfees, hextraFees, calculateTotal_eq hextra, mathRound_intCast_sub, quotedFees,
    floor_sub_fee, sub_sub_sub_cancel_left]

/-- The results of the calculations are those of the common form. -/
theorem stored_of_stores (hextra : 0 ≤ extra) {calculation : FeeCalculation} {s : StoredFees}
    (h : Stores rate base extra calculation s) :
    ∃ amount baseFee, s = storedFees rate base (totalShare base extra) amount baseFee
      calculation := by
  cases h with
  | @submarine fees pair version side referral result extraFee amount baseFee hbase hfees hbaseFee
      hextraFee =>
    refine ⟨amount, baseFee, ?_⟩
    have hminer : fees.getBaseFee (getChainCurrency pair side false) version .normalClaim =
        baseFee := by
      rw [← hbaseFee]
      simp only [FeeProvider.getFees, calculateTotal_eq hextra, bind, Except.bind, pure,
        Except.pure] at hfees
      cases hfees
      rfl
    rw [submarine_stored hextra amount baseFee hbase hminer] at hfees
    cases hfees
    obtain rfl := Option.some.inj hextraFee
    ext1
    · simp only [SwapManager.expectedAmount, storedFees, storedOfInvoice]
      push_cast
      ring
    · rfl
    · rfl
    · rfl
    · rfl
    · rfl
  | reverse outgoingGiven amount baseFee hpair hrate hbase hbaseFee hcreated hextraFee =>
    obtain ⟨created, extraFee, hcreated', hextraFee', hstored⟩ :=
      reverse_stored hextra outgoingGiven amount baseFee hpair hrate hbase hbaseFee
    rw [hcreated'] at hcreated
    cases hcreated
    obtain rfl := Option.some.inj (hextraFee'.symm.trans hextraFee)
    exact ⟨amount, baseFee, hstored.symm⟩
  | @chain cfg rp pair side referral found created extraFee outgoingGiven amount baseFee hpair hrate
      hfees hcreated hextraFee =>
    have hpairs : pair.base ≠ pair.quote := by
      rintro hsame
      simp only [Service.createChainSwap, hpair, hsame, bind, Except.bind, if_true] at hcreated
      cases hcreated
    obtain ⟨created', extraFee', hcreated', hextraFee', hstored⟩ :=
      chain_stored hextra hpairs outgoingGiven amount baseFee hpair hrate hfees
    rw [hcreated'] at hcreated
    cases hcreated
    obtain rfl := Option.some.inj (hextraFee'.symm.trans hextraFee)
    exact ⟨amount, baseFee, hstored.symm⟩
  | quote amount baseFee hamount hentry hrate hfees hextraFees hquoted hextraFee =>
    rw [calculateNewQuote_eq hextra amount baseFee hamount hentry hrate hfees hextraFees] at hquoted
    split at hquoted
    · cases hquoted
    split at hquoted
    · cases hquoted
    · cases hquoted
      obtain rfl := Option.some.inj hextraFee
      exact ⟨amount, baseFee, rfl⟩

/-! ## Every amount is calculated with -/

/-- A pair with the percentage for all kinds of swaps, whose limits allow the amount. -/
def pairWithFees (base normal lockup maximal : ℚ) : RateConfig :=
  { currencies := fun _ => none
    feeProvider :=
      { percentageFees := fun _ => some
          { submarine := base * 100, reverseSubmarine := base * 100, chain := fun _ => base * 100 }
        minerFees := fun _ _ => { normal := normal, reverse := { claim := 0, lockup := lockup } } }
    minSwapSizeMultipliers := fun _ => 1
    pairConfigs := fun _ => some { minSwapAmount := 0, maxSwapAmount := maximal }
    swapTypes := fun _ => [.submarine, .reverseSubmarine, .chain] }

def entryWithRate (rate maximal : ℚ) : PairTypeTaproot :=
  { rate := rate
    limits := { minimal := 0, maximal := maximal }
    fees := { percentage := 0, minerFees := .submarine 0 } }

def providerWithRate (rate maximal : ℚ) : RateProvider :=
  { taproot := { pairs := fun _ _ _ => some (entryWithRate rate maximal) }, legacy := {} }

def bitcoinLitecoin : PairId := { base := "BTC", quote := "LTC" }

theorem pairWithFees_percentage (base normal lockup maximal : ℚ) (side : OrderSide)
    (type : SwapType) :
    (pairWithFees base normal lockup maximal).feeProvider.getPercentageFee bitcoinLitecoin side
      type .calculation none = base := by
  cases type <;> simp [FeeProvider.getPercentageFee, FeeProvider.addPremium, PercentageFees.of,
    pairWithFees]

theorem stores_stored (hextra : 0 ≤ extra) (calculation : FeeCalculation) (amount baseFee : ℕ) :
    Stores rate base extra calculation
      (storedFees rate base (totalShare base extra) amount baseFee calculation) := by
  have hfees : Renegotiator.getFees (pairWithFees base 0 baseFee amount).feeProvider
      bitcoinLitecoin .sell none = ((baseFee : ℚ), base) := by
    simp only [Renegotiator.getFees, pairWithFees_percentage, FeeProvider.getChainSwapBaseFees]
    simp only [pairWithFees, add_zero]
  cases calculation with
  | submarine =>
    have hbase := pairWithFees_percentage base baseFee 0 amount .sell .submarine
    have hstored := Stores.submarine amount baseFee hbase
      (@submarine_stored rate base extra hextra _ _ .taproot _ _ amount baseFee hbase rfl) rfl rfl
    convert hstored using 1
    ext1
    · simp only [SwapManager.expectedAmount, storedFees, storedOfInvoice]
      push_cast
      ring
    · rfl
    · rfl
    · rfl
    · rfl
    · rfl
  | reverse outgoingGiven =>
    have hbase := pairWithFees_percentage base 0 baseFee amount .sell .reverseSubmarine
    obtain ⟨created, extraFee, hcreated, hextraFee, hstored⟩ :=
      @reverse_stored rate base extra hextra _ (providerWithRate rate amount) _ _ .taproot _ _
        outgoingGiven amount baseFee rfl rfl hbase rfl
    rw [hstored]
    exact .reverse outgoingGiven amount baseFee rfl rfl hbase rfl hcreated hextraFee
  | chain outgoingGiven =>
    obtain ⟨created, extraFee, hcreated, hextraFee, hstored⟩ :=
      @chain_stored rate base extra hextra _ (providerWithRate rate amount) _ _ _ _ (by decide)
        outgoingGiven amount baseFee rfl rfl hfees
    rw [hstored]
    exact .chain outgoingGiven amount baseFee rfl rfl hfees hcreated hextraFee
  | quote =>
    have hquoted := @calculateNewQuote_eq rate base extra hextra
      (pairWithFees base 0 baseFee amount) {} (providerWithRate rate amount)
      { pair := bitcoinLitecoin, orderSide := .sell, receivingAmount := amount
        receivingSymbol := "BTC", sendingSymbol := "LTC", referral := none
        extraFees := some extra, receiving_eq := rfl, sending_eq := rfl }
      _ amount baseFee rfl rfl rfl hfees rfl
    have hslippage : (0 : ℚ) ≤ OverpaymentProtector.getAllowedPositiveSlippage {} amount :=
      le_max_of_le_left (by norm_num)
    have hmaximal : ¬(amount : ℚ) > (entryWithRate rate amount).limits.maximal +
        OverpaymentProtector.getAllowedPositiveSlippage {}
          (entryWithRate rate amount).limits.maximal :=
      not_lt.mpr (le_add_of_nonneg_right hslippage)
    have hminimal : ¬(amount : ℚ) < (entryWithRate rate amount).limits.minimal :=
      not_lt.mpr (Nat.cast_nonneg amount)
    rw [if_neg hmaximal, if_neg hminimal] at hquoted
    exact .quote amount baseFee rfl rfl rfl hfees rfl hquoted rfl

/-! ## The incoming amount is given -/

/-- A multiple of every amount is only bounded when it is zero. -/
theorem eq_zero_of_bounded {c bound : ℚ} (h : ∀ n : ℕ, |c * n| ≤ bound) : c = 0 := by
  by_contra hc
  have hpos := abs_pos.mpr hc
  obtain ⟨n, hn⟩ := exists_nat_gt (bound / |c|)
  have hle := h n
  rw [abs_mul, Nat.abs_cast] at hle
  rw [div_lt_iff₀ hpos] at hn
  linarith

variable {total share : ℚ}

theorem total_eq_of_fee (hrate : 0 < rate)
    (h : ∀ n : ℕ, |(⌈total * (n * rate)⌉ : ℚ) - share * (n * rate)| < 2) : total = share := by
  have hzero : (total - share) * rate = 0 := by
    refine @eq_zero_of_bounded _ 3 fun n => ?_
    have hceil := Int.le_ceil (total * (n * rate))
    have hceil' := Int.ceil_lt_add_one (total * (n * rate))
    obtain ⟨hlower, hupper⟩ := abs_lt.mp (h n)
    rw [abs_le]
    constructor <;> linarith
  rcases mul_eq_zero.mp hzero with h | h
  · exact sub_eq_zero.mp h
  · exact absurd h hrate.ne'

theorem abs_ceil_sub_lt (x : ℚ) : |(⌈x⌉ : ℚ) - x| < 2 := by
  have hle := Int.le_ceil x
  have hlt := Int.ceil_lt_add_one x
  rw [abs_lt]
  constructor <;> linarith

theorem storedOfIncoming_iff (hrate : 0 < rate) (hbase : base ≤ share) :
    (∀ amount baseFee : ℕ,
      FeesAccounted rate share (storedOfIncoming base total (amount * rate) baseFee)) ↔
      total = share := by
  constructor
  · intro h
    refine total_eq_of_fee hrate fun n => ?_
    have hfee := (h n 0).fee
    simp only [storedOfIncoming] at hfee
    push_cast at hfee
    rwa [add_sub_cancel] at hfee
  · rintro rfl amount baseFee
    have hcharged : 0 ≤ amount * rate := mul_nonneg (Nat.cast_nonneg amount) hrate.le
    generalize (amount : ℚ) * rate = charged at hcharged ⊢
    refine ⟨?_, ?_, ?_⟩
    · exact sub_nonneg.mpr (Int.ceil_le_ceil (mul_le_mul_of_nonneg_right hbase hcharged))
    · simp only [storedOfIncoming]
      push_cast
      rw [add_sub_cancel]
      exact abs_ceil_sub_lt _
    · simp only [storedOfIncoming]
      push_cast
      have hle := Int.floor_le (charged - (⌈total * charged⌉ + (baseFee : ℚ)))
      have hlt := Int.lt_floor_add_one (charged - (⌈total * charged⌉ + (baseFee : ℚ)))
      rw [abs_lt]
      constructor <;> linarith

theorem storedOfInvoice_iff (hrate : 0 < rate) (hbase : base ≤ share) :
    (∀ amount baseFee : ℕ,
      FeesAccounted rate share (storedOfInvoice base total (amount * rate) baseFee)) ↔
      total = share := by
  constructor
  · intro h
    refine total_eq_of_fee hrate fun n => ?_
    have hfee := (h n 0).fee
    simp only [storedOfInvoice] at hfee
    push_cast at hfee
    rwa [add_sub_cancel] at hfee
  · rintro rfl amount baseFee
    have hcharged : 0 ≤ amount * rate := mul_nonneg (Nat.cast_nonneg amount) hrate.le
    generalize (amount : ℚ) * rate = charged at hcharged ⊢
    refine ⟨?_, ?_, ?_⟩
    · exact sub_nonneg.mpr (Int.ceil_le_ceil (mul_le_mul_of_nonneg_right hbase hcharged))
    · simp only [storedOfInvoice]
      push_cast
      rw [add_sub_cancel]
      exact abs_ceil_sub_lt _
    · simp only [storedOfInvoice]
      push_cast
      have hle := Int.floor_le charged
      have hlt := Int.lt_floor_add_one charged
      rw [abs_lt]
      constructor <;> linarith

/-! ## The outgoing amount is given -/

/-- The incoming amount that is found is enough, and not by a whole unit. -/
theorem incomingFor_bounds (hrate : 0 < rate) (hshare : share < 1) (outgoing : ℚ) :
    outgoing ≤ incomingFor rate share outgoing * rate * (1 - share) ∧
      incomingFor rate share outgoing * rate * (1 - share) < outgoing + rate * (1 - share) := by
  have hleft : 0 < 1 - share := sub_pos.mpr hshare
  have hle := Int.le_ceil (outgoing / rate / (1 - share))
  have hlt := Int.ceil_lt_add_one (outgoing / rate / (1 - share))
  rw [div_le_iff₀ hleft, div_le_iff₀ hrate] at hle
  rw [← sub_lt_iff_lt_add, lt_div_iff₀ hleft, lt_div_iff₀ hrate] at hlt
  unfold incomingFor
  constructor <;> linarith

/-- With a sum of a hundred percent or more there is no incoming amount, and the difference is
negative. -/
theorem total_lt_one (hrate : 0 < rate) (hbase : base < 1)
    (h : FeesAccounted rate share (storedOfOutgoing rate base total 1 0)) : total < 1 := by
  by_contra hge
  have hnonpos : incomingFor rate total ((1 : ℕ) + (0 : ℕ)) ≤ 0 := by
    unfold incomingFor
    rw [Int.ceil_le, Int.cast_zero]
    have hpos : (0 : ℚ) ≤ ((1 : ℕ) + (0 : ℕ)) / rate := by positivity
    exact div_nonpos_of_nonneg_of_nonpos hpos (by linarith)
  have hpos : 0 < incomingFor rate base ((1 : ℕ) + (0 : ℕ)) := by
    unfold incomingFor
    rw [Int.lt_ceil, Int.cast_zero]
    have hleft : 0 < 1 - base := sub_pos.mpr hbase
    positivity
  have hnonneg := h.nonneg
  simp only [storedOfOutgoing] at hnonneg
  omega

/-- The percentage that is charged is the sum, as both bounds are about the same fee. -/
theorem total_eq_of_outgoing (hrate : 0 < rate) (htotal : total < 1)
    (h : ∀ amount : ℕ, FeesAccounted rate share (storedOfOutgoing rate base total amount 0)) :
    total = share := by
  have hleft : 0 < 1 - total := sub_pos.mpr htotal
  refine (sub_eq_zero.mp
    (@eq_zero_of_bounded _ ((1 - total) * (rate * (1 - total) + (4 + 2 * rate))) fun n => ?_)).symm
  obtain ⟨-, hfee, hsum⟩ := h n
  have hbounds := incomingFor_bounds hrate htotal ((n : ℚ) + (0 : ℕ))
  simp only [storedOfOutgoing] at hfee hsum
  push_cast at hfee hsum
  generalize (incomingFor rate total ((n : ℚ) + (0 : ℕ)) : ℚ) * rate = charged at hfee hsum hbounds
  rw [Nat.cast_zero, add_zero] at hbounds
  obtain ⟨hge, hlt⟩ := hbounds
  obtain ⟨hfee₁, hfee₂⟩ := abs_lt.mp hfee
  obtain ⟨hsum₁, hsum₂⟩ := abs_lt.mp hsum
  have hdiff : |(share - total) * charged| ≤ rate * (1 - total) + (4 + 2 * rate) := by
    have hslack : 0 < rate * (1 - total) := mul_pos hrate hleft
    rw [abs_le]
    constructor <;> linarith
  calc |(share - total) * n| = |share - total| * n := by rw [abs_mul, Nat.abs_cast]
    _ ≤ |share - total| * (charged * (1 - total)) :=
      mul_le_mul_of_nonneg_left hge (abs_nonneg _)
    _ ≤ |share - total| * (|charged| * (1 - total)) := by
      gcongr
      exact le_abs_self charged
    _ = (1 - total) * |(share - total) * charged| := by rw [abs_mul]; ring
    _ ≤ _ := mul_le_mul_of_nonneg_left hdiff hleft.le

/-- A difference of incoming amounts only makes up for the larger percentage at a rate of one. -/
theorem rate_eq_of_outgoing (hrate : 0 < rate) (hbase : base < 1) (htotal : total < 1)
    (h : ∀ amount : ℕ, FeesAccounted rate share (storedOfOutgoing rate base total amount 0)) :
    rate = 1 ∨ total = base := by
  have hp : 0 < 1 - base := sub_pos.mpr hbase
  have hq : 0 < 1 - total := sub_pos.mpr htotal
  have hzero : (rate - 1) * (base - total) = 0 := by
    refine @eq_zero_of_bounded _ ((1 - base) * (1 - total) * rate * (3 + 2 * rate) +
      rate * (1 - base) * (1 - total) * (rate * (1 - base)) +
      |rate - 1| * (2 * (rate * (1 - base) * (1 - total)))) fun n => ?_
    have hsum := (h n).total
    have hbounds := incomingFor_bounds hrate hbase ((n : ℚ) + (0 : ℕ))
    have hbounds' := incomingFor_bounds hrate htotal ((n : ℚ) + (0 : ℕ))
    simp only [storedOfOutgoing] at hsum
    push_cast at hsum
    simp only [Nat.cast_zero, add_zero] at hsum hbounds hbounds'
    have hceil := Int.le_ceil (incomingFor rate base (n : ℚ) * rate * base)
    have hceil' := Int.ceil_lt_add_one (incomingFor rate base (n : ℚ) * rate * base)
    generalize (⌈(incomingFor rate base (n : ℚ) : ℚ) * rate * base⌉ : ℚ) = fee at hsum hceil hceil'
    generalize (incomingFor rate base (n : ℚ) : ℚ) = incoming at hsum hbounds hceil hceil'
    generalize (incomingFor rate total (n : ℚ) : ℚ) = incoming' at hsum hbounds'
    obtain ⟨hsum₁, hsum₂⟩ := abs_lt.mp hsum
    -- what the roundings and the slack leave
    obtain ⟨u, hu⟩ : ∃ u, u = incoming * rate * (1 - base) - n := ⟨_, rfl⟩
    obtain ⟨v, hv⟩ : ∃ v, v = incoming' * rate * (1 - total) - n := ⟨_, rfl⟩
    obtain ⟨w, hw⟩ : ∃ w, w = n + incoming * rate * base + (incoming' - incoming) -
        incoming' * rate := ⟨_, rfl⟩
    have hkey : (rate - 1) * (base - total) * n =
        (1 - base) * (1 - total) * rate * w + rate * (1 - base) * (1 - total) * u -
          (rate - 1) * (u * (1 - total) - v * (1 - base)) := by
      rw [hu, hv, hw]
      ring
    have hw' : |w| ≤ 3 + 2 * rate := by
      rw [abs_le]
      constructor <;> linarith
    have hu' : |u| ≤ rate * (1 - base) := by
      rw [abs_le]
      constructor <;> linarith
    have hcross : |u * (1 - total) - v * (1 - base)| ≤ 2 * (rate * (1 - base) * (1 - total)) := by
      have hu₀ : 0 ≤ u * (1 - total) := mul_nonneg (by linarith) hq.le
      have hv₀ : 0 ≤ v * (1 - base) := mul_nonneg (by linarith) hp.le
      have hu₁ : u * (1 - total) ≤ rate * (1 - base) * (1 - total) :=
        mul_le_mul_of_nonneg_right (by linarith) hq.le
      have hv₁ : v * (1 - base) ≤ rate * (1 - total) * (1 - base) :=
        mul_le_mul_of_nonneg_right (by linarith) hp.le
      rw [abs_le]
      constructor <;> linarith
    have hfactor : 0 < (1 - base) * (1 - total) * rate := mul_pos (mul_pos hp hq) hrate
    have hfactor' : 0 < rate * (1 - base) * (1 - total) := mul_pos (mul_pos hrate hp) hq
    have h₁ := mul_le_mul_of_nonneg_left hw' hfactor.le
    have h₂ := mul_le_mul_of_nonneg_left hu' hfactor'.le
    have h₃ := mul_le_mul_of_nonneg_left hcross (abs_nonneg (rate - 1))
    rw [← abs_of_pos hfactor, ← abs_mul, abs_of_pos hfactor] at h₁
    rw [← abs_of_pos hfactor', ← abs_mul, abs_of_pos hfactor'] at h₂
    rw [← abs_mul] at h₃
    rw [hkey]
    calc _ ≤ |(1 - base) * (1 - total) * rate * w + rate * (1 - base) * (1 - total) * u| +
          |(rate - 1) * (u * (1 - total) - v * (1 - base))| := abs_sub _ _
      _ ≤ _ := by
        have hadd := abs_add_le ((1 - base) * (1 - total) * rate * w)
          (rate * (1 - base) * (1 - total) * u)
        linarith
  rcases mul_eq_zero.mp hzero with hrate | hshare
  · exact .inl (sub_eq_zero.mp hrate)
  · exact .inr (sub_eq_zero.mp hshare).symm

theorem incomingFor_mono (hrate : 0 < rate) (hle : base ≤ total) (htotal : total < 1)
    (outgoing : ℕ) : incomingFor rate base outgoing ≤ incomingFor rate total outgoing := by
  unfold incomingFor
  have hquotient : (0 : ℚ) ≤ outgoing / rate := by positivity
  exact Int.ceil_le_ceil
    (div_le_div_of_nonneg_left hquotient (sub_pos.mpr htotal) (by linarith))

/-- When nothing is added, only the percentage fee is rounded. -/
theorem accounted_same (hrate : 0 < rate) (hbase : -1 ≤ base) (htotal : base < 1)
    (amount baseFee : ℕ) :
    FeesAccounted rate base (storedOfOutgoing rate base base amount baseFee) := by
  have hbounds := incomingFor_bounds hrate htotal ((amount : ℚ) + baseFee)
  simp only [storedOfOutgoing, sub_self]
  generalize incomingFor rate base ((amount : ℚ) + baseFee) = incoming at hbounds ⊢
  have hceil := Int.le_ceil ((incoming : ℚ) * rate * base)
  have hceil' := Int.ceil_lt_add_one ((incoming : ℚ) * rate * base)
  obtain ⟨hge, hlt⟩ := hbounds
  have hslack : rate * (1 - base) ≤ rate * 2 := mul_le_mul_of_nonneg_left (by linarith) hrate.le
  refine ⟨le_refl _, ?_, ?_⟩ <;> push_cast <;> rw [abs_lt] <;> constructor <;> linarith

/-- At a rate of one the difference of the incoming amounts is a fee of the outgoing currency. -/
theorem accounted_rate_one (hbase : -1 ≤ base) (hle : base ≤ total) (htotal : total < 1)
    (amount baseFee : ℕ) :
    FeesAccounted 1 total (storedOfOutgoing 1 base total amount baseFee) := by
  have hmono := incomingFor_mono one_pos hle htotal (amount + baseFee)
  have hbounds := incomingFor_bounds one_pos (hle.trans_lt htotal) ((amount : ℚ) + baseFee)
  have hbounds' := incomingFor_bounds one_pos htotal ((amount : ℚ) + baseFee)
  push_cast at hmono
  simp only [storedOfOutgoing]
  generalize incomingFor 1 base ((amount : ℚ) + baseFee) = incoming at hmono hbounds ⊢
  generalize incomingFor 1 total ((amount : ℚ) + baseFee) = incoming' at hmono hbounds' ⊢
  -- what the first incoming amount has too much
  obtain ⟨u, hu⟩ : ∃ u, u = (incoming : ℚ) * (1 - base) - (amount + baseFee) := ⟨_, rfl⟩
  have hfee : ⌈(incoming : ℚ) * 1 * base⌉ = incoming - (amount + baseFee) - ⌊u⌋ := by
    have heq : (incoming : ℚ) * 1 * base =
        ((incoming - (amount + baseFee) : ℤ) : ℚ) + -u := by
      rw [hu]
      push_cast
      ring
    rw [heq, Int.ceil_intCast_add, Int.ceil_neg]
    ring
  have hfloor : 0 ≤ ⌊u⌋ := Int.floor_nonneg.mpr (by linarith)
  have hfloor' : ⌊u⌋ ≤ 1 := Int.le_of_lt_add_one (Int.floor_lt.mpr (by push_cast; linarith))
  have hfloorQ : (0 : ℚ) ≤ ⌊u⌋ := by exact_mod_cast hfloor
  have hfloorQ' : (⌊u⌋ : ℚ) ≤ 1 := by exact_mod_cast hfloor'
  rw [hfee]
  refine ⟨sub_nonneg.mpr hmono, ?_, ?_⟩ <;> push_cast <;> rw [abs_lt] <;> constructor <;> linarith

theorem storedOfOutgoing_iff (hrate : 0 < rate) (hbase : -1 ≤ base) (hbase' : base < 1)
    (hshare : base ≤ share) :
    (∀ amount baseFee : ℕ,
      FeesAccounted rate share (storedOfOutgoing rate base total amount baseFee)) ↔
      total = share ∧ share < 1 ∧ (rate = 1 ∨ share = base) := by
  constructor
  · intro h
    have htotal := total_lt_one hrate hbase' (h 1 0)
    obtain rfl := total_eq_of_outgoing hrate htotal fun amount => h amount 0
    exact ⟨rfl, htotal, rate_eq_of_outgoing hrate hbase' htotal fun amount => h amount 0⟩
  · rintro ⟨rfl, htotal, rfl | rfl⟩ amount baseFee
    · exact accounted_rate_one hbase hshare htotal amount baseFee
    · exact accounted_same hrate hbase htotal amount baseFee

end

/-! ## All kinds of swaps -/

/-- The sum of the rounded percentages is that of the percentages; when the outgoing amount is
given, the percentages are below a hundred and the currencies are worth the same, or nothing is
added. -/
structure FeesAddUp (rate base extra : ℚ) (calculation : FeeCalculation) : Prop where
  sum : ((mathRound (base * 10000) + mathRound (extra * 100) : ℤ) : ℚ) =
    base * 10000 + extra * 100
  outgoing : calculation.outgoingGiven = true →
    base + extra / 100 < 1 ∧ (rate = 1 ∨ extra = 0)

theorem extra_fees_accounted_iff {rate base extra : ℚ} (hrate : 0 < rate) (hbase : -1 ≤ base)
    (hbase' : base < 1) (hextra : 0 ≤ extra) (calculation : FeeCalculation) :
    (∀ s, Stores rate base extra calculation s → FeesAccounted rate (base + extra / 100) s) ↔
      FeesAddUp rate base extra calculation := by
  have hstored : (∀ s, Stores rate base extra calculation s →
      FeesAccounted rate (base + extra / 100) s) ↔ ∀ amount baseFee : ℕ,
        FeesAccounted rate (base + extra / 100)
          (storedFees rate base (totalShare base extra) amount baseFee calculation) := by
    constructor
    · exact fun h amount baseFee => h _ (stores_stored hextra calculation amount baseFee)
    · intro h s hs
      obtain ⟨amount, baseFee, rfl⟩ := stored_of_stores hextra hs
      exact h amount baseFee
  have hsum : totalShare base extra = base + extra / 100 ↔
      ((mathRound (base * 10000) + mathRound (extra * 100) : ℤ) : ℚ) =
        base * 10000 + extra * 100 := by
    unfold totalShare
    rw [div_eq_iff (by norm_num)]
    constructor <;> intro h <;> linarith
  have hshare : base ≤ base + extra / 100 := by linarith
  have hzero : base + extra / 100 = base ↔ extra = 0 := by
    constructor <;> intro h <;> linarith
  have hin := @storedOfIncoming_iff rate base (totalShare base extra) _ hrate hshare
  have hinvoice := @storedOfInvoice_iff rate base (totalShare base extra) _ hrate hshare
  have hout := @storedOfOutgoing_iff rate base (totalShare base extra) _ hrate hbase hbase' hshare
  rw [hsum] at hin hinvoice
  rw [hsum, hzero] at hout
  have hincoming : ∀ {p : Prop}, calculation.outgoingGiven = false →
      (p ↔ ((mathRound (base * 10000) + mathRound (extra * 100) : ℤ) : ℚ) =
        base * 10000 + extra * 100) → (p ↔ FeesAddUp rate base extra calculation) := by
    intro p hgiven hiff
    refine hiff.trans ⟨fun h => ⟨h, fun htrue => ?_⟩, fun h => h.sum⟩
    rw [hgiven] at htrue
    cases htrue
  have houtgoing : ∀ {p : Prop}, calculation.outgoingGiven = true →
      (p ↔ ((mathRound (base * 10000) + mathRound (extra * 100) : ℤ) : ℚ) =
          base * 10000 + extra * 100 ∧ base + extra / 100 < 1 ∧ (rate = 1 ∨ extra = 0)) →
        (p ↔ FeesAddUp rate base extra calculation) := by
    intro p hgiven hiff
    exact hiff.trans ⟨fun h => ⟨h.1, fun _ => h.2⟩, fun h => ⟨h.sum, h.outgoing hgiven⟩⟩
  rw [hstored]
  cases calculation with
  | submarine => exact hincoming rfl hinvoice
  | quote => exact hincoming rfl hin
  | reverse outgoingGiven =>
    cases outgoingGiven with
    | false => exact hincoming rfl hin
    | true => exact houtgoing rfl hout
  | chain outgoingGiven =>
    cases outgoingGiven with
    | false => exact hincoming rfl hin
    | true => exact houtgoing rfl hout

/-- Half a percent and another half, of two currencies that are worth the same. -/
theorem extra_half_percent_accounted :
    FeesAddUp 1 (1 / 200) (1 / 2) (.reverse true) ∧
      ∀ s, Stores 1 (1 / 200) (1 / 2) (.reverse true) s →
        FeesAccounted 1 (1 / 200 + 1 / 2 / 100) s := by
  have hsum : FeesAddUp 1 (1 / 200) (1 / 2) (.reverse true) :=
    ⟨by norm_num [mathRound], fun _ => ⟨by norm_num, .inl rfl⟩⟩
  exact ⟨hsum, (extra_fees_accounted_iff (by norm_num) (by norm_num) (by norm_num) (by norm_num)
    _).mpr hsum⟩

/-- A percentage of 0.254 with an extra percentage of zero makes an invoice of a million cheaper by
40 units, and half a percent more of a reverse swap of a thousand units of a currency that is worth
a hundred times the other is stored as 508 instead of about 5. -/
theorem extra_fees_not_accounted :
    (∃ s, Stores 1 (127 / 50000) 0 .submarine s ∧ s.extraFee = -40) ∧
      ∃ s, Stores (1 / 100) (1 / 200) (1 / 2) (.reverse true) s ∧ s.percentageFee = 6 ∧
        s.extraFee = 508 ∧ ¬FeesAccounted (1 / 100) (1 / 200 + 1 / 2 / 100) s := by
  refine ⟨⟨_, stores_stored (le_refl 0) .submarine 1000000 0, by decide +kernel⟩,
    ⟨_, stores_stored (by norm_num) (.reverse true) 1000 0, by decide +kernel, by decide +kernel,
      fun h => absurd h.fee (by decide +kernel)⟩⟩

end Boltz

import Boltz.Rates.Conversions
import Mathlib.Tactic.Positivity

/-!
# Prices of chain swaps (`lib/service/Renegotiator.ts`, `lib/service/Service.ts`)

A chain swap gets its amounts when it is created, and again when the user locked up another amount
and accepts a new quote. Both subtract the same fees from what the user pays; the first takes the
rate through `getRate`, the second as the entry of the pair has it.
-/

namespace Boltz

structure OverpaymentProtector where
  exemptAmount : ℚ := 10000
  maxPercentage : ℚ := 2
  deriving DecidableEq, Repr

def OverpaymentProtector.getAllowedPositiveSlippage (protector : OverpaymentProtector)
    (amount : ℚ) : ℚ :=
  max protector.exemptAmount ⌈amount * protector.maxPercentage / 100⌉

/-- Overpayments of chain swaps are renegotiated. -/
def OverpaymentProtector.isUnacceptableOverpay (protector : OverpaymentProtector)
    (type : SwapType) (expected actual : ℚ) : Bool :=
  if type = .chain then decide (actual > expected)
  else decide (actual - expected > protector.getAllowedPositiveSlippage expected) ||
    decide (actual > expected * 2)

structure ServerLockAmount where
  percentageFee : ℤ
  serverLockAmount : ℤ
  deriving DecidableEq, Repr

structure Quote where
  percentageFee : ℤ
  serverLockAmount : ℤ
  extraFee : Option ℤ
  deriving DecidableEq, Repr

/-- `ChainSwapInfo`, as far as a quote reads it; `referral` and `extraFees` are the rows it looks
up. The currencies of the two sides are those of the pair, as `createChainSwap` sets them. -/
structure QuotedSwap where
  pair : PairId
  orderSide : OrderSide
  receivingAmount : ℚ
  receivingSymbol : String
  sendingSymbol : String
  referral : Option Referral
  extraFees : Option ℚ
  receiving_eq : receivingSymbol = getReceivingChain pair orderSide
  sending_eq : sendingSymbol = getSendingChain pair orderSide

namespace Renegotiator

def calculateServerLockAmount (rate userLockAmount feePercent baseFee : ℚ) : ServerLockAmount :=
  let serverLockAmount := userLockAmount * rate
  let percentageFee := ⌈feePercent * serverLockAmount⌉
  { percentageFee := percentageFee
    serverLockAmount := ⌊serverLockAmount - (percentageFee + baseFee)⌋ }

/-- The base fee and the percentage of a chain swap. -/
def getFees (fees : FeeProvider) (pair : PairId) (side : OrderSide) (referral : Option Referral) :
    ℚ × ℚ :=
  ((fees.getChainSwapBaseFees pair side).server,
    fees.getPercentageFee pair side .chain .calculation referral)

def calculateNewQuote (cfg : RateConfig) (protector : OverpaymentProtector) (rp : RateProvider)
    (swap : QuotedSwap) : Except ServiceError Quote :=
  match rp.taproot.getPairs cfg .chain swap.referral swap.receivingSymbol swap.sendingSymbol with
  | none => .error (.pairNotFound swap.pair)
  | some entry =>
    if swap.receivingAmount >
        entry.limits.maximal + protector.getAllowedPositiveSlippage entry.limits.maximal then
      .error (.exceedMaximalAmount swap.receivingAmount entry.limits.maximal)
    else if swap.receivingAmount < entry.limits.minimal then
      .error (.beneathMinimalAmount swap.receivingAmount entry.limits.minimal)
    else
      let fees := getFees cfg.feeProvider swap.pair swap.orderSide swap.referral
      let amounts := calculateServerLockAmount entry.rate swap.receivingAmount fees.2 fees.1
      match swap.extraFees with
      | none =>
        .ok { percentageFee := amounts.percentageFee
              serverLockAmount := amounts.serverLockAmount
              extraFee := none }
      | some percentage =>
        match FeeProvider.calculateTotalPercentageFeeCalculation fees.2 percentage with
        | .error e => .error (.fee e)
        | .ok total =>
          let withExtraFees :=
            calculateServerLockAmount entry.rate swap.receivingAmount total fees.1
          .ok { percentageFee := amounts.percentageFee
                serverLockAmount := withExtraFees.serverLockAmount
                extraFee :=
                  some (mathRound (amounts.serverLockAmount - withExtraFees.serverLockAmount)) }

end Renegotiator

structure ChainSwapAmounts where
  userLockAmount : ℚ
  serverLockAmount : ℚ
  percentageFee : ℤ
  userLockAmountDefined : Bool
  isZeroAmount : Bool
  deriving DecidableEq, Repr

/-- The amounts that `createChainSwap` hands to the swap manager. -/
structure CreatedChainSwap where
  userLockAmount : ℚ
  serverLockAmount : ℚ
  percentageFee : ℤ
  extraFee : Option ℤ
  deriving DecidableEq, Repr

namespace Service

def checkWholeNumber (input : ℚ) : Except ServiceError Unit :=
  if input = ⌊input⌋ then .ok () else .error (.notWholeNumber input)

def calculateChainSwapAmounts (userLockAmount serverLockAmount : Option ℚ)
    (rate feePercent baseFee : ℚ) : Except ServiceError ChainSwapAmounts :=
  match userLockAmount, serverLockAmount with
  | some _, some _ => .error .userAndServerAmountSpecified
  | some userLockAmount, none => do
    checkWholeNumber userLockAmount
    let calcRes := Renegotiator.calculateServerLockAmount rate userLockAmount feePercent baseFee
    .ok { userLockAmount := userLockAmount
          serverLockAmount := calcRes.serverLockAmount
          percentageFee := calcRes.percentageFee
          userLockAmountDefined := true
          isZeroAmount := false }
  | none, some serverLockAmount => do
    checkWholeNumber serverLockAmount
    let userLockAmount : ℚ := ⌈(serverLockAmount + baseFee) / rate / (1 - feePercent)⌉
    .ok { userLockAmount := userLockAmount
          serverLockAmount := serverLockAmount
          percentageFee := ⌈userLockAmount * rate * feePercent⌉
          userLockAmountDefined := false
          isZeroAmount := false }
  | none, none =>
    .ok { userLockAmount := 0
          serverLockAmount := 0
          percentageFee := 0
          userLockAmountDefined := false
          isZeroAmount := true }

/-- The amounts of `createChainSwap`, before they are held against the limits and the balance. -/
def createChainSwap (cfg : RateConfig) (rp : RateProvider) (pair : PairId) (side : OrderSide)
    (referral : Option Referral) (userLockAmount serverLockAmount extraFees : Option ℚ) :
    Except ServiceError CreatedChainSwap := do
  let found ← getPair cfg rp pair side .taproot .chain referral
  if pair.base = pair.quote then .error (.pairNotFound pair)
  else
    let rate := lockupRate found.rate side
    let fees := Renegotiator.getFees cfg.feeProvider pair side referral
    let amounts ← calculateChainSwapAmounts userLockAmount serverLockAmount rate fees.2 fees.1
    match amounts.isZeroAmount, extraFees with
    | false, some percentage =>
      match FeeProvider.calculateTotalPercentageFeeCalculation fees.2 percentage with
      | .error e => .error (.fee e)
      | .ok total =>
        let withExtraFees ← calculateChainSwapAmounts userLockAmount serverLockAmount rate total
          fees.1
        let extraFee :=
          if amounts.userLockAmountDefined then
            mathRound (amounts.serverLockAmount - withExtraFees.serverLockAmount)
          else mathRound (withExtraFees.userLockAmount - amounts.userLockAmount)
        .ok { userLockAmount := withExtraFees.userLockAmount
              serverLockAmount := withExtraFees.serverLockAmount
              percentageFee := amounts.percentageFee
              extraFee := some extraFee }
    | _, _ =>
      .ok { userLockAmount := amounts.userLockAmount
            serverLockAmount := amounts.serverLockAmount
            percentageFee := amounts.percentageFee
            extraFee := none }

end Service

/-! ## Both prices as one function of the rate -/

/-- The amounts for a user lock amount, with and without the percentage of an extra fee. -/
def priced (rate userLockAmount feePercent baseFee : ℚ) (extraFees : Option ℚ) :
    Except FeeError Quote :=
  let amounts := Renegotiator.calculateServerLockAmount rate userLockAmount feePercent baseFee
  match extraFees with
  | none =>
    .ok { percentageFee := amounts.percentageFee
          serverLockAmount := amounts.serverLockAmount
          extraFee := none }
  | some percentage =>
    (FeeProvider.calculateTotalPercentageFeeCalculation feePercent percentage).map fun total =>
      let withExtraFees :=
        Renegotiator.calculateServerLockAmount rate userLockAmount total baseFee
      { percentageFee := amounts.percentageFee
        serverLockAmount := withExtraFees.serverLockAmount
        extraFee :=
          some (mathRound (amounts.serverLockAmount - withExtraFees.serverLockAmount)) }

theorem priced_extra {rate amount feePercent baseFee percentage total : ℚ}
    (h : FeeProvider.calculateTotalPercentageFeeCalculation feePercent percentage = .ok total) :
    priced rate amount feePercent baseFee (some percentage) =
      .ok
        { percentageFee :=
            (Renegotiator.calculateServerLockAmount rate amount feePercent baseFee).percentageFee
          serverLockAmount :=
            (Renegotiator.calculateServerLockAmount rate amount total baseFee).serverLockAmount
          extraFee := some (mathRound
            ((Renegotiator.calculateServerLockAmount rate amount feePercent
                baseFee).serverLockAmount -
              (Renegotiator.calculateServerLockAmount rate amount total
                baseFee).serverLockAmount)) } := by
  unfold priced
  simp only [h]
  rfl

section

variable {cfg : RateConfig} {rp : RateProvider} {pair : PairId} {side : OrderSide} {r : ℚ}

/-- A new quote is priced with the rate of the entry. -/
theorem calculateNewQuote_priced {protector : OverpaymentProtector} {swap : QuotedSwap}
    {quote : Quote} (h : Renegotiator.calculateNewQuote cfg protector rp swap = .ok quote) :
    ∃ q, rp.taproot.rateAt .chain (getReceivingChain swap.pair swap.orderSide)
        (getSendingChain swap.pair swap.orderSide) = some q ∧
      priced q swap.receivingAmount
        (Renegotiator.getFees cfg.feeProvider swap.pair swap.orderSide swap.referral).2
        (Renegotiator.getFees cfg.feeProvider swap.pair swap.orderSide swap.referral).1
        swap.extraFees = .ok quote := by
  unfold Renegotiator.calculateNewQuote at h
  rw [swap.receiving_eq, swap.sending_eq] at h
  split at h
  · cases h
  rename_i entry hentry
  have hrate : rp.taproot.rateAt .chain (getReceivingChain swap.pair swap.orderSide)
      (getSendingChain swap.pair swap.orderSide) = some entry.rate := by
    rw [← getPairs_rate cfg swap.referral, hentry]
    rfl
  refine ⟨entry.rate, hrate, ?_⟩
  split at h
  · cases h
  split at h
  · cases h
  unfold priced
  cases hextra : swap.extraFees with
  | none =>
    rw [hextra] at h
    cases h
    rfl
  | some percentage =>
    rw [hextra] at h
    simp only at h ⊢
    split at h
    · cases h
    · rename_i total htotal
      cases h
      exact priced_extra htotal

/-- A created swap is priced with the rate `getRate` makes of it. -/
theorem createChainSwap_priced {referral : Option Referral} {amount : ℚ} {extraFees : Option ℚ}
    {created : CreatedChainSwap}
    (h : Service.createChainSwap cfg rp pair side referral (some amount) none extraFees =
      .ok created) :
    ∃ q quote, rp.taproot.rateAt .chain (getReceivingChain pair side) (getSendingChain pair side) =
        some q ∧
      priced (getRate q side true) amount
        (Renegotiator.getFees cfg.feeProvider pair side referral).2
        (Renegotiator.getFees cfg.feeProvider pair side referral).1 extraFees = .ok quote ∧
      created.serverLockAmount = quote.serverLockAmount ∧
      created.percentageFee = quote.percentageFee ∧ created.extraFee = quote.extraFee := by
  unfold Service.createChainSwap at h
  cases hfound : Service.getPair cfg rp pair side .taproot .chain referral with
  | error e =>
    rw [hfound] at h
    cases h
  | ok found =>
    rw [hfound] at h
    refine ⟨found.rate, ?_⟩
    simp only [bind, Except.bind] at h
    split at h
    · cases h
    simp only [Service.calculateChainSwapAmounts, bind, Except.bind] at h
    cases hwhole : Service.checkWholeNumber amount with
    | error e =>
      rw [hwhole] at h
      cases h
    | ok =>
      rw [hwhole] at h
      cases extraFees with
      | none =>
        cases h
        exact ⟨_, getPair_taproot hfound, rfl, rfl, rfl, rfl⟩
      | some percentage =>
        simp only at h
        split at h
        · cases h
        · rename_i total htotal
          simp only [if_true] at h
          cases h
          exact ⟨_, getPair_taproot hfound, priced_extra htotal, rfl, rfl, rfl⟩

/-- The amounts and fees of a new quote are those of a swap created with the same amount. -/
def PricesAsCreation (cfg : RateConfig) (rp : RateProvider) (pair : PairId) (side : OrderSide) :
    Prop :=
  ∀ (protector : OverpaymentProtector) (swap : QuotedSwap) (quote : Quote)
    (created : CreatedChainSwap), swap.pair = pair → swap.orderSide = side →
    Renegotiator.calculateNewQuote cfg protector rp swap = .ok quote →
    Service.createChainSwap cfg rp pair side swap.referral (some swap.receivingAmount) none
      swap.extraFees = .ok created →
    created.serverLockAmount = quote.serverLockAmount ∧
      created.percentageFee = quote.percentageFee ∧ created.extraFee = quote.extraFee

theorem pricesAsCreation_of_rate
    (h : ∀ q, rp.taproot.rateAt .chain (getReceivingChain pair side) (getSendingChain pair side) =
      some q → getRate q side true = q) :
    PricesAsCreation cfg rp pair side := by
  rintro protector swap quote created rfl rfl hquote hcreated
  obtain ⟨q, hq, hpriced⟩ := calculateNewQuote_priced hquote
  obtain ⟨q', quote', hq', hpriced', hamount, hfee, hextra⟩ := createChainSwap_priced hcreated
  obtain rfl : q = q' := Option.some.inj (hq.symm.trans hq')
  rw [h q hq, hpriced] at hpriced'
  obtain rfl : quote = quote' := Except.ok.inj hpriced'
  exact ⟨hamount, hfee, hextra⟩

/-! ## How far the prices are apart otherwise -/

/-- Rounding and the fees hide less than two units of the difference after the percentage. -/
theorem serverLockAmount_lt {x y amount p baseFee : ℚ}
    (hgap : 2 ≤ (amount * y - amount * x) * (1 - p)) :
    (Renegotiator.calculateServerLockAmount x amount p baseFee).serverLockAmount <
      (Renegotiator.calculateServerLockAmount y amount p baseFee).serverLockAmount := by
  simp only [Renegotiator.calculateServerLockAmount]
  have hx := Int.floor_le (amount * x - (⌈p * (amount * x)⌉ + baseFee))
  have hy := Int.lt_floor_add_one (amount * y - (⌈p * (amount * y)⌉ + baseFee))
  have hpx := Int.le_ceil (p * (amount * x))
  have hpy := Int.ceil_lt_add_one (p * (amount * y))
  have hlt : ((⌊amount * x - (⌈p * (amount * x)⌉ + baseFee)⌋ : ℤ) : ℚ) <
      ⌊amount * y - (⌈p * (amount * y)⌉ + baseFee)⌋ := by
    nlinarith
  exact_mod_cast hlt

/-- Amounts at which a rate and its inverse differ by two units. -/
theorem exists_gap (hr : 0 < r) (hne : r ≠ 1) :
    ∃ amount : ℕ, 2 ≤ amount * (r - 1 / r) ∨ 2 ≤ amount * (1 / r - r) := by
  have hinv : r - 1 / r ≠ 0 := by
    rw [one_div, sub_ne_zero]
    exact fun h => hne ((inv_eq_self_iff_one hr).mp h.symm)
  obtain ⟨amount, hgap⟩ : ∃ amount : ℕ, 2 ≤ amount * |r - 1 / r| :=
    ⟨⌈2 / |r - 1 / r|⌉₊, (div_le_iff₀ (abs_pos.mpr hinv)).mp (Nat.le_ceil _)⟩
  refine ⟨amount, ?_⟩
  rcases abs_choice (r - 1 / r) with h | h
  · exact .inl (h ▸ hgap)
  · rw [h] at hgap
    exact .inr (by linarith)

/-- A configuration without fees, with limits that allow `maximal`. -/
def openRates (pair : PairId) (maximal : ℚ) : RateConfig :=
  { currencies := fun _ =>
      some { chainClient := true, provider := false, arkNode := false, lightning := false }
    feeProvider :=
      { percentageFees := fun _ => none
        minerFees := fun _ _ => { normal := 0, reverse := { claim := 0, lockup := 0 } } }
    minSwapSizeMultipliers := fun _ => 6
    pairConfigs := fun id =>
      if id = pair then some { minSwapAmount := 0, maxSwapAmount := maximal } else none
    swapTypes := fun _ => [.chain] }

theorem openRates_offers (hne : pair.base ≠ pair.quote) (maximal : ℚ) (side : OrderSide) :
    (openRates pair maximal).Offers pair side .chain := by
  refine ⟨by simp [openRates], ?_, by simp [openRates]⟩
  cases side
  · simpa [RateConfig.isPossibleCombination, RateConfig.canOnchain, openRates, getReceivingChain,
      getSendingChain] using hne.symm
  · simpa [RateConfig.isPossibleCombination, RateConfig.canOnchain, openRates, getReceivingChain,
      getSendingChain] using hne

theorem openRates_limits (maximal rate : ℚ) {config : PairConfig}
    (hconfig : (openRates pair maximal).pairConfigs pair = some config) (side : OrderSide)
    (type : SwapType) :
    (openRates pair maximal).getLimits config pair side type rate =
      { minimal := 0, maximal := maximal } := by
  obtain rfl : config = { minSwapAmount := 0, maxSwapAmount := maximal } := by
    simpa [openRates, eq_comm] using hconfig
  cases type <;>
    simp [RateConfig.getLimits, PairConfig.maxLimit, PairConfig.minLimit,
      PairConfig.specificConfig, configuredOr, RateConfig.adjustMinimaForFees, openRates,
      FeeProvider.getBaseFee, RateConfig.isPossibleChainCurrency, RateConfig.canLightning]

theorem openRates_entry (hne : pair.base ≠ pair.quote) (maximal r : ℚ) (source : RateSource) :
    ∃ entry, (RateProvider.run (openRates pair maximal) {}
        [.setRate source pair r]).taproot.pairs .chain pair.quote pair.base = some entry ∧
      entry.rate = r ∧ entry.limits = { minimal := 0, maximal := maximal } := by
  have hraw : RawRate [.setRate source pair r] source pair r := ⟨[], [], rfl, by simp⟩
  obtain ⟨entry, hentry, hrate⟩ := Option.map_eq_some_iff.mp
    (RateProvider.rateAt_run hraw (openRates_offers hne maximal .buy) {})
  refine ⟨entry, hentry, ?_, ?_⟩
  · rw [hrate]
    cases source <;> simp [PairId.lastSide, hne, RateSource.rates,
      RateProviderTaproot.hardcodedRates, RateProviderTaproot.fetchedRates]
  · have hempty : ∀ t f g entry, ({} : RateProviderTaproot).pairs t f g = some entry →
        entry.limits = { minimal := 0, maximal := maximal } := by simp
    cases source <;>
      exact RateProviderTaproot.setPairs_entries
        (fun config hconfig side type rate fees => openRates_limits maximal rate hconfig side type)
        hempty _ _ _ _ hentry

/-- Without fees the two prices of an amount are the roundings of its products with the rates. -/
theorem openRates_serverLockAmount (maximal rate amount : ℚ) :
    (Renegotiator.calculateServerLockAmount rate amount
      (Renegotiator.getFees (openRates pair maximal).feeProvider pair side none).2
      (Renegotiator.getFees (openRates pair maximal).feeProvider pair side none).1) =
    Renegotiator.calculateServerLockAmount rate amount 0 0 := by
  simp [Renegotiator.getFees, FeeProvider.getPercentageFee, FeeProvider.getChainSwapBaseFees,
    openRates]

/-- On the buy side, a rate other than one is applied the other way round by a new quote. -/
theorem not_pricesAsCreation (hr : 0 < r) (hr1 : r ≠ 1) (hne : pair.base ≠ pair.quote)
    (source : RateSource) :
    ∃ maximal, ¬PricesAsCreation (openRates pair maximal)
      (RateProvider.run (openRates pair maximal) {} [.setRate source pair r]) pair .buy := by
  obtain ⟨amount, hgap⟩ := exists_gap hr hr1
  refine ⟨amount, fun h => ?_⟩
  obtain ⟨entry, hentry, hrate, hlimits⟩ := openRates_entry hne (amount : ℚ) r source
  let swap : QuotedSwap :=
    { pair := pair, orderSide := .buy, receivingAmount := amount, receivingSymbol := pair.quote
      sendingSymbol := pair.base, referral := none, extraFees := none
      receiving_eq := rfl, sending_eq := rfl }
  have hquote := h { exemptAmount := 0 } swap
    { percentageFee := 0
      serverLockAmount := (Renegotiator.calculateServerLockAmount r amount 0 0).serverLockAmount
      extraFee := none }
    { userLockAmount := amount
      serverLockAmount :=
        (Renegotiator.calculateServerLockAmount (1 / r) amount 0 0).serverLockAmount
      percentageFee := 0
      extraFee := none } rfl rfl ?_ ?_
  · have hlt : ∀ x y : ℚ, 2 ≤ amount * (y - x) →
        (Renegotiator.calculateServerLockAmount x amount 0 0).serverLockAmount <
          (Renegotiator.calculateServerLockAmount y amount 0 0).serverLockAmount := by
      intro x y hxy
      refine serverLockAmount_lt ?_
      rw [sub_zero, mul_one, ← mul_sub]
      exact hxy
    have heq : (Renegotiator.calculateServerLockAmount (1 / r) amount 0 0).serverLockAmount =
        (Renegotiator.calculateServerLockAmount r amount 0 0).serverLockAmount :=
      (Int.cast_inj (α := ℚ)).mp hquote.1
    rcases hgap with hgap | hgap
    · exact absurd heq (hlt _ _ hgap).ne
    · exact absurd heq (hlt _ _ hgap).ne'
  · have hpairs : RateProviderTaproot.getPairs (openRates pair amount)
        (RateProvider.run (openRates pair amount) {} [.setRate source pair r]).taproot .chain none
        pair.quote pair.base = some entry := hentry
    have hlow : ¬(amount : ℚ) < 0 := not_lt.mpr (Nat.cast_nonneg amount)
    have hhigh : ¬(amount : ℚ) >
        amount + OverpaymentProtector.getAllowedPositiveSlippage { exemptAmount := 0 } amount := by
      simp [OverpaymentProtector.getAllowedPositiveSlippage]
    simp only [Renegotiator.calculateNewQuote, swap, hpairs, hrate, hlimits, hlow, hhigh,
      if_false, openRates_serverLockAmount]
    simp [Renegotiator.calculateServerLockAmount]
  · have hpair : Service.getPair (openRates pair amount)
        (RateProvider.run (openRates pair amount) {} [.setRate source pair r]) pair .buy .taproot
        .chain none = .ok { rate := r, limits := { minimal := 0, maximal := amount } } := by
      simp only [Service.getPair, RateProviderTaproot.getPairs, getReceivingChain,
        getSendingChain, hentry, hrate, hlimits]
    have hwhole : Service.checkWholeNumber amount = .ok () := by
      simp [Service.checkWholeNumber]
    simp only [Service.createChainSwap, swap, hpair, bind, Except.bind, hne, if_false,
      Service.calculateChainSwapAmounts, hwhole, openRates_serverLockAmount]
    simp [Renegotiator.calculateServerLockAmount, Service.lockupRate, getRate]

/-- A new quote prices a chain swap as its creation does, for all configurations, fees and
amounts, exactly on the sell side or at the rate one. -/
theorem pricesAsCreation_iff (hr : 0 < r) (hne : pair.base ≠ pair.quote) (source : RateSource)
    (side : OrderSide) :
    (∀ cfg updates, RawRate updates source pair r → cfg.Offers pair side .chain →
      PricesAsCreation cfg (RateProvider.run cfg {} updates) pair side) ↔
      side = .sell ∨ r = 1 := by
  constructor
  · intro h
    cases side with
    | sell => exact .inl rfl
    | buy =>
      refine .inr (by_contra fun hr1 => ?_)
      obtain ⟨maximal, hnot⟩ := not_pricesAsCreation hr hr1 hne source
      exact hnot (h _ _ ⟨[], [], rfl, by simp⟩ (openRates_offers hne maximal .buy))
  · intro hside cfg updates hraw hoffers
    refine pricesAsCreation_of_rate fun q hq => ?_
    obtain rfl := Option.some.inj (hq.symm.trans (RateProvider.rateAt_run hraw hoffers {}))
    cases side with
    | sell => rfl
    | buy =>
      obtain rfl : r = 1 := hside.resolve_left (by decide)
      cases source <;> simp [PairId.lastSide, hne, RateSource.rates,
        RateProviderTaproot.hardcodedRates, RateProviderTaproot.fetchedRates]

end

theorem litecoin_sell_pricesAsCreation :
    PricesAsCreation litecoinRates
      (RateProvider.run litecoinRates {} [.setRate .fetched litecoinPair (1 / 250)])
      litecoinPair .sell :=
  (pricesAsCreation_iff (by norm_num) (by decide) .fetched .sell).mpr (.inl rfl) litecoinRates
    [.setRate .fetched litecoinPair (1 / 250)] ⟨[], [], rfl, by simp⟩
    (litecoin_offers .sell .chain)

/-- A user locks up 100000 satoshis for litecoin. -/
def litecoinSwap : QuotedSwap :=
  { pair := litecoinPair
    orderSide := .buy
    receivingAmount := 100000
    receivingSymbol := "BTC"
    sendingSymbol := "LTC"
    referral := none
    extraFees := none
    receiving_eq := rfl
    sending_eq := rfl }

/-- The swap is created with almost 25 million litoshis, the new quote for the same amount offers
77 of them. -/
theorem litecoin_buy_quote :
    ¬PricesAsCreation litecoinRates
      (RateProvider.run litecoinRates {} [.setRate .hardcoded litecoinPair (1 / 250)])
      litecoinPair .buy := by
  intro h
  have hprices := h {} litecoinSwap
    { percentageFee := 0, serverLockAmount := 77, extraFee := none }
    { userLockAmount := 100000, serverLockAmount := 24999677, percentageFee := 0,
      extraFee := none } rfl rfl (by decide +kernel) (by decide +kernel)
  norm_num at hprices

end Boltz

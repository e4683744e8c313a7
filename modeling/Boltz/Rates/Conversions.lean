import Boltz.Rates.RawRates
import Mathlib.Tactic.Ring

/-!
# Conversion rates of the swaps (`lib/service/Service.ts`, `lib/swap/SwapNursery.ts`)

`getRate` of the utilities turns the rate of an entry into the rate a swap is created with. The
rate of a submarine swap converts the invoice to what the user has to lock up, the rates of the
other swaps what the user pays to what the server locks up.
-/

namespace Boltz

inductive ServiceError where
  | pairNotFound (pair : PairId)
  | exceedMaximalAmount (amount maximal : ℚ)
  | beneathMinimalAmount (amount minimal : ℚ)
  | userAndServerAmountSpecified
  | notWholeNumber (amount : ℚ)
  | fee (error : FeeError)
  deriving DecidableEq, Repr

structure SomePair where
  rate : ℚ
  limits : PairLimits
  deriving DecidableEq, Repr

namespace Service

def getPair (cfg : RateConfig) (rp : RateProvider) (pair : PairId) (orderSide : OrderSide)
    (version : SwapVersion) (type : SwapType) (referral : Option Referral) :
    Except ServiceError SomePair :=
  match version with
  | .taproot =>
    match rp.taproot.getPairs cfg type referral (getReceivingChain pair orderSide)
        (getSendingChain pair orderSide) with
    | none => .error (.pairNotFound pair)
    | some entry => .ok { rate := entry.rate, limits := entry.limits }
  | .legacy =>
    match rp.legacy.pairs pair with
    | none => .error (.pairNotFound pair)
    | some entry => .ok { rate := entry.rate, limits := entry.limits }

/-- The rate of `setSwapInvoice`; `swapRate` is what the lockup fixed before. -/
def invoiceRate (swapRate : Option ℚ) (pairRate : ℚ) (orderSide : OrderSide) : ℚ :=
  configuredOr swapRate (getRate pairRate orderSide false)

/-- The rates of `createReverseSwap` and `createChainSwap`. -/
def lockupRate (pairRate : ℚ) (orderSide : OrderSide) : ℚ := getRate pairRate orderSide true

/-- The rate a swap without an earlier lockup is created with. -/
def createdRate (type : SwapType) (pairRate : ℚ) (orderSide : OrderSide) : ℚ :=
  match type with
  | .submarine => invoiceRate none pairRate orderSide
  | .reverseSubmarine | .chain => lockupRate pairRate orderSide

end Service

namespace SwapManager

/-- The amount `setSwapInvoice` expects for an invoice. -/
def expectedAmount (invoiceAmount rate baseFee percentageFee extraFee : ℚ) : ℚ :=
  ⌊invoiceAmount * rate⌋ + baseFee + percentageFee + extraFee

def calculateInvoiceAmount (orderSide : OrderSide) (rate onchainAmount baseFee percentageFee : ℚ) :
    ℤ :=
  let rate :=
    match orderSide with
    | .buy => 1 / rate
    | .sell => rate
  ⌊(onchainAmount - baseFee) * rate / (1 + percentageFee)⌋

end SwapManager

/-- The invoice amount `getSwapRates` offers for a lockup, with the rate that is stored. -/
def Service.swapRatesInvoiceAmount (orderSide : OrderSide)
    (swapRate onchainAmount baseFee percentageFee : ℚ) : ℤ :=
  SwapManager.calculateInvoiceAmount orderSide (getRate swapRate orderSide false) onchainAmount
    baseFee percentageFee

/-- `getRate` of the provider of a version. -/
def RateProvider.getRate (rp : RateProvider) (version : SwapVersion) (pair : PairId)
    (type : SwapType) : Option ℚ :=
  match version with
  | .taproot => rp.taproot.getRate pair type
  | .legacy => rp.legacy.getRate pair

/-- The rate `SwapNursery.setSwapRate` stores; without an entry there is no number to store. -/
def SwapNursery.setSwapRate (rp : RateProvider) (version : SwapVersion) (pair : PairId)
    (orderSide : OrderSide) (swapRate : Option ℚ) : Option ℚ :=
  if swapRate = none ∨ swapRate = some 0 then
    (rp.getRate version pair .submarine).map fun rate => Boltz.getRate rate orderSide false
  else swapRate

/-! ## Directions -/

/-- What a unit of the incoming currency is worth in the outgoing one, by the rate of a swap. -/
def conversion (type : SwapType) (rate : ℚ) : ℚ :=
  match type with
  | .submarine => 1 / rate
  | .reverseSubmarine | .chain => rate

/-- The raw rate `r` counts quote units for a base unit: the buy side converts quote to base. -/
def incomingToOutgoing (orderSide : OrderSide) (r : ℚ) : ℚ :=
  match orderSide with
  | .buy => 1 / r
  | .sell => r

theorem swapRatesInvoiceAmount_eq (side : OrderSide)
    (swapRate onchainAmount baseFee percentageFee : ℚ) :
    Service.swapRatesInvoiceAmount side swapRate onchainAmount baseFee percentageFee =
      ⌊(onchainAmount - baseFee) * conversion .submarine swapRate / (1 + percentageFee)⌋ := by
  cases side <;> rfl

/-- The rates of a pair convert in one direction: that of a swap that is created with its amount,
and for a submarine swap also the one that is fixed when the lockup comes before the invoice. -/
structure OneDirection (cfg : RateConfig) (rp : RateProvider) (version : SwapVersion)
    (pair : PairId) (side : OrderSide) (type : SwapType) (r : ℚ) : Prop where
  created : ∀ referral entry, Service.getPair cfg rp pair side version type referral = .ok entry →
    conversion type (Service.createdRate type entry.rate side) = incomingToOutgoing side r
  lockupFirst : type = .submarine → ∀ referral entry,
    Service.getPair cfg rp pair side version type referral = .ok entry →
      SwapNursery.setSwapRate rp version pair side none =
        some (Service.createdRate type entry.rate side)

/-- The pair is offered for new swaps of a version. -/
def RateConfig.OffersVersion (cfg : RateConfig) (version : SwapVersion) (pair : PairId)
    (side : OrderSide) (type : SwapType) : Prop :=
  match version with
  | .taproot => cfg.Offers pair side type
  | .legacy => ∃ config, cfg.pairConfigs pair = some config ∧ config.isLegacy = true

/-- When the entries of a pair convert in one direction. -/
def KeepsDirection (cfg : RateConfig) (source : RateSource) (version : SwapVersion)
    (pair : PairId) (side : OrderSide) (type : SwapType) (r : ℚ) : Prop :=
  match version, type with
  | .legacy, _ => True
  | .taproot, .submarine => r = 1 ∧ cfg.Offers pair .sell .submarine
  | .taproot, .reverseSubmarine | .taproot, .chain =>
    r = 1 ∨ source = .hardcoded ∨ (side = .buy ∧ pair.base ≠ pair.quote)

section

variable {cfg : RateConfig} {rp : RateProvider} {pair : PairId} {side : OrderSide}
variable {type : SwapType} {r q : ℚ} {source : RateSource} {updates : List RateUpdate}

@[simp] theorem createdRate_submarine :
    Service.createdRate .submarine q side = getRate q side false := rfl

@[simp] theorem createdRate_reverse :
    Service.createdRate .reverseSubmarine q side = getRate q side true := rfl

@[simp] theorem createdRate_chain :
    Service.createdRate .chain q side = getRate q side true := rfl

theorem getPairs_rate (cfg : RateConfig) (referral : Option Referral) (f g : String) :
    (rp.taproot.getPairs cfg type referral f g).map (·.rate) = rp.taproot.rateAt type f g := by
  cases referral with
  | none => rfl
  | some referral =>
    simp only [RateProviderTaproot.getPairs, RateProviderTaproot.rateAt, Option.map_map]
    rfl

/-- The rate `getPair` finds is the rate of the entry, with or without a referral. -/
theorem getPair_taproot {referral : Option Referral} {entry : SomePair}
    (h : Service.getPair cfg rp pair side .taproot type referral = .ok entry) :
    rp.taproot.rateAt type (getReceivingChain pair side) (getSendingChain pair side) =
      some entry.rate := by
  simp only [Service.getPair] at h
  rw [← getPairs_rate cfg referral]
  split at h
  · cases h
  · rename_i found hfound
    cases h
    rw [hfound]
    rfl

theorem exists_getPair_taproot (cfg : RateConfig)
    (h : rp.taproot.rateAt type (getReceivingChain pair side) (getSendingChain pair side) =
      some q) :
    ∃ entry, Service.getPair cfg rp pair side .taproot type none = .ok entry ∧ entry.rate = q := by
  obtain ⟨found, hfound, rfl⟩ := Option.map_eq_some_iff.mp h
  refine ⟨{ rate := found.rate, limits := found.limits }, ?_, rfl⟩
  simp only [Service.getPair, RateProviderTaproot.getPairs, hfound]

theorem getPair_legacy {referral : Option Referral} {entry : SomePair}
    (h : Service.getPair cfg rp pair side .legacy type referral = .ok entry) :
    rp.legacy.getRate pair = some entry.rate := by
  simp only [Service.getPair] at h
  split at h
  · cases h
  · rename_i found hfound
    cases h
    simp [RateProviderLegacy.getRate, hfound]

/-- The property, for the rate of the entry. -/
theorem oneDirection_taproot_iff
    (h : rp.taproot.rateAt type (getReceivingChain pair side) (getSendingChain pair side) =
      some q) :
    OneDirection cfg rp .taproot pair side type r ↔
      conversion type (Service.createdRate type q side) = incomingToOutgoing side r ∧
        (type = .submarine → SwapNursery.setSwapRate rp .taproot pair side none =
          some (Service.createdRate type q side)) := by
  constructor
  · intro hone
    obtain ⟨entry, hentry, rfl⟩ := exists_getPair_taproot cfg h
    exact ⟨hone.created none entry hentry,
      fun htype => hone.lockupFirst htype none entry hentry⟩
  · rintro ⟨hcreated, hlockup⟩
    refine ⟨fun referral entry hentry => ?_, fun htype referral entry hentry => ?_⟩ <;>
      obtain rfl : q = entry.rate := Option.some.inj (h.symm.trans (getPair_taproot hentry))
    · exact hcreated
    · exact hlockup htype

theorem oneDirection_legacy (h : rp.legacy.getRate pair = some r) :
    OneDirection cfg rp .legacy pair side type r := by
  constructor
  · intro referral entry hentry
    obtain rfl : r = entry.rate := Option.some.inj (h.symm.trans (getPair_legacy hentry))
    cases type <;> cases side <;> simp [conversion, getRate, incomingToOutgoing]
  · rintro rfl referral entry hentry
    obtain rfl : r = entry.rate := Option.some.inj (h.symm.trans (getPair_legacy hentry))
    simp [SwapNursery.setSwapRate, RateProvider.getRate, h]

/-- The rate the lockup fixes comes from the entry of the sell side, whatever the side. -/
theorem setSwapRate_taproot :
    SwapNursery.setSwapRate rp .taproot pair side none =
      (rp.taproot.rateAt .submarine pair.base pair.quote).map (getRate · side false) := by
  simp [SwapNursery.setSwapRate, RateProvider.getRate, RateProviderTaproot.getRate,
    RateProviderTaproot.rateAt, getReceivingChain, getSendingChain]

theorem rates_submarine (source : RateSource) (r : ℚ) (side : OrderSide) :
    source.rates r side .submarine = getRate r side false := by
  cases source <;> cases side <;> rfl

theorem oneDirection_submarine (hr : 0 < r) (hraw : RawRate updates source pair r)
    (hoffers : cfg.Offers pair side .submarine) :
    OneDirection cfg (RateProvider.run cfg {} updates) .taproot pair side .submarine r ↔
      r = 1 ∧ cfg.Offers pair .sell .submarine := by
  rw [oneDirection_taproot_iff (RateProvider.rateAt_run hraw hoffers {}), rates_submarine]
  simp only [createdRate_submarine, conversion, forall_const, setSwapRate_taproot]
  by_cases hsell : cfg.Offers pair .sell .submarine
  · have hentry := RateProvider.rateAt_run hraw hsell {}
    simp only [getReceivingChain, getSendingChain] at hentry
    have hlast : pair.lastSide .sell = .sell := by
      unfold PairId.lastSide
      split <;> rfl
    rw [hentry, rates_submarine, hlast]
    have hinv := inv_eq_self_iff_one hr
    cases side with
    | sell => simp [getRate, incomingToOutgoing, hlast, hinv, hsell]
    | buy =>
      -- with one currency both sides read the entry of the sell side
      by_cases hsame : pair.base = pair.quote
      · simp [getRate, incomingToOutgoing, PairId.lastSide, hsame, hsell, eq_comm.trans hinv]
      · simp [getRate, incomingToOutgoing, PairId.lastSide, hsame, hsell, hinv]
  · cases side with
    | sell => exact absurd hoffers hsell
    | buy =>
      have himpossible : cfg.isPossibleCombination .submarine pair.base pair.quote = false := by
        by_contra hposs
        rw [Bool.not_eq_false] at hposs
        exact hsell ⟨hoffers.1, hposs, hoffers.2.2⟩
      have hnone := RateProvider.rateAt_run_impossible himpossible updates {} rfl
      simp [hnone, hsell]

theorem oneDirection_lockup (hr : 0 < r) (hraw : RawRate updates source pair r)
    (hoffers : cfg.Offers pair side type) (htype : type ≠ .submarine) :
    OneDirection cfg (RateProvider.run cfg {} updates) .taproot pair side type r ↔
      r = 1 ∨ source = .hardcoded ∨ (side = .buy ∧ pair.base ≠ pair.quote) := by
  rw [oneDirection_taproot_iff (RateProvider.rateAt_run hraw hoffers {})]
  have hinv := inv_eq_self_iff_one hr
  have hcreated : ∀ q, conversion type (Service.createdRate type q side) = getRate q side true := by
    intro q
    cases type
    · exact absurd rfl htype
    · rfl
    · rfl
  have hrates : ∀ s, source.rates r s type =
      if source = .hardcoded then r else getRate r s false := by
    intro s
    cases source <;> cases type <;> cases s <;> simp_all [RateSource.rates, getRate,
      RateProviderTaproot.hardcodedRates, RateProviderTaproot.fetchedRates]
  rw [hcreated, hrates]
  simp only [htype, false_implies, and_true]
  cases source with
  | hardcoded => cases side <;> simp [getRate, incomingToOutgoing]
  | fetched =>
    by_cases hsame : pair.base = pair.quote <;> cases side <;>
      simp [getRate, incomingToOutgoing, PairId.lastSide, hsame, hinv, eq_comm.trans hinv]

/-- The entries of a pair convert in one direction exactly in the listed cases: for every run of
rate updates, kind of swap and side. -/
theorem oneDirection_iff (hr : 0 < r) (version : SwapVersion) (hraw : RawRate updates source pair r)
    (hoffers : cfg.OffersVersion version pair side type) :
    OneDirection cfg (RateProvider.run cfg {} updates) version pair side type r ↔
      KeepsDirection cfg source version pair side type r := by
  cases version with
  | legacy =>
    obtain ⟨config, hconfig, hlegacy⟩ := hoffers
    refine iff_of_true (oneDirection_legacy ?_) trivial
    exact RateProvider.legacy_run hraw hconfig hlegacy {}
  | taproot =>
    cases type with
    | submarine => exact oneDirection_submarine hr hraw hoffers
    | reverseSubmarine => exact oneDirection_lockup hr hraw hoffers (by decide)
    | chain => exact oneDirection_lockup hr hraw hoffers (by decide)

end

/-! ## A pair with two Lightning networks -/

def litecoinPair : PairId := { base := "LTC", quote := "BTC" }

/-- `LTC/BTC` for all swaps of both versions. -/
def litecoinRates : RateConfig :=
  { currencies := fun symbol =>
      if symbol = "LTC" ∨ symbol = "BTC" then
        some { chainClient := true, provider := false, arkNode := false, lightning := true }
      else none
    feeProvider :=
      { percentageFees := fun _ => none
        minerFees := fun _ _ => { normal := 170, reverse := { claim := 138, lockup := 153 } } }
    minSwapSizeMultipliers := fun _ => 6
    pairConfigs := fun pair =>
      if pair = litecoinPair then
        some { minSwapAmount := 10000, maxSwapAmount := 10000000, isLegacy := true }
      else none
    swapTypes := fun _ => [.submarine, .reverseSubmarine, .chain] }

theorem litecoin_offers (side : OrderSide) (type : SwapType) :
    litecoinRates.Offers litecoinPair side type := by
  cases side <;> cases type <;> decide

theorem litecoin_hardcoded_reverse :
    OneDirection litecoinRates
      (RateProvider.run litecoinRates {} [.setRate .hardcoded litecoinPair (1 / 250)])
      .taproot litecoinPair .sell .reverseSubmarine (1 / 250) :=
  (oneDirection_iff (by norm_num) .taproot ⟨[], [], rfl, by simp⟩
    (litecoin_offers .sell .reverseSubmarine)).mpr (.inr (.inl rfl))

/-- At 250 litecoin for a bitcoin, who pays a bitcoin invoice is asked for a 250th of its amount in
litecoin. -/
theorem litecoin_fetched_submarine :
    ¬OneDirection litecoinRates
      (RateProvider.run litecoinRates {} [.setRate .fetched litecoinPair (1 / 250)])
      .taproot litecoinPair .sell .submarine (1 / 250) := by
  intro h
  have hraw : RawRate [.setRate .fetched litecoinPair (1 / 250)] .fetched litecoinPair (1 / 250) :=
    ⟨[], [], rfl, by simp⟩
  have hone := (oneDirection_submarine (by norm_num) hraw (litecoin_offers .sell .submarine)).mp h
  norm_num at hone

end Boltz

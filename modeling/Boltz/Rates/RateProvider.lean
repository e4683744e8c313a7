import Boltz.Rates.FeeProvider

/-!
# Rates of the pairs (`lib/rates/RateProvider.ts`, `lib/rates/providers`)

The Taproot provider keeps one entry for each kind of swap and each direction of a pair, the legacy
provider one entry for each pair. Rates come from the configuration (hardcoded) or from exchanges
(fetched); miner fees and limits of a hardcoded pair are updated later without touching its rate.
-/

namespace Boltz

structure PairLimitsConfig where
  minSwapAmount : Option ℚ := none
  maxSwapAmount : Option ℚ := none
  minBatchedAmount : Option ℚ := none
  deriving DecidableEq, Repr

structure PairConfig where
  minSwapAmount : ℚ
  maxSwapAmount : ℚ
  chainSwap : Option PairLimitsConfig := none
  submarineSwap : Option PairLimitsConfig := none
  isLegacy : Bool := false
  deriving DecidableEq, Repr

/-- Which clients a `Currency` of the wallet manager has. -/
structure CurrencyClients where
  chainClient : Bool
  provider : Bool
  arkNode : Bool
  lightning : Bool
  deriving DecidableEq, Repr

structure PairLimits where
  minimal : ℚ
  maximal : ℚ
  minimalBatched : Option ℚ := none
  deriving DecidableEq, Repr

structure PairFees where
  percentage : ℚ
  minerFees : PairMinerFees
  deriving DecidableEq, Repr

/-- An entry of the Taproot provider. -/
structure PairTypeTaproot where
  rate : ℚ
  limits : PairLimits
  fees : PairFees
  deriving DecidableEq, Repr

structure PairTypeLegacy where
  rate : ℚ
  limits : PairLimits
  deriving DecidableEq, Repr

/-- What the providers are constructed with. -/
structure RateConfig where
  currencies : String → Option CurrencyClients
  feeProvider : FeeProvider
  minSwapSizeMultipliers : SwapType → ℚ
  pairConfigs : PairId → Option PairConfig
  swapTypes : PairId → List SwapType

/-- The nested maps of the Taproot provider, read as `map.get(from)?.get(to)`. -/
structure RateProviderTaproot where
  pairs : SwapType → String → String → Option PairTypeTaproot := fun _ _ _ => none

structure RateProviderLegacy where
  pairs : PairId → Option PairTypeLegacy := fun _ => none

/-- `ElementsClient.symbol`. -/
def elementsSymbol : String := "L-BTC"

namespace RateConfig

def canLightning (cfg : RateConfig) (currency : String) : Bool :=
  match cfg.currencies currency with
  | none => false
  | some cur => cur.lightning

def canOnchain (cfg : RateConfig) (currency : String) : Bool :=
  match cfg.currencies currency with
  | none => false
  | some cur => cur.chainClient || cur.provider || cur.arkNode

def isPossibleCombination (cfg : RateConfig) (type : SwapType) (fromAsset toAsset : String) :
    Bool :=
  match type with
  | .submarine => cfg.canOnchain fromAsset && cfg.canLightning toAsset
  | .reverseSubmarine => cfg.canLightning fromAsset && cfg.canOnchain toAsset
  | .chain => fromAsset != toAsset && cfg.canOnchain fromAsset && cfg.canOnchain toAsset

def isPossibleChainCurrency (cfg : RateConfig) (chainCurrency lightningCurrency : String) :
    Bool :=
  (match cfg.currencies chainCurrency with
    | none => false
    | some cur => cur.chainClient) && cfg.canLightning lightningCurrency

/-- The legacy provider calls this without a side and a type. -/
def adjustMinimaForFees (cfg : RateConfig) (pair : PairId) (rate configuredMinima : ℚ)
    (orderSide : Option OrderSide) (type : Option SwapType) : ℚ :=
  -- Liquid fees are stable
  if type.isSome && type != some .chain &&
      (pair.base == elementsSymbol || pair.quote == elementsSymbol) then
    configuredMinima
  else
    let isReverse := type == some .reverseSubmarine
    let pairsToCheck :=
      match orderSide, type with
      | none, _ => [(pair.base, pair.quote), (pair.quote, pair.base)]
      | some _, some .chain => [(pair.base, pair.quote), (pair.quote, pair.base)]
      | some side, _ =>
        [(getChainCurrency pair side isReverse, getLightningCurrency pair side isReverse)]
    let checked := pairsToCheck.filter fun currencies =>
      type == some .chain || cfg.isPossibleChainCurrency currencies.1 currencies.2
    let limits := checked.map fun currencies =>
      let limit := cfg.feeProvider.getBaseFee currencies.1 .legacy .normalClaim *
        cfg.minSwapSizeMultipliers (type.getD .submarine)
      if currencies.1 == pair.base then limit * rate else limit
    ⌈limits.foldl max configuredMinima⌉

end RateConfig

/-- `specificConfig?.[entry] || config[entry]`: zero counts as not configured. -/
def configuredOr (specific : Option ℚ) (general : ℚ) : ℚ :=
  match specific with
  | none => general
  | some value => if value = 0 then general else value

namespace PairConfig

def specificConfig (config : PairConfig) : SwapType → Option PairLimitsConfig
  | .submarine => config.submarineSwap
  | .chain => config.chainSwap
  | .reverseSubmarine => none

def minLimit (config : PairConfig) (type : SwapType) : ℚ :=
  configuredOr ((config.specificConfig type).bind (·.minSwapAmount)) config.minSwapAmount

def maxLimit (config : PairConfig) (type : SwapType) : ℚ :=
  configuredOr ((config.specificConfig type).bind (·.maxSwapAmount)) config.maxSwapAmount

end PairConfig

def RateConfig.getLimits (cfg : RateConfig) (config : PairConfig) (pair : PairId)
    (orderSide : OrderSide) (type : SwapType) (rate : ℚ) : PairLimits :=
  { maximal := config.maxLimit type
    minimal :=
      cfg.adjustMinimaForFees pair rate (config.minLimit type) (some orderSide) (some type)
    minimalBatched :=
      if type = .submarine then config.submarineSwap.bind (·.minBatchedAmount) else none }

/-- The keys of `getToMap`. -/
def fromAsset (pair : PairId) (orderSide : OrderSide) : SwapType → String
  | .submarine => getChainCurrency pair orderSide false
  | .reverseSubmarine => getLightningCurrency pair orderSide true
  | .chain => getReceivingChain pair orderSide

def toAsset (pair : PairId) (orderSide : OrderSide) : SwapType → String
  | .submarine => getLightningCurrency pair orderSide false
  | .reverseSubmarine => getChainCurrency pair orderSide true
  | .chain => getSendingChain pair orderSide

namespace RateProviderTaproot

def set (p : RateProviderTaproot) (type : SwapType) (fromAsset toAsset : String)
    (entry : PairTypeTaproot) : RateProviderTaproot :=
  { pairs := fun t f g =>
      if t = type ∧ f = fromAsset ∧ g = toAsset then some entry else p.pairs t f g }

/-- A pair without a configuration makes `getLimits` throw, before the map is written. -/
def setPair (cfg : RateConfig) (pair : PairId) (orderSide : OrderSide) (type : SwapType)
    (rate : Option ℚ) (minerFees : Option PairMinerFees) (p : RateProviderTaproot) :
    RateProviderTaproot :=
  let fromAsset := fromAsset pair orderSide type
  let toAsset := toAsset pair orderSide type
  if type ∉ cfg.swapTypes pair then p
  else if !cfg.isPossibleCombination type fromAsset toAsset then p
  else
    match rate.or ((p.pairs type fromAsset toAsset).map (·.rate)), cfg.pairConfigs pair with
    | some rate, some config =>
      p.set type fromAsset toAsset
        { rate := rate
          limits := cfg.getLimits config pair orderSide type rate
          fees :=
            { percentage :=
                cfg.feeProvider.getPercentageFee pair orderSide type .display none
              minerFees :=
                minerFees.getD (cfg.feeProvider.getSwapBaseFees pair orderSide type) } }
    | _, _ => p

/-- One round of the loops over both sides, with the rates and miner fees it passes. -/
def setPairs (cfg : RateConfig) (pair : PairId) (rates : OrderSide → SwapType → Option ℚ)
    (minerFees : SwapType → Option PairMinerFees) (p : RateProviderTaproot) :
    RateProviderTaproot :=
  let setSide (orderSide : OrderSide) (p : RateProviderTaproot) :=
    [SwapType.submarine, .reverseSubmarine, .chain].foldl
      (fun p type => p.setPair cfg pair orderSide type (rates orderSide type) (minerFees type)) p
  setSide .sell (setSide .buy p)

def noMinerFees : SwapType → PairMinerFees
  | .submarine => .submarine 0
  | .reverseSubmarine => .reverse { claim := 0, lockup := 0 }
  | .chain => .chain { server := 0, user := { claim := 0, lockup := 0 } }

/-- The rates `setHardcodedPair` passes. -/
def hardcodedRates (rate : ℚ) (orderSide : OrderSide) (type : SwapType) : ℚ :=
  match type with
  | .submarine =>
    match orderSide with
    | .buy => rate
    | .sell => 1 / rate
  | .reverseSubmarine | .chain => rate

/-- The rates `updatePair` passes. -/
def fetchedRates (rawRate : ℚ) (orderSide : OrderSide) (_type : SwapType) : ℚ :=
  match orderSide with
  | .buy => rawRate
  | .sell => 1 / rawRate

def setHardcodedPair (cfg : RateConfig) (pair : PairId) (rate : ℚ) (p : RateProviderTaproot) :
    RateProviderTaproot :=
  p.setPairs cfg pair (fun side type => some (hardcodedRates rate side type))
    (fun type => some (noMinerFees type))

def updatePair (cfg : RateConfig) (pair : PairId) (rawRate : ℚ) (p : RateProviderTaproot) :
    RateProviderTaproot :=
  p.setPairs cfg pair (fun side type => some (fetchedRates rawRate side type)) (fun _ => none)

def updateHardcodedPair (cfg : RateConfig) (pair : PairId) (p : RateProviderTaproot) :
    RateProviderTaproot :=
  p.setPairs cfg pair (fun _ _ => none) (fun _ => none)

def getRate (p : RateProviderTaproot) (pair : PairId) (type : SwapType) : Option ℚ :=
  (p.pairs type (fromAsset pair .sell type) (toAsset pair .sell type)).map (·.rate)

/-- `getSubmarinePairs`, `getReversePairs` and `getChainPairs`: a referral changes limits and
percentages of the entries, which all are of configured pairs. -/
def getPairs (cfg : RateConfig) (p : RateProviderTaproot) (type : SwapType)
    (referral : Option Referral) (fromAsset toAsset : String) : Option PairTypeTaproot :=
  match referral with
  | none => p.pairs type fromAsset toAsset
  | some referral =>
    (p.pairs type fromAsset toAsset).map fun value =>
      let pairIds := [PairId.mk fromAsset toAsset, PairId.mk toAsset fromAsset]
      let quote := ((pairIds.find? fun id => (cfg.pairConfigs id).isSome).map (·.quote)).getD ""
      let side := if toAsset = quote then OrderSide.sell else .buy
      let premium := referral.premiumForPairs pairIds type side
      let limits := referral.limitsForPairs pairIds type
      { value with
        limits :=
          { value.limits with
            minimal := ((limits.bind (·.minimal)).map (max value.limits.minimal)).getD
              value.limits.minimal
            maximal := ((limits.bind (·.maximal)).map (min value.limits.maximal)).getD
              value.limits.maximal }
        fees := { value.fees with
          percentage := FeeProvider.addPremium value.fees.percentage premium } }

end RateProviderTaproot

namespace RateProviderLegacy

def getLimits (cfg : RateConfig) (config : PairConfig) (pair : PairId) (rate : ℚ) : PairLimits :=
  { maximal := config.maxSwapAmount
    minimal := cfg.adjustMinimaForFees pair rate config.minSwapAmount none none }

/-- `setPair` behind `getLimits`, which throws for a pair without a configuration. -/
def setPair (cfg : RateConfig) (pair : PairId) (rate : ℚ) (p : RateProviderLegacy) :
    RateProviderLegacy :=
  match cfg.pairConfigs pair with
  | none => p
  | some config =>
    if config.isLegacy then
      { pairs := fun id =>
          if id = pair then some { rate := rate, limits := getLimits cfg config pair rate }
          else p.pairs id }
    else p

def updateHardcodedPair (cfg : RateConfig) (pair : PairId) (p : RateProviderLegacy) :
    RateProviderLegacy :=
  match p.pairs pair with
  | none => p
  | some pairInfo => p.setPair cfg pair pairInfo.rate

def getRate (p : RateProviderLegacy) (pair : PairId) : Option ℚ := (p.pairs pair).map (·.rate)

end RateProviderLegacy

/-- The providers of both versions, which `forProviders` updates together. -/
structure RateProvider where
  taproot : RateProviderTaproot := {}
  legacy : RateProviderLegacy := {}

/-- Where the rate of a pair comes from. -/
inductive RateSource where
  | hardcoded | fetched
  deriving DecidableEq, Repr

inductive RateUpdate where
  | setRate (source : RateSource) (pair : PairId) (rate : ℚ)
  | updateHardcodedPair (pair : PairId)
  deriving DecidableEq, Repr

namespace RateProvider

def update (cfg : RateConfig) (rp : RateProvider) : RateUpdate → RateProvider
  | .setRate .hardcoded pair rate =>
    { taproot := rp.taproot.setHardcodedPair cfg pair rate
      legacy := rp.legacy.setPair cfg pair rate }
  | .setRate .fetched pair rate =>
    { taproot := rp.taproot.updatePair cfg pair rate
      legacy := rp.legacy.setPair cfg pair rate }
  | .updateHardcodedPair pair =>
    { taproot := rp.taproot.updateHardcodedPair cfg pair
      legacy := rp.legacy.updateHardcodedPair cfg pair }

def run (cfg : RateConfig) (rp : RateProvider) (updates : List RateUpdate) : RateProvider :=
  updates.foldl (update cfg) rp

end RateProvider

end Boltz

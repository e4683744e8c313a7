import Boltz.Rates.Quotes

/-!
# Amounts of reverse and submarine swaps (`lib/service/Service.ts`, `lib/swap/SwapManager.ts`)

A reverse swap is created with the amount of its invoice or with the onchain amount. The amount of
a submarine swap is checked when it gets its invoice; when the user has locked up already, the
service suggests an invoice amount for the lockup.
-/

namespace Boltz

/-- `SwapFees`. -/
structure SwapFees where
  baseFee : ℚ
  percentageFee : ℤ
  percentageFeeRate : ℚ
  extraFee : Option ℤ
  deriving DecidableEq, Repr

def FeeProvider.getFees (fees : FeeProvider) (pair : PairId) (swapVersion : SwapVersion)
    (rate : ℚ) (orderSide : OrderSide) (amount : ℚ) (type : SwapType) (feeType : BaseFeeType)
    (referral : Option Referral) (extraFees : Option ℚ) : Except FeeError SwapFees := do
  let percentageFeeRate := fees.getPercentageFee pair orderSide type .calculation referral
  let percentageFee := ⌈percentageFeeRate * amount * rate⌉
  let chainCurrency := getChainCurrency pair orderSide (type == .reverseSubmarine)
  let baseFee := fees.getBaseFee chainCurrency swapVersion feeType
  match extraFees with
  | none => return { baseFee, percentageFee, percentageFeeRate, extraFee := none }
  | some percentage =>
    let total ← calculateTotalPercentageFeeCalculation percentageFeeRate percentage
    let percentageFeeWithExtraFees := ⌈total * amount * rate⌉
    return { baseFee, percentageFee, percentageFeeRate
             extraFee := some (mathRound ((percentageFeeWithExtraFees - percentageFee : ℤ) : ℚ)) }

/-! ## Reverse swaps -/

inductive ReverseSwapError where
  | invoiceAndOnchainAmountSpecified
  | noAmountSpecified
  | service (error : ServiceError)
  deriving DecidableEq, Repr

structure ReverseSwapAmounts where
  onchainAmount : ℚ
  holdInvoiceAmount : ℚ
  percentageFee : ℤ
  invoiceAmountDefined : Bool
  deriving DecidableEq, Repr

/-- The amounts of `createReverseSwap`. -/
structure CreatedReverseSwap where
  onchainAmount : ℚ
  holdInvoiceAmount : ℚ
  percentageFee : ℤ
  extraFee : Option ℤ
  deriving DecidableEq, Repr

namespace Service

def calculateReverseSwapAmounts (invoiceAmount onchainAmount : Option ℚ)
    (rate feePercent baseFee : ℚ) : Except ReverseSwapError ReverseSwapAmounts :=
  match invoiceAmount, onchainAmount with
  | some _, some _ => .error .invoiceAndOnchainAmountSpecified
  | some invoiceAmount, none => do
    (checkWholeNumber invoiceAmount).mapError .service
    let onchainAmount := invoiceAmount * rate
    let percentageFee := ⌈feePercent * onchainAmount⌉
    .ok { onchainAmount := ⌊onchainAmount - (percentageFee + baseFee)⌋
          holdInvoiceAmount := invoiceAmount
          percentageFee := percentageFee
          invoiceAmountDefined := true }
  | none, some onchainAmount => do
    (checkWholeNumber onchainAmount).mapError .service
    let holdInvoiceAmount : ℚ := ⌈(onchainAmount + baseFee) / rate / (1 - feePercent)⌉
    .ok { onchainAmount := onchainAmount
          holdInvoiceAmount := holdInvoiceAmount
          percentageFee := ⌈holdInvoiceAmount * rate * feePercent⌉
          invoiceAmountDefined := false }
  | none, none => .error .noAmountSpecified

/-- The amounts of `createReverseSwap`, before they are held against the limits and the balance and
before the miner fee is taken out of the invoice. -/
def createReverseSwap (cfg : RateConfig) (rp : RateProvider) (pair : PairId) (side : OrderSide)
    (version : SwapVersion) (referral : Option Referral)
    (invoiceAmount onchainAmount extraFees : Option ℚ) :
    Except ReverseSwapError CreatedReverseSwap := do
  let found ← (getPair cfg rp pair side version .reverseSubmarine referral).mapError .service
  let rate := lockupRate found.rate side
  let feePercent :=
    cfg.feeProvider.getPercentageFee pair side .reverseSubmarine .calculation referral
  let baseFee := cfg.feeProvider.getBaseFee (getSendingChain pair side) version .reverseLockup
  let amounts ← calculateReverseSwapAmounts invoiceAmount onchainAmount rate feePercent baseFee
  match extraFees with
  | none =>
    return { onchainAmount := amounts.onchainAmount
             holdInvoiceAmount := amounts.holdInvoiceAmount
             percentageFee := amounts.percentageFee
             extraFee := none }
  | some percentage =>
    let total ← (FeeProvider.calculateTotalPercentageFeeCalculation feePercent
      percentage).mapError fun e => .service (.fee e)
    let withExtraFees ← calculateReverseSwapAmounts invoiceAmount onchainAmount rate total baseFee
    let extraFee :=
      if amounts.invoiceAmountDefined then
        mathRound (amounts.onchainAmount - withExtraFees.onchainAmount)
      else mathRound (withExtraFees.holdInvoiceAmount - amounts.holdInvoiceAmount)
    return { onchainAmount := withExtraFees.onchainAmount
             holdInvoiceAmount := withExtraFees.holdInvoiceAmount
             percentageFee := amounts.percentageFee
             extraFee := some extraFee }

end Service

/-! ## Submarine swaps -/

inductive SubmarineError where
  | swapNoLockup
  | invalidInvoiceAmount (maxInvoiceAmount : ℤ)
  | service (error : ServiceError)
  deriving DecidableEq, Repr

/-- The row of a submarine swap with a lockup, whose rate is set with it. -/
structure LockedSwap where
  pair : PairId
  orderSide : OrderSide
  version : SwapVersion
  rate : ℚ
  onchainAmount : ℕ
  referral : Option Referral

/-- The check of `SwapManager.setSwapInvoice`, which returns the expected amount. -/
def SwapManager.checkExpectedAmount (orderSide : OrderSide) (rate invoiceAmount : ℚ)
    (onchainAmount : ℕ) (fees : SwapFees) : Except SubmarineError ℚ :=
  let expected := expectedAmount invoiceAmount rate fees.baseFee fees.percentageFee
    (((fees.extraFee.getD 0 : ℤ) : ℚ))
  if onchainAmount ≠ 0 ∧ expected > onchainAmount then
    let maxInvoiceAmount := calculateInvoiceAmount orderSide rate onchainAmount fees.baseFee
      fees.percentageFeeRate
    .error (.invalidInvoiceAmount (max maxInvoiceAmount 0))
  else .ok expected

namespace Service

def limitsMinimal (limits : PairLimits) : ℚ := configuredOr limits.minimalBatched limits.minimal

def verifySubmarineOnchainMinimum (cfg : RateConfig) (rp : RateProvider) (swap : LockedSwap) :
    Except ServiceError Unit := do
  let found ← getPair cfg rp swap.pair swap.orderSide swap.version .submarine swap.referral
  if (swap.onchainAmount : ℚ) < limitsMinimal found.limits then
    .error (.beneathMinimalAmount swap.onchainAmount (limitsMinimal found.limits))
  else .ok ()

def verifyAmount (cfg : RateConfig) (rp : RateProvider) (pair : PairId) (rate amount : ℚ)
    (orderSide : OrderSide) (version : SwapVersion) (type : SwapType) (referral : Option Referral)
    (verifyMinimal : Bool) : Except ServiceError Unit := do
  let amount : ℚ :=
    if (type == .submarine && orderSide == .buy) || (type != .submarine && orderSide == .sell) then
      ⌊amount * rate⌋
    else amount
  let found ← getPair cfg rp pair orderSide version type referral
  if (⌊amount⌋ : ℚ) > found.limits.maximal then
    .error (.exceedMaximalAmount amount found.limits.maximal)
  else if verifyMinimal ∧ (⌈amount⌉ : ℚ) < limitsMinimal found.limits then
    .error (.beneathMinimalAmount amount (limitsMinimal found.limits))
  else .ok ()

/-- The invoice amount for a lockup. -/
def getSwapRates (cfg : RateConfig) (rp : RateProvider) (swap : LockedSwap) :
    Except SubmarineError ℤ :=
  if swap.onchainAmount = 0 then .error .swapNoLockup
  else do
    let percentageFee := cfg.feeProvider.getPercentageFee swap.pair swap.orderSide .submarine
      .calculation swap.referral
    let baseFee := cfg.feeProvider.getBaseFee (getChainCurrency swap.pair swap.orderSide false)
      swap.version .normalClaim
    (verifySubmarineOnchainMinimum cfg rp swap).mapError .service
    let invoiceAmount := swapRatesInvoiceAmount swap.orderSide swap.rate swap.onchainAmount baseFee
      percentageFee
    (verifyAmount cfg rp swap.pair (getRate swap.rate swap.orderSide false) invoiceAmount
      swap.orderSide swap.version .submarine swap.referral false).mapError .service
    return invoiceAmount

/-- The fees of an invoice. -/
def invoiceFees (cfg : RateConfig) (swap : LockedSwap) (rate invoiceAmount : ℚ)
    (extraFees : Option ℚ) : Except FeeError SwapFees :=
  cfg.feeProvider.getFees swap.pair swap.version rate swap.orderSide invoiceAmount .submarine
    .normalClaim swap.referral extraFees

/-- The amounts of `setSwapInvoice`, for an invoice that can be paid. -/
def setSwapInvoice (cfg : RateConfig) (rp : RateProvider) (swap : LockedSwap) (invoiceAmount : ℚ)
    (extraFees : Option ℚ) (verifyInvoiceMinimum : Bool) : Except SubmarineError ℚ := do
  let found ← (getPair cfg rp swap.pair swap.orderSide swap.version .submarine
    swap.referral).mapError .service
  let rate := invoiceRate (some swap.rate) found.rate swap.orderSide
  (verifyAmount cfg rp swap.pair rate invoiceAmount swap.orderSide swap.version .submarine
    swap.referral verifyInvoiceMinimum).mapError .service
  let fees ← (invoiceFees cfg swap rate invoiceAmount extraFees).mapError fun e => .service (.fee e)
  SwapManager.checkExpectedAmount swap.orderSide rate invoiceAmount swap.onchainAmount fees

end Service

end Boltz

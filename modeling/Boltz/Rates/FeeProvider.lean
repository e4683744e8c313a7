import Boltz.Utils

/-!
# Fees of the pairs (`lib/rates/FeeProvider.ts`)

Percentages are set from the configuration, the miner fees are updated from estimations of the
chains. A referral may add a premium to a percentage.
-/

namespace Boltz

inductive BaseFeeType where
  | normalClaim | reverseClaim | reverseLockup
  deriving DecidableEq, Repr

inductive PercentageFeeType where
  | calculation | display
  deriving DecidableEq, Repr

structure ReverseMinerFees where
  claim : ℚ
  lockup : ℚ
  deriving DecidableEq, Repr

structure MinerFeesForVersion where
  normal : ℚ
  reverse : ReverseMinerFees
  deriving DecidableEq, Repr

structure ChainSwapMinerFees where
  server : ℚ
  user : ReverseMinerFees
  deriving DecidableEq, Repr

/-- The miner fees that are shown with a pair of each kind of swap. -/
inductive PairMinerFees where
  | submarine (fee : ℚ)
  | reverse (fees : ReverseMinerFees)
  | chain (fees : ChainSwapMinerFees)
  deriving DecidableEq, Repr

structure PercentageFees where
  submarine : ℚ
  reverseSubmarine : ℚ
  chain : OrderSide → ℚ

structure LimitsOverride where
  minimal : Option ℚ
  maximal : Option ℚ

/-- A row of the `referrals` table by what its methods answer. -/
structure Referral where
  premium : PairId → SwapType → OrderSide → Option ℚ
  premiumForPairs : List PairId → SwapType → OrderSide → Option ℚ
  limitsForPairs : List PairId → SwapType → Option LimitsOverride

structure FeeProvider where
  percentageFees : PairId → Option PercentageFees
  minerFees : String → SwapVersion → MinerFeesForVersion

inductive FeeError where
  | invalidExtraFeesPercentage (percentage : ℚ)
  deriving DecidableEq, Repr

def PercentageFees.of (fees : PercentageFees) (side : OrderSide) : SwapType → ℚ
  | .submarine => fees.submarine
  | .reverseSubmarine => fees.reverseSubmarine
  | .chain => fees.chain side

namespace FeeProvider

/-- `parseFloat(x.toFixed(percentFeeDecimals))`: two decimals, a tie goes away from zero. -/
def toFixed (x : ℚ) : ℚ :=
  if x < 0 then -((mathRound (-x * 100) : ℤ) : ℚ) / 100 else ((mathRound (x * 100) : ℤ) : ℚ) / 100

def addPremium (fee : ℚ) : Option ℚ → ℚ
  | none => fee
  | some premium => toFixed (fee + premium / 100)

def calculateTotalPercentageFeeCalculation (basePercentageCalculation extraFeePercentage : ℚ) :
    Except FeeError ℚ :=
  if extraFeePercentage < 0 then
    .error (.invalidExtraFeesPercentage extraFeePercentage)
  else
    let base := mathRound (basePercentageCalculation * 10000)
    let extra := mathRound (extraFeePercentage * 100)
    .ok (((base + extra : ℤ) : ℚ) / 10000)

def getPercentageFee (fees : FeeProvider) (pair : PairId) (side : OrderSide) (type : SwapType)
    (feeType : PercentageFeeType) (referral : Option Referral) : ℚ :=
  match fees.percentageFees pair with
  | none => 0
  | some percentages =>
    let percentage :=
      addPremium (percentages.of side type) (referral.bind fun r => r.premium pair type side)
    match feeType with
    | .calculation => percentage / 100
    | .display => percentage

def getBaseFee (fees : FeeProvider) (chainCurrency : String) (version : SwapVersion)
    (type : BaseFeeType) : ℚ :=
  let minerFees := fees.minerFees chainCurrency version
  match type with
  | .normalClaim => minerFees.normal
  | .reverseClaim => minerFees.reverse.claim
  | .reverseLockup => minerFees.reverse.lockup

/-- `getSwapBaseFees` of a chain swap, which has the version Taproot. -/
def getChainSwapBaseFees (fees : FeeProvider) (pair : PairId) (side : OrderSide) :
    ChainSwapMinerFees :=
  let sendingMinerFees := fees.minerFees (getSendingChain pair side) .taproot
  let receivingMinerFees := fees.minerFees (getReceivingChain pair side) .taproot
  { server := sendingMinerFees.reverse.lockup + receivingMinerFees.normal
    user :=
      { claim := sendingMinerFees.reverse.claim
        lockup := receivingMinerFees.reverse.lockup } }

/-- `getSwapBaseFees` of the Taproot pairs. -/
def getSwapBaseFees (fees : FeeProvider) (pair : PairId) (side : OrderSide) :
    SwapType → PairMinerFees
  | .chain => .chain (fees.getChainSwapBaseFees pair side)
  | .submarine => .submarine (fees.minerFees (getChainCurrency pair side false) .taproot).normal
  | .reverseSubmarine =>
    .reverse (fees.minerFees (getChainCurrency pair side true) .taproot).reverse

end FeeProvider

end Boltz

import Boltz.Async.OrderedMap
import Boltz.Async.Transitions
import Boltz.Rates.RateProvider
import Mathlib.Data.List.Sort

/-!
# Rates of the exchanges (`lib/rates/data/DataAggregator.ts`, `lib/rates/RateCalculator.ts`)

A round of `RateProvider.updateRates` asks the exchanges for every registered pair, puts the rates
in place of the latest ones, updates the miner fees and then the providers. Nothing keeps a round
from starting while another one waits. Prices and rates are numbers (doubles) in the source, and
exact rationals here; NaN is `none`.
-/

namespace Boltz

open Async

def PairId.inverse (pair : PairId) : PairId := { base := pair.quote, quote := pair.base }

/-! ## Registered pairs -/

/-- The network of the manager that has the symbol of an ERC20 token. -/
structure TokenNetwork where
  symbol : String
  isRootstock : Bool
  deriving DecidableEq, Repr

structure ConfiguredPair where
  id : PairId
  rate : Option ℚ
  deriving DecidableEq, Repr

/-- A configured rate of zero does not count. -/
def ConfiguredPair.hardcodedRate (pair : ConfiguredPair) : Option ℚ := pair.rate.filter (· ≠ 0)

/-- What `RateProvider.init` is called with. -/
structure RateSetup where
  config : RateConfig
  tokens : String → Option TokenNetwork
  configured : List ConfiguredPair

namespace RateSetup

def checkAndRegisterToken (setup : RateSetup) (symbol : String) : List PairId :=
  match setup.tokens symbol with
  | none => []
  | some network => [{ base := network.symbol, quote := symbol }]

def registerEvmTokenPair (setup : RateSetup) (symbol : String) : List PairId :=
  match setup.tokens symbol with
  | none => []
  | some network =>
    if network.isRootstock then [] else [{ base := symbol, quote := network.symbol }]

def registerPairs (setup : RateSetup) (pair : ConfiguredPair) : List PairId :=
  let fetched :=
    if pair.hardcodedRate.isSome then []
    else
      pair.id :: setup.checkAndRegisterToken pair.id.base ++
        setup.checkAndRegisterToken pair.id.quote
  fetched ++ setup.registerEvmTokenPair pair.id.base ++ setup.registerEvmTokenPair pair.id.quote

/-- `dataAggregator.pairs`. -/
def pairs (setup : RateSetup) : List PairId :=
  (setup.configured.flatMap setup.registerPairs).eraseDups

def configPairs (setup : RateSetup) : List PairId := setup.configured.map (·.id)

def hardcodedPairs (setup : RateSetup) : List PairId :=
  ((setup.configured.filter (·.hardcodedRate.isSome)).map (·.id)).eraseDups

/-- The providers after the loop of `init`. -/
def provider (setup : RateSetup) : RateProvider :=
  RateProvider.run setup.config {} <| setup.configured.filterMap fun pair =>
    pair.hardcodedRate.map (.setRate .hardcoded pair.id)

end RateSetup

namespace DataAggregator

/-! ## Prices -/

def assetMapper (asset : String) : String :=
  if asset = "ARB" then "ETH" else if asset = "TBTC" then "BTC" else asset

/-- What the exchanges answered, with `none` for a rejected call or a price that is not finite. The
mean is exact here, and a rounded double in the source. -/
def getRate (prices : List (Option ℚ)) : Option ℚ :=
  let validResults := (prices.filterMap id).insertionSort (· ≤ ·)
  if validResults.length = 0 then none
  else if validResults.length % 2 = 0 then do
    let ceil ← validResults[validResults.length / 2]?
    let floor ← validResults[validResults.length / 2 - 1]?
    some ((ceil + floor) / 2)
  else validResults[(validResults.length - 1) / 2]?

abbrev RateMap := OrderedMap PairId (Option ℚ)

/-- `rates.get(pair) || NaN`. -/
def lastRate (rates : RateMap) (pair : PairId) : Option ℚ := (rates.get pair).join.filter (· ≠ 0)

/-! ## Queries -/

inductive QueryStage where
  | first
  | second
  | rated (rate : Option ℚ)
  | done
  deriving DecidableEq, Repr

/-- `queryRate` of a pair; whether it asks for the inverse first is read when it is called. -/
structure Query where
  pair : PairId
  shouldInvert : Bool
  stage : QueryStage
  deriving DecidableEq, Repr

namespace Query

/-- The pair whose price a query waits for. -/
def asks (query : Query) : Option PairId :=
  match query.stage with
  | .first => some (if query.shouldInvert then query.pair.inverse else query.pair)
  | .second => some (if query.shouldInvert then query.pair else query.pair.inverse)
  | .rated _ | .done => none

/-- The call of `getPrice`. -/
def request (query : Query) : Option (String × String) :=
  query.asks.map fun pair => (assetMapper pair.base, assetMapper pair.quote)

def answered (query : Query) (rate : Option ℚ) : Option Query :=
  match query.stage, rate with
  | .first, some rate =>
    some { query with stage := .rated (some (if query.shouldInvert then 1 / rate else rate)) }
  | .first, none => some { query with stage := .second }
  | .second, some inverseRate =>
    some { query with
      stage := .rated (some (if query.shouldInvert then inverseRate else 1 / inverseRate)) }
  | .second, none => some { query with stage := .rated none }
  | .rated _, _ | .done, _ => none

/-- `invertedPairs` after an answer. -/
def remember (query : Query) (rate : Option ℚ) (invertedPairs : List PairId) : List PairId :=
  if query.stage = .second ∧ rate.isSome ∧ !query.shouldInvert then
    invertedPairs.insert query.pair
  else invertedPairs

/-- What a query writes for both directions once `getRateWithInverse` returned. -/
def write (query : Query) (latestRates : RateMap) (rate : Option ℚ) (rateMap : RateMap) : RateMap :=
  match rate with
  | some rate => (rateMap.set query.pair (some rate)).set query.pair.inverse (some (1 / rate))
  | none =>
    (rateMap.set query.pair (lastRate latestRates query.pair)).set query.pair.inverse
      (lastRate latestRates query.pair.inverse)

end Query

/-! ## Rounds -/

inductive RoundStage where
  | fetching
  | updatingMinerFees
  | updated
  | failed
  deriving DecidableEq, Repr

/-- A call of `updateRates`. -/
structure Round where
  queries : List Query
  rateMap : RateMap
  stage : RoundStage

namespace Round

def inFlight (round : Round) : Bool :=
  round.stage = .fetching || round.stage = .updatingMinerFees

/-- Pairs that are only fetched for the fees of another one are not in the configuration. -/
def fetchedUpdates (round : Round) (setup : RateSetup) : List RateUpdate :=
  (round.rateMap.slots.filterMap id).filterMap fun entry =>
    if entry.1 ∈ setup.configPairs then
      (entry.2.filter (· ≠ 0)).map (.setRate .fetched entry.1)
    else none

def updates (round : Round) (setup : RateSetup) : List RateUpdate :=
  round.fetchedUpdates setup ++ setup.hardcodedPairs.map .updateHardcodedPair

end Round

structure State where
  invertedPairs : List PairId
  latestRates : RateMap
  rounds : List Round
  provider : RateProvider

def State.init (setup : RateSetup) : State :=
  { invertedPairs := [], latestRates := .empty, rounds := [], provider := setup.provider }

inductive Op where
  /-- the timer or `setZeroConfAmount` -/
  | updateRates
  /-- all exchanges answered a query -/
  | answer (round query : Nat) (prices : List (Option ℚ))
  | write (round query : Nat)
  /-- all queries of a round are done -/
  | setLatest (round : Nat)
  /-- the miner fees are updated, with the fees of this moment -/
  | updateProviders (round : Nat) (feeProvider : FeeProvider)
  | minerFeesFailed (round : Nat)

namespace State

def query (s : State) (i j : Nat) : Option Query := s.rounds[i]?.bind (·.queries[j]?)

def setRound (s : State) (i : Nat) (round : Round) : State :=
  { s with rounds := s.rounds.set i round }

def start (s : State) (setup : RateSetup) : Round :=
  { queries := setup.pairs.map fun pair =>
      { pair := pair, shouldInvert := pair ∈ s.invertedPairs, stage := .first }
    rateMap := .empty
    stage := .fetching }

end State

open State in
def step (setup : RateSetup) (s : State) : Op → Option State
  | .updateRates => some { s with rounds := s.rounds ++ [s.start setup] }
  | .answer i j prices => do
    let round ← s.rounds[i]?
    let query ← round.queries[j]?
    let answered ← query.answered (getRate prices)
    some { s.setRound i { round with queries := round.queries.set j answered } with
      invertedPairs := query.remember (getRate prices) s.invertedPairs }
  | .write i j => do
    let round ← s.rounds[i]?
    let query ← round.queries[j]?
    match query.stage with
    | .rated rate =>
      some <| s.setRound i { round with
        queries := round.queries.set j { query with stage := .done }
        rateMap := query.write s.latestRates rate round.rateMap }
    | .first | .second | .done => none
  | .setLatest i => do
    let round ← s.rounds[i]?
    if round.stage = .fetching ∧ round.queries.all (·.stage = .done) then
      some { s.setRound i { round with stage := .updatingMinerFees } with
        latestRates := round.rateMap }
    else none
  | .updateProviders i feeProvider => do
    let round ← s.rounds[i]?
    if round.stage = .updatingMinerFees then
      some { s.setRound i { round with stage := .updated } with
        provider := s.provider.run { setup.config with feeProvider := feeProvider }
          (round.updates setup) }
    else none
  | .minerFeesFailed i => do
    let round ← s.rounds[i]?
    if round.stage = .updatingMinerFees then some (s.setRound i { round with stage := .failed })
    else none

/-! ## Rates between other pairs -/

/-- `COULD_NOT_FIND_RATE`. -/
inductive RateError where
  | couldNotFindRate (pair : PairId)
  deriving DecidableEq, Repr

def calculateRate (latestRates : RateMap) (base quote : String) : Except RateError (Option ℚ) :=
  match latestRates.get { base := base, quote := quote } with
  | some rate => .ok rate
  | none =>
    match latestRates.get { base := quote, quote := base } with
    | some rate => .ok (rate.map (1 / ·))
    | none =>
      -- the route via BTC
      match latestRates.get { base := base, quote := "BTC" },
        latestRates.get { base := quote, quote := "BTC" } with
      | some baseBtc, some quoteBtc =>
        .ok (baseBtc.bind fun base => quoteBtc.map fun quote => base / quote)
      | _, _ => .error (.couldNotFindRate { base := base, quote := quote })

end DataAggregator

end Boltz

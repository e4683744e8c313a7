import Boltz.Service.TimeoutDelta

/-!
# Timeouts of invoices (`TimeoutDeltaProvider.ts`, `RoutingOffsets.ts`)

A submarine swap with an invoice gets a timeout that the routes to the destination fit in. LND
reports absolute heights, CLN relative ones. The answers of nodes, database and decoder are given,
`none` is a rejected promise.
-/

namespace Boltz.RouteTimeouts

/-! ## Routing offsets -/

def minOffset : ℤ := 60

def maxOffset : ℤ := 900

structure PairLimits where
  pair : PairId
  minSwapAmount : ℕ
  maxSwapAmount : ℕ
  deriving DecidableEq, Repr

structure RoutingOffsetException where
  nodeId : String
  offset : ℚ
  deriving DecidableEq, Repr

structure CurrencyOffsets where
  symbol : String
  routingOffsetExceptions : List RoutingOffsetException := []
  deriving DecidableEq, Repr

structure OffsetConfig where
  pairs : List PairLimits
  currencies : List CurrencyOffsets := []
  deriving DecidableEq, Repr

namespace OffsetConfig

variable (config : OffsetConfig)

/-- The last entry of a pair is the one in the map. -/
def limits (pair : PairId) : Option PairLimits := config.pairs.reverse.find? (·.pair = pair)

def getOffsetException (lightningCurrency destination : String) : Option ℚ := do
  let currency ← config.currencies.reverse.find? (·.symbol = lightningCurrency)
  let exception ← currency.routingOffsetExceptions.reverse.find? (·.nodeId = destination)
  return exception.offset

def exceptions (lightningCurrency : String) (destinations : List String) : List ℚ :=
  destinations.filterMap (config.getOffsetException lightningCurrency)

/-- `k * amount + d`. When the limits are equal, `k` is infinite and the sum is `NaN`. -/
def linearOffset (limits : PairLimits) (amount : ℕ) : Option ℚ :=
  if limits.minSwapAmount = limits.maxSwapAmount then none
  else
    let k := (maxOffset - minOffset : ℚ) / (limits.maxSwapAmount - limits.minSwapAmount)
    let d := minOffset - k * limits.minSwapAmount
    some (amount * k + d)

/-- `none` is `NaN`. -/
def calculateOffset (pair : PairId) (amount : ℕ) : Option ℤ :=
  match config.limits pair with
  | none => some maxOffset
  | some limits => (linearOffset limits amount).map fun x => max (min ⌈x⌉ maxOffset) minOffset

def getOffset (pair : PairId) (amount : ℕ) (lightningCurrency : String)
    (destinations : List String) : Option ℚ :=
  match config.exceptions lightningCurrency destinations with
  | [] => (config.calculateOffset pair amount).map fun (offset : ℤ) => offset
  | first :: rest => some (rest.foldl (fun e max => if e > max then e else max) first)

end OffsetConfig

/-! ## Routes -/

inductive NodeType where
  | lnd | cln | selfPayment
  deriving DecidableEq, Repr

inductive InvoiceType where
  | bolt11 | offer | bolt12Invoice
  deriving DecidableEq, Repr

structure HopHint where
  nodeId : String
  cltvExpiryDelta : ℕ
  deriving DecidableEq, Repr

structure DecodedInvoice where
  type : InvoiceType := .bolt11
  paymentHash : Option String := none
  payee : Option String := none
  amountMsat : ℕ := 0
  minFinalCltv : ℕ := 0
  /-- whether `features` has MPP -/
  supportsMpp : Bool := false
  routingHints : List (List HopHint) := []
  deriving DecidableEq, Repr

structure RouteQuery where
  destination : String
  amt : ℤ
  cltvLimit : ℚ
  finalCltvDelta : ℕ
  routingHints : List (List HopHint)
  deriving DecidableEq, Repr

/-- `queryRoutes` gives the `ctlv` of the routes. -/
structure LightningClient where
  type : NodeType
  queryRoutes : RouteQuery → Option (List ℕ)

/-- `lndrpc.Route` -/
structure LndRoute where
  totalTimeLock : ℕ
  totalFeesMsat : ℕ := 0
  deriving DecidableEq, Repr

def LndClient.queryRoutes (call : RouteQuery → Option (List LndRoute)) (query : RouteQuery) :
    Option (List ℕ) :=
  (call query).map fun routes => routes.map LndRoute.totalTimeLock

/-- What `getRoute` of CLN asks for. -/
structure ClnQuery where
  destination : String
  amount : ℤ
  cltvLimit : ℚ
  finalCltv : ℕ
  deriving DecidableEq, Repr

/-- A hint is asked for with its first node as the destination. -/
def ClnClient.hintQuery (query : RouteQuery) (hint : List HopHint) : Option ClnQuery :=
  hint.head?.map fun hop =>
    { destination := hop.nodeId
      amount := query.amt
      cltvLimit := query.cltvLimit
      finalCltv := query.finalCltvDelta + (hint.map HopHint.cltvExpiryDelta).sum }

def ClnClient.queryRoutes (getRoute : ClnQuery → Option ℕ) (query : RouteQuery) :
    Option (List ℕ) := do
  let hints ← query.routingHints.mapM (hintQuery query)
  let direct := ⟨query.destination, query.amt, query.cltvLimit, query.finalCltvDelta⟩
  let routes := (direct :: hints).filterMap getRoute
  if routes = [] then none else some routes

def LightningClient.lnd (call : RouteQuery → Option (List LndRoute)) : LightningClient :=
  ⟨.lnd, LndClient.queryRoutes call⟩

def LightningClient.cln (getRoute : ClnQuery → Option ℕ) : LightningClient :=
  ⟨.cln, ClnClient.queryRoutes getRoute⟩

def paymentMaxParts : ℕ := 6

def msatToSat (msat : ℕ) : ℕ := (mathRound (msat / 1000)).toNat

def amountToQuery (decoded : DecodedInvoice) : ℤ :=
  let amountSat := msatToSat decoded.amountMsat
  max (if decoded.supportsMpp then ⌈(amountSat / paymentMaxParts : ℚ)⌉ else (amountSat : ℤ)) 1

/-- What is asked for outside. -/
structure Sources where
  /-- The invoice of the reverse swap with the preimage hash. -/
  getReverseSwap : String → Option (Option String)
  decodeInvoiceOrOffer : String → Option DecodedInvoice
  getSwapNode : DecodedInvoice → Option LightningClient
  /-- `blocks` of the node of the Lightning chain. -/
  getBlockchainInfo : Option ℕ

/-- What is known about the way to the destination. -/
inductive Answer where
  /-- of a self payment or a BOLT12 invoice -/
  | final (cltv : ℕ)
  | routes (blocks : ℕ) (cltvs : List ℕ)
  deriving DecidableEq, Repr

section routability

variable (sources : Sources) (client : LightningClient) (decoded : DecodedInvoice)
  (cltvLimit : ℚ)

/-- The invoice of our own reverse swap, if it is one. -/
def reverseInvoice : Option (Option String) :=
  match decoded.paymentHash with
  | none => some none
  | some paymentHash => sources.getReverseSwap paymentHash

def queryAnswer : Option Answer := do
  let payee ← decoded.payee
  let blocks ← sources.getBlockchainInfo
  let cltvs ← client.queryRoutes
    { destination := payee
      amt := amountToQuery decoded
      cltvLimit := cltvLimit
      finalCltvDelta := decoded.minFinalCltv
      routingHints := decoded.routingHints }
  return .routes blocks cltvs

/-- The `try` block of `checkRoutability`, up to the routes. -/
def answer : Option Answer :=
  match reverseInvoice sources decoded with
  | none => none
  | some (some invoice) =>
    (sources.decodeInvoiceOrOffer invoice).map fun reverseDecoded =>
      .final (max reverseDecoded.minFinalCltv 144)
  | some none =>
    if decoded.type = .bolt12Invoice then some (.final (max decoded.minFinalCltv 144))
    else queryAnswer sources client decoded cltvLimit

def noRoutes : ℤ := -1

def highestCltv (cltvs : List ℕ) : ℤ :=
  cltvs.foldl (fun (highest : ℤ) (cltv : ℕ) => if highest > cltv then highest else cltv) noRoutes

/-- LND returns absolute numbers, CLN relative ones. -/
def cltvOfAnswer : Answer → ℤ
  | .final cltv => cltv
  | .routes blocks cltvs =>
    if client.type = .lnd then highestCltv cltvs - blocks else highestCltv cltvs

def checkRoutability : ℤ :=
  match answer sources client decoded cltvLimit with
  | none => noRoutes
  | some known => cltvOfAnswer client known

end routability

/-! ## Timeouts -/

inductive InvoiceTimeoutError where
  /-- of the decoder, of the choice of the node or a `TypeError` -/
  | rejected
  | minExpiryTooBig (swapMaximal : ℤ) (minFinalCltvExpiry : ℤ) (routingOffset : ℚ)
  deriving DecidableEq, Repr

/-- The arguments of `getTimeoutInvoice` that come from the pair. -/
structure PairTimeouts where
  pair : PairId
  chainCurrency : String
  lightningCurrency : String
  chainTimeout : PairTimeoutBlocksDelta
  lightningTimeout : PairTimeoutBlocksDelta
  version : SwapVersion

section timeouts

variable (times : BlockTimes) (offsets : OffsetConfig) (sources : Sources) (p : PairTimeouts)

def lightningCltv : ℚ :=
  match p.version with
  | .taproot => p.lightningTimeout.swapTaproot
  | .legacy => p.lightningTimeout.swapMaximal

/-- The payee and the first nodes of the hints. -/
def destinations (decoded : DecodedInvoice) : Option (List String) := do
  let payee ← decoded.payee
  let hinted ← decoded.routingHints.mapM fun hints => hints.head?.map HopHint.nodeId
  return payee :: hinted

def routingOffset (decoded : DecodedInvoice) (destinations : List String) : Option ℚ :=
  offsets.getOffset p.pair (msatToSat decoded.amountMsat) p.lightningCurrency destinations

/-- `routeDeltaMinutes` -/
def routeDeltaMinutes (routeDeltaRelative : ℤ) : Option ℤ :=
  (times p.lightningCurrency).map fun (blockTime : ℚ) => ⌈routeDeltaRelative * blockTime⌉

def legacyTimeout (decoded : DecodedInvoice) (routeDeltaRelative : ℤ) :
    Except InvoiceTimeoutError (Option ℚ × Bool) :=
  match destinations decoded with
  | none => .error .rejected
  | some destinations =>
    match routeDeltaMinutes times p routeDeltaRelative,
      routingOffset offsets p decoded destinations, times p.chainCurrency with
    | some minutes, some offset, some chainTime =>
      let minTimeout : ℤ := ⌈(minutes + offset) / chainTime⌉
      if minTimeout > p.chainTimeout.swapMaximal then
        .error (.minExpiryTooBig ⌈p.chainTimeout.swapMaximal * chainTime⌉ minutes offset)
      else .ok (some (max p.chainTimeout.swapMinimal minTimeout), true)
    | _, _, _ => .ok (none, true)

/-- The timeout, where `none` is `NaN`, and whether the invoice can be routed. -/
def getTimeoutInvoice (invoice : String) : Except InvoiceTimeoutError (Option ℚ × Bool) :=
  match sources.decodeInvoiceOrOffer invoice with
  | none => .error .rejected
  | some decoded =>
    match sources.getSwapNode decoded with
    | none => .error .rejected
    | some client =>
      let routeDeltaRelative := checkRoutability sources client decoded (lightningCltv p)
      if routeDeltaRelative = noRoutes then .ok (some p.chainTimeout.swapMaximal, false)
      else
        match p.version with
        | .taproot =>
          .ok ((TimeoutDeltaProvider.convertBlocks times p.lightningCurrency p.chainCurrency
            (lightningCltv p)).map Int.cast, true)
        | .legacy => legacyTimeout times offsets p decoded routeDeltaRelative

end timeouts

end Boltz.RouteTimeouts

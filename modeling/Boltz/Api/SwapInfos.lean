import Boltz.Consts.Enums
import Boltz.Async.Transitions
import Mathlib.Logic.Function.Basic

/-!
# Statuses of swaps (`SwapInfos.ts`, `SwapUpdateCache.ts`)

The status of a swap is read from a cache that the updates of the swap write, too. What is not in
the cache is assembled from the row of the swap and written to the cache. The rows a swap had are
kept in a list and named by their place in it, so that a status can be older than another one.
-/

namespace Boltz.SwapInfos

/-! ## Updates -/

structure IncorrectAmountDetails where
  expected : ℕ
  actual : ℕ
  deriving DecidableEq, Repr

structure TransactionInfo where
  id : String
  hex : Option String := none
  eta : Option ℕ := none
  confirmed : Option Bool := none
  deriving DecidableEq, Repr

structure SwapUpdate where
  status : SwapUpdateEvent
  zeroConfRejected : Option Bool := none
  transaction : Option TransactionInfo := none
  failureReason : Option String := none
  failureDetails : Option IncorrectAmountDetails := none
  deriving DecidableEq, Repr

/-- The row of a swap of any type. `chainCurrency` and `transactionId` are those of the lockup of
the user, `serverCurrency` and `serverTransactionId` those of the transaction of the server. -/
structure AnySwap where
  type : SwapType
  status : SwapUpdateEvent
  failureReason : Option String := none
  failureDetails : Option IncorrectAmountDetails := none
  chainCurrency : String := ""
  transactionId : Option String := none
  serverCurrency : String := ""
  serverTransactionId : String := ""
  deriving DecidableEq, Repr

structure RefundTransaction where
  id : String
  symbol : String
  isFinal : Bool
  deriving DecidableEq, Repr

/-- What the rest of the backend answers; errors are their messages. -/
structure Sources where
  /-- `service.getTransaction`: the hex of a transaction. -/
  getTransaction : String → String → Except String String
  /-- `parseTransaction` and `formatTransaction` -/
  formatTransaction : String → String → Except String TransactionInfo
  /-- `RefundTransactionRepository.getTransactionForSwap` -/
  getRefundTransaction : String → Except String (Option RefundTransaction)

def reverseSwapMempoolEta : ℕ := 2

/-- `ServiceErrors.NOT_SUPPORTED_BY_SYMBOL` -/
def notSupportedBySymbol (symbol : String) : String :=
  "this action is not supported by " ++ symbol

def handleSwapStatusDefault (swap : AnySwap) : SwapUpdate :=
  { status := swap.status
    failureReason := swap.failureReason
    failureDetails := if swap.failureReason = none then none else swap.failureDetails }

/-- The status of a failed lockup has its details also when there is no reason. -/
def handleLockupFailed (swap : AnySwap) : SwapUpdate :=
  { status := swap.status
    failureReason := swap.failureReason
    failureDetails := swap.failureDetails }

section

variable (sources : Sources)

def getSwapStatusForServerSentTransaction (swap : AnySwap) : Except String SwapUpdate :=
  match sources.getTransaction swap.serverCurrency swap.serverTransactionId with
  | .ok transactionHex =>
    let pending := swap.status = .transactionMempool ∨ swap.status = .transactionServerMempool
    .ok
      { status := swap.status
        transaction := some
          { id := swap.serverTransactionId
            hex := some transactionHex
            eta := if pending then some reverseSwapMempoolEta else none } }
  | .error message =>
    if message = notSupportedBySymbol swap.serverCurrency then
      .ok { status := swap.status, transaction := some { id := swap.serverTransactionId } }
    else .error message

/-- A rejected zero-conf lockup is shown as one in the mempool. A lookup that fails is logged. -/
def fetchUserTransaction (swap : AnySwap) : SwapUpdate :=
  let rejected := swap.status = .transactionZeroConfRejected
  let update : SwapUpdate :=
    { status := if rejected then .transactionMempool else swap.status
      zeroConfRejected := if rejected then some true else none }
  let transaction : Except String TransactionInfo :=
    match swap.transactionId with
    | none => .error "no transaction"
    | some transactionId =>
      (sources.getTransaction swap.chainCurrency transactionId).bind
        (sources.formatTransaction swap.chainCurrency)
  { update with transaction := transaction.toOption }

def getRefundedSwapStatus (id : String) (swap : AnySwap) : Except String SwapUpdate :=
  match sources.getRefundTransaction id with
  | .error message => .error message
  | .ok none => .ok (handleSwapStatusDefault swap)
  | .ok (some refundTx) =>
    let transaction :=
      match (sources.getTransaction refundTx.symbol refundTx.id).bind
          (sources.formatTransaction refundTx.symbol) with
      | .ok transaction => transaction
      | .error _ => { id := refundTx.id }
    .ok
      { handleSwapStatusDefault swap with
        transaction := some { transaction with confirmed := some refundTx.isFinal } }

def handleSubmarineSwapStatus (swap : AnySwap) : Except String SwapUpdate :=
  match swap.status with
  | .transactionMempool | .transactionConfirmed | .transactionZeroConfRejected =>
    .ok (fetchUserTransaction sources swap)
  | .transactionLockupFailed => .ok (handleLockupFailed swap)
  | _ => .ok (handleSwapStatusDefault swap)

def handleReverseSwapStatus (id : String) (swap : AnySwap) : Except String SwapUpdate :=
  match swap.status with
  | .transactionMempool | .transactionConfirmed =>
    getSwapStatusForServerSentTransaction sources swap
  | .transactionRefunded => getRefundedSwapStatus sources id swap
  | _ => .ok (handleSwapStatusDefault swap)

def handleChainSwapStatus (id : String) (swap : AnySwap) : Except String SwapUpdate :=
  match swap.status with
  | .transactionMempool | .transactionConfirmed | .transactionZeroConfRejected =>
    .ok (fetchUserTransaction sources swap)
  | .transactionServerMempool | .transactionServerConfirmed =>
    getSwapStatusForServerSentTransaction sources swap
  | .transactionRefunded => getRefundedSwapStatus sources id swap
  | .transactionLockupFailed => .ok (handleLockupFailed swap)
  | _ => .ok (handleSwapStatusDefault swap)

def handleSwapStatus (id : String) (swap : AnySwap) : Except String SwapUpdate :=
  match swap.type with
  | .submarine => handleSubmarineSwapStatus sources swap
  | .reverseSubmarine => handleReverseSwapStatus sources id swap
  | .chain => handleChainSwapStatus sources id swap

end

/-! ## Reads and updates -/

/-- An update with the number of the row it is about. -/
structure Entry where
  version : ℕ
  update : SwapUpdate
  deriving DecidableEq, Repr

/-- The cache, by the id of the swap. -/
abbrev Cache := String → Option Entry

/-- `set`, `delete` and `clear` of the cache. -/
inductive CacheWrite where
  | set (id : String) (entry : Entry)
  | delete (id : String)
  | clear
  deriving DecidableEq, Repr

def CacheWrite.apply (cache : Cache) : CacheWrite → Cache
  | set id entry => Function.update cache id (some entry)
  | delete id => Function.update cache id none
  | clear => fun _ => none

/-- Where a call of `get` that found nothing in the cache is. -/
inductive Get where
  | missed (id : String)
  | fetched (id : String) (version : ℕ) (swap : AnySwap)
  | assembled (id : String) (entry : Entry)
  deriving DecidableEq, Repr

structure State where
  /-- The rows a swap had, the current one last. -/
  rows : String → List AnySwap
  cache : Cache
  /-- Writes that have not reached the cache yet. They take effect in the order of the calls. -/
  inFlight : List CacheWrite
  gets : List Get
  /-- The number of the row of the last update that was not marked `skipCache`. -/
  lastUpdate : String → Option ℕ

def State.init (rows : String → List AnySwap) (cache : Cache) : State :=
  { rows := rows, cache := cache, inFlight := [], gets := [], lastUpdate := fun _ => none }

inductive Op where
  /-- The row of a swap is written. -/
  | writeRow (id : String) (swap : AnySwap)
  /-- The event `swap.update`, about a row that has been written. -/
  | update (id : String) (entry : Entry) (skipCache : Bool)
  /-- A call of `get`; reading the cache can fail. -/
  | get (id : String) (failed : Bool)
  | fetch (i : ℕ)
  | assemble (i : ℕ) (sources : Sources)
  | write (i : ℕ)
  /-- An awaited call of a `get` is rejected. -/
  | reject (i : ℕ)
  /-- The cache is cleared on request, or one entry of it. -/
  | clearCache (id : Option String)
  /-- The first write in flight reaches the cache. -/
  | land

def step (s : State) : Op → Option State
  | .writeRow id swap => some { s with rows := Function.update s.rows id (s.rows id ++ [swap]) }
  | .update id entry skipCache =>
    if (s.rows id).length ≤ entry.version then none
    else if skipCache then some s
    else some
      { s with
        inFlight := s.inFlight ++ [.set id entry]
        lastUpdate := Function.update s.lastUpdate id (some entry.version) }
  | .get id failed =>
    if (s.cache id).isSome ∧ ¬failed then some s else some { s with gets := s.gets ++ [.missed id] }
  | .fetch i =>
    match s.gets[i]? with
    | some (.missed id) =>
      match (s.rows id).getLast? with
      | none => some { s with gets := s.gets.eraseIdx i }
      | some swap => some { s with gets := s.gets.set i (.fetched id ((s.rows id).length - 1) swap) }
    | _ => none
  | .assemble i sources =>
    match s.gets[i]? with
    | some (.fetched id version swap) =>
      match handleSwapStatus sources id swap with
      | .error _ => some { s with gets := s.gets.eraseIdx i }
      | .ok status => some { s with gets := s.gets.set i (.assembled id ⟨version, status⟩) }
    | _ => none
  | .write i =>
    match s.gets[i]? with
    | some (.assembled id entry) => some
        { s with inFlight := s.inFlight ++ [.set id entry], gets := s.gets.eraseIdx i }
    | _ => none
  | .reject i => if i < s.gets.length then some { s with gets := s.gets.eraseIdx i } else none
  | .clearCache (some id) => some { s with inFlight := s.inFlight ++ [.delete id] }
  | .clearCache none => some { s with inFlight := s.inFlight ++ [.clear] }
  | .land =>
    match s.inFlight with
    | [] => none
    | write :: rest => some { s with cache := write.apply s.cache, inFlight := rest }

end Boltz.SwapInfos

import Boltz.Async.Transitions
import Mathlib.Algebra.Order.Field.Rat
import Mathlib.Data.List.Sort
import Mathlib.Data.Rat.Floor

/-!
# Fees of mempool.space (`boltzr/src/chain/mempool_client.rs`, `chain_client.rs`)

Every client keeps the last fees and the height of the last block that it was sent. Who asks for the
fees collects them from all clients, and waits for a notification when no client has both. A step is
one access to what a client keeps. The node has to agree with the fees before they are used. Fees,
floors and thresholds are `f64` in the source and exact rationals here.
-/

namespace Boltz.MempoolSpace

/-- In seconds. -/
def FEES_WAIT_TIMEOUT_SECONDS : Nat := 5

structure CachedFees where
  fastest : ℚ
  /-- when they were received -/
  time : Nat
  deriving DecidableEq, Repr

/-- What could be parsed of a message. -/
structure Message where
  fees : Option ℚ
  blocks : Option (List Nat)
  block : Option Nat
  deriving DecidableEq, Repr

def Message.bestParsed (msg : Message) : Option Nat :=
  match msg.blocks.bind (·.getLast?) with
  | some height => some height
  | none => msg.block

/-! ## Clients -/

/-- Where the task of a client is. -/
inductive Task where
  | listening
  | handleFees (msg : Message)
  | notifyFees (msg : Message)
  | handleBlocks (msg : Message)
  | notifyBlock
  /-- The connection is gone and the fees were cleared. -/
  | clearing
  deriving DecidableEq, Repr

structure Client where
  lastFees : Option CachedFees
  lastBlock : Option Nat
  task : Task
  deriving DecidableEq, Repr

def Client.new : Client := { lastFees := none, lastBlock := none, task := .listening }

/-- The next step of the task of a client. Nobody else writes what it keeps. -/
def Client.step (now : Nat) (client : Client) : Option Client :=
  match client.task with
  | .listening => none
  | .handleFees msg => some <|
    match msg.fees with
    | some fees =>
      { client with lastFees := some { fastest := fees, time := now }, task := .notifyFees msg }
    | none => { client with task := .handleBlocks msg }
  | .notifyFees msg => some { client with task := .handleBlocks msg }
  | .handleBlocks msg => some <|
    match msg.bestParsed with
    | some height =>
      if client.lastBlock.any fun current => current ≥ height then { client with task := .listening }
      else { client with lastBlock := some height, task := .notifyBlock }
    | none => { client with task := .listening }
  | .notifyBlock => some { client with task := .listening }
  | .clearing => some { client with lastBlock := none, task := .listening }

/-- `notify_waiters_if_ready` -/
def Client.notifies (client : Client) : Bool :=
  match client.task with
  | .notifyFees _ | .notifyBlock => client.lastFees.isSome && client.lastBlock.isSome
  | _ => false

/-- The age and the maximal age of fees that are too old. -/
def staleness (maxAge : Option Nat) (now time : Nat) : Option (Nat × Nat) :=
  match maxAge with
  | some maxAge => if now - time > maxAge then some (now - time, maxAge) else none
  | none => none

def Client.hasStaleFees (maxAge : Option Nat) (now : Nat) (client : Client) : Bool :=
  client.lastFees.any fun cached => (staleness maxAge now cached.time).isSome

/-! ## Collecting -/

def median (vec : List ℚ) : Option ℚ :=
  let sorted := vec.insertionSort (· ≤ ·)
  let mid := sorted.length / 2
  if sorted = [] then none
  else if sorted.length % 2 = 0 then do
    let left ← sorted[mid - 1]?
    let right ← sorted[mid]?
    some ((left + right) / 2)
  else sorted[mid]?

/-- The fees of the clients with the best height. -/
def bestFees (fees : List (Nat × ℚ)) (bestHeight : Nat) : List ℚ :=
  (fees.filter fun entry => entry.1 = bestHeight).map (·.2)

def bestFeesAndHeight (fees : List (Nat × ℚ)) : Option (Nat × ℚ) := do
  let bestHeight ← (fees.map (·.1)).max?
  let fee ← median (bestFees fees bestHeight)
  some (bestHeight, fee)

/-- `collect_best_fees_and_height` while it goes through the clients. -/
structure Scan where
  next : Nat
  /-- the fees of the next client, when its block has not been read yet -/
  fees : Option CachedFees
  found : List (Nat × ℚ)
  deriving DecidableEq, Repr

def Scan.start : Scan := { next := 0, fees := none, found := [] }

/-- The next access of `get_latest`. -/
def Scan.step (maxAge : Option Nat) (now : Nat) (client : Client) (scan : Scan) : Scan :=
  match scan.fees with
  | none =>
    match client.lastFees with
    | none => { scan with next := scan.next + 1 }
    | some cached =>
      if (staleness maxAge now cached.time).isSome then { scan with next := scan.next + 1 }
      else { scan with fees := some cached }
  | some cached =>
    { next := scan.next + 1
      fees := none
      found :=
        match client.lastBlock with
        | some height => scan.found ++ [(height, cached.fastest)]
        | none => scan.found }

/-! ## Steps -/

/-- Where a call of `get_fees_and_height` is. -/
inductive Stage where
  | collecting (scan : Scan)
  /-- Whether the fees of all clients are stale. -/
  | checking (next : Nat)
  | registering (deadline : Nat)
  | registered (deadline : Nat) (notified : Bool) (scan : Scan)
  | parked (deadline : Nat) (notified : Bool)
  | done (result : Option (Nat × ℚ))
  deriving DecidableEq, Repr

structure Waiter where
  started : Nat
  stage : Stage
  deriving DecidableEq, Repr

structure State where
  maxAge : Option Nat
  now : Nat
  clients : List Client
  waiters : List Waiter
  /-- What clients have kept so far. -/
  feesKept : List (Nat × CachedFees)
  blocksKept : List (Nat × Nat)

def State.init (maxAge : Option Nat) (clients : Nat) : State :=
  { maxAge := maxAge
    now := 0
    clients := List.replicate clients .new
    waiters := []
    feesKept := []
    blocksKept := [] }

def Stage.notify : Stage → Stage
  | registered deadline _ scan => registered deadline true scan
  | parked deadline _ => parked deadline true
  | stage => stage

def Waiter.notify (waiter : Waiter) : Waiter := { waiter with stage := waiter.stage.notify }

def Stage.step (s : State) : Stage → Option Stage
  | collecting scan => some <|
    match s.clients[scan.next]? with
    | some client => collecting (scan.step s.maxAge s.now client)
    | none =>
      match bestFeesAndHeight scan.found with
      | some result => done (some result)
      | none => checking 0
  | checking next => some <|
    match s.clients[next]? with
    | some client =>
      if client.hasStaleFees s.maxAge s.now then checking (next + 1)
      else registering (s.now + FEES_WAIT_TIMEOUT_SECONDS)
    | none => done none
  | registering deadline => some (registered deadline false .start)
  | registered deadline notified scan => some <|
    match s.clients[scan.next]? with
    | some client => registered deadline notified (scan.step s.maxAge s.now client)
    | none =>
      match bestFeesAndHeight scan.found with
      | some result => done (some result)
      | none => parked deadline notified
  | parked deadline true => some (registering deadline)
  | parked _ false => none
  | done _ => none

inductive Op where
  | receive (i : Nat) (msg : Message)
  | client (i : Nat)
  | disconnect (i : Nat)
  | start
  | waiter (j : Nat)
  | timeout (j : Nat)
  | tick

def State.setClient (s : State) (i : Nat) (client : Client) : State :=
  { s with
    clients := s.clients.set i client
    feesKept := s.feesKept ++ client.lastFees.toList.map fun cached => (i, cached)
    blocksKept := s.blocksKept ++ client.lastBlock.toList.map fun height => (i, height) }

def step (s : State) : Op → Option State
  | .receive i msg =>
    match s.clients[i]? with
    | some client =>
      if client.task = .listening then some (s.setClient i { client with task := .handleFees msg })
      else none
    | none => none
  | .client i => do
    let client ← s.clients[i]?
    let next ← client.step s.now
    some
      { s.setClient i next with
        waiters := if client.notifies then s.waiters.map Waiter.notify else s.waiters }
  | .disconnect i =>
    match s.clients[i]? with
    | some client =>
      if client.task = .listening then
        some (s.setClient i { client with lastFees := none, task := .clearing })
      else none
    | none => none
  | .start => some
      { s with waiters := s.waiters ++ [{ started := s.now, stage := .collecting .start }] }
  | .waiter j => do
    let waiter ← s.waiters[j]?
    let stage ← waiter.stage.step s
    some { s with waiters := s.waiters.set j { waiter with stage := stage } }
  | .timeout j =>
    match s.waiters[j]? with
    | some { started, stage := .parked deadline _ } =>
      if deadline ≤ s.now then
        some { s with waiters := s.waiters.set j { started := started, stage := .done none } }
      else none
    | _ => none
  | .tick => some { s with now := s.now + 1 }

/-! ## Estimates -/

structure Thresholds where
  maxBlockLag : Nat
  maxFeeMultiplier : ℚ
  maxFeeDelta : ℚ
  deriving DecidableEq, Repr

def Thresholds.ceiling (thresholds : Thresholds) (bitcoindFee : ℚ) : ℚ :=
  max (thresholds.maxFeeMultiplier * bitcoindFee) (bitcoindFee + thresholds.maxFeeDelta)

def valueTrusted (thresholds : Thresholds) (mempoolHeight : Nat) (mempoolFee : ℚ)
    (localTip : Option Nat) (bitcoindFee : Option ℚ) : Bool :=
  if mempoolFee < 0 then false
  else if localTip.any fun tip => tip - mempoolHeight > thresholds.maxBlockLag then false
  else !bitcoindFee.any fun fee => mempoolFee > thresholds.ceiling fee

/-- The answers of mempool.space, when it is configured, and of the node. -/
structure Answers where
  mempoolSpace : Option (Option (Nat × ℚ))
  localTip : Option Nat
  bitcoindFee : Option ℚ
  deriving DecidableEq, Repr

def estimateFeeRaw (thresholds : Thresholds) (floor : ℚ) (answers : Answers) : ℚ :=
  match answers.mempoolSpace with
  | some (some (mempoolHeight, mempoolFee)) =>
    if valueTrusted thresholds mempoolHeight mempoolFee answers.localTip answers.bitcoindFee then
      mempoolFee
    else answers.bitcoindFee.getD floor
  | _ => answers.bitcoindFee.getD floor

/-- `f64::round`, which rounds away from zero half way between two integers. -/
def roundAway (x : ℚ) : ℤ := if 0 ≤ x then ⌊x + 1 / 2⌋ else -⌊-x + 1 / 2⌋

def roundTo1DecimalPlace (x : ℚ) : ℚ := roundAway (x * 10) / 10

def estimateFee (thresholds : Thresholds) (floor : ℚ) (answers : Answers) : ℚ :=
  roundTo1DecimalPlace (max (estimateFeeRaw thresholds floor answers) floor)

end Boltz.MempoolSpace

import Boltz.Async.Transitions

/-!
# Checks for missed events (`lib/wallet/ethereum/contracts/ContractEventHandler.ts`)

Calls of `checkMissedEvents` share one running promise. A call while it runs sets a flag, and the
loop behind the promise does another round when it finds the flag set at the end of a round. The
promise is only forgotten in a callback after the loop has ended.

The rounds of a handler are numbered from 1. A call that waits for the promise is remembered by the
number of rounds that had started when it was made.
-/

namespace Boltz.Ethereum.ContractEventHandler

open Boltz.Async

inductive Contract where
  | etherSwap
  | erc20Swap
  deriving DecidableEq, Repr

inductive EventKind where
  | lockup
  | claim
  deriving DecidableEq, Repr

structure Event where
  height : Nat
  contract : Contract
  kind : EventKind
  id : Nat
  deriving DecidableEq, Repr

/-- What the loop behind the running promise waits for. -/
inductive Phase where
  /-- `provider.getBlockNumber()` -/
  | fetching (start : Nat)
  /-- `queryFilter` for the lockups and for the claims of a contract -/
  | querying (contract : Contract) (start current : Nat)
  /-- `getTransaction()` of the first lockup that is left -/
  | sending (contract : Contract) (start current : Nat) (lockup : Event) (lockups : List Event)
      (claims : List Event)
  /-- the rescan has returned -/
  | rescanned (current : Nat)
  /-- the loop has ended, and the callback that forgets the promise has not run -/
  | ended (ok : Bool)
  deriving DecidableEq, Repr

/-- A call whose promise has settled, with the numbers of rounds when it was made and then. -/
structure Settled where
  startedBefore : Nat
  started : Nat
  ok : Bool
  deriving DecidableEq, Repr

structure State where
  /-- the events of both contracts, and the height of the chain -/
  chain : List Event := []
  tip : Nat := 0
  rescanLastHeight : Nat := 0
  missedEventsCheckPending : Bool := false
  /-- `missedEventsCheckPromise`, by the loop that it is the promise of -/
  loop : Option Phase := none
  started : Nat := 0
  waiting : List Nat := []
  settled : List Settled := []
  emitted : List Event := []
  deriving DecidableEq, Repr

inductive Op where
  | checkMissedEvents
  | mine (events : List (Contract × EventKind × Nat))
  /-- The subscription delivers an event. -/
  | subscription (event : Event)
  | blockNumber (height : Nat)
  | queryFilter
  | getTransaction
  /-- The loop goes on after a rescan. -/
  | resume
  /-- What the loop waits for is rejected. -/
  | fail
  /-- The callback of `finally`. -/
  | finally
  | destroy
  deriving DecidableEq, Repr

namespace State

/-- The loop from its condition on, up to the next thing it waits for. -/
def enterLoop (s : State) : State :=
  if s.missedEventsCheckPending then
    { s with
      missedEventsCheckPending := false
      loop := some (.fetching s.rescanLastHeight)
      started := s.started + 1 }
  else { s with loop := some (.ended true) }

def checkMissedEvents (s : State) : State :=
  let s' := { s with missedEventsCheckPending := true, waiting := s.waiting ++ [s.started] }
  match s.loop with
  | some _ => s'
  | none => s'.enterLoop

def mine (s : State) (events : List (Contract × EventKind × Nat)) : State :=
  { s with
    tip := s.tip + 1
    chain := s.chain ++ events.map fun (contract, kind, id) => ⟨s.tip + 1, contract, kind, id⟩ }

def emit (s : State) (events : List Event) : State := { s with emitted := s.emitted ++ events }

def queryFilter (s : State) (contract : Contract) (kind : EventKind) (start current : Nat) :
    List Event :=
  s.chain.filter fun event => event.contract == contract && event.kind == kind &&
    decide (start ≤ event.height) && decide (event.height ≤ current)

/-- The rest of a contract once the transactions of all its lockups were fetched. -/
def emitClaims (s : State) (contract : Contract) (start current : Nat) (claims : List Event) :
    State :=
  { s.emit claims with
    loop := some (match contract with
      | .etherSwap => .querying .erc20Swap start current
      | .erc20Swap => .rescanned current) }

/-- The loop over the lockups of a contract. -/
def sendLockups (s : State) (contract : Contract) (start current : Nat)
    (lockups claims : List Event) : State :=
  match lockups with
  | [] => s.emitClaims contract start current claims
  | lockup :: lockups =>
    { s with loop := some (.sending contract start current lockup lockups claims) }

def step (s : State) : Op → Option State
  | .checkMissedEvents => some s.checkMissedEvents
  | .mine events => some (s.mine events)
  | .subscription event => if event ∈ s.chain then some (s.emit [event]) else none
  | .blockNumber height =>
    match s.loop with
    | some (.fetching start) =>
      if height ≤ s.tip then
        some { s with loop := some (.querying .etherSwap start (max height start)) }
      else none
    | _ => none
  | .queryFilter =>
    match s.loop with
    | some (.querying contract start current) =>
      some (s.sendLockups contract start current (s.queryFilter contract .lockup start current)
        (s.queryFilter contract .claim start current))
    | _ => none
  | .getTransaction =>
    match s.loop with
    | some (.sending contract start current lockup lockups claims) =>
      some ((s.emit [lockup]).sendLockups contract start current lockups claims)
    | _ => none
  | .resume =>
    match s.loop with
    | some (.rescanned current) => some { s with rescanLastHeight := current }.enterLoop
    | _ => none
  | .fail =>
    match s.loop with
    | some (.fetching _) | some (.querying _ _ _) | some (.sending _ _ _ _ _ _) =>
      some { s with loop := some (.ended false) }
    | _ => none
  | .finally =>
    match s.loop with
    | some (.ended ok) =>
      some { s with
        loop := none
        waiting := []
        settled := s.settled ++ s.waiting.map (⟨·, s.started, ok⟩) }
    | _ => none
  | .destroy => some { s with missedEventsCheckPending := false }

end State

end Boltz.Ethereum.ContractEventHandler

import Boltz.Async.OrderedMap
import Boltz.Async.Transitions
import Boltz.Consts.Enums

/-!
# Confirmations of server lockups on EVM chains (`lib/swap/EthereumConfirmationTracker.ts`)

Scans ask the provider for the receipts of all pending transactions, one after the other. A step is
what runs until the next answer of the provider or of the database is awaited.
-/

namespace Boltz.ConfirmationTracker

open Async

/-- `ReverseSwap | ChainSwapInfo` -/
structure SentSwap where
  id : Nat
  type : SwapType
  deriving DecidableEq, Repr

structure TransactionReceipt where
  status : Option Nat
  deriving DecidableEq, Repr

inductive Event where
  | confirmed (swap : SentSwap) (transactionHash : String)
  | failedToSend (swap : SentSwap) (reason : String)
  deriving DecidableEq, Repr

/-- A transaction whose receipt was found. -/
structure Settlement where
  transactionHash : String
  swap : SentSwap
  receipt : TransactionReceipt
  deriving DecidableEq, Repr

/-- The status that the swap is set to. -/
def Settlement.status (settlement : Settlement) : SwapUpdateEvent :=
  if settlement.receipt.status ≠ some 1 then .transactionFailed
  else if settlement.swap.type = .reverseSubmarine then .transactionConfirmed
  else .transactionServerConfirmed

def Settlement.reason (network : String) (settlement : Settlement) : String :=
  network ++ " transaction " ++ settlement.transactionHash ++ " failed: " ++
    match settlement.receipt.status with
    | some status => toString status
    | none => "null"

/-- What is emitted when the status of the swap has been set. -/
def Settlement.event (network : String) (settlement : Settlement) : Event :=
  if settlement.receipt.status ≠ some 1 then
    .failedToSend settlement.swap (settlement.reason network)
  else .confirmed settlement.swap settlement.transactionHash

inductive Stage where
  | getReceipt (transactionHash : String) (swap : SentSwap)
  | setStatus (settlement : Settlement)
  deriving DecidableEq, Repr

structure Scan where
  /-- where the iteration of the pending transactions goes on -/
  cursor : Nat
  stage : Stage
  deriving DecidableEq, Repr

structure State where
  network : String
  pendingTransactions : OrderedMap String SentSwap
  scanning : Bool
  scans : List Scan
  /-- All calls of `trackTransaction`. -/
  tracked : List (String × SentSwap)
  /-- What the provider has answered. -/
  receipts : List (String × Option TransactionReceipt)
  statuses : List (SentSwap × SwapUpdateEvent)
  events : List (String × Event)
  /-- Transactions of swaps whose status could not be set. -/
  notSet : List String

def State.init (network : String) : State :=
  { network := network
    pendingTransactions := .empty
    scanning := false
    scans := []
    tracked := []
    receipts := []
    statuses := []
    events := []
    notSet := [] }

/-- The next transaction that a scan asks for. -/
def State.nextScan (s : State) (cursor : Nat) : Option Scan :=
  (s.pendingTransactions.next cursor).map fun (entry, cursor) =>
    { cursor := cursor, stage := .getReceipt entry.1 entry.2 }

def State.scanPendingTransactions (s : State) : State :=
  if s.scanning || s.pendingTransactions.isEmpty then s
  else
    match s.nextScan 0 with
    | some scan => { s with scanning := true, scans := s.scans ++ [scan] }
    | none => s

def State.trackTransaction (s : State) (swap : SentSwap) (transactionHash : String) : State :=
  State.scanPendingTransactions
    { s with
      pendingTransactions := s.pendingTransactions.set transactionHash swap
      tracked := s.tracked ++ [(transactionHash, swap)] }

/-- `finally` of a scan. -/
def State.endScan (s : State) (i : Nat) : State :=
  { s with scanning := false, scans := s.scans.eraseIdx i }

/-- A scan goes on with the next transaction. -/
def State.goOn (s : State) (i cursor : Nat) : State :=
  match s.nextScan cursor with
  | some scan => { s with scans := s.scans.set i scan }
  | none => s.endScan i

inductive Op where
  | trackTransaction (swap : SentSwap) (transactionHash : String)
  | scanPendingTransactions
  /-- The provider has no receipt, or could not be asked. -/
  | noReceipt (i : Nat)
  | receipt (i : Nat) (receipt : TransactionReceipt)
  | statusSet (i : Nat)
  | statusNotSet (i : Nat)

def step (s : State) : Op → Option State
  | .trackTransaction swap transactionHash => some (s.trackTransaction swap transactionHash)
  | .scanPendingTransactions => some s.scanPendingTransactions
  | .noReceipt i =>
    match s.scans[i]? with
    | some { cursor, stage := .getReceipt transactionHash _ } => some <|
      State.goOn { s with receipts := s.receipts ++ [(transactionHash, none)] } i cursor
    | _ => none
  | .receipt i receipt =>
    match s.scans[i]? with
    | some { cursor, stage := .getReceipt transactionHash swap } => some
      { s with
        receipts := s.receipts ++ [(transactionHash, some receipt)]
        pendingTransactions := s.pendingTransactions.delete transactionHash
        scans := s.scans.set i
          { cursor := cursor
            stage := .setStatus
              { transactionHash := transactionHash, swap := swap, receipt := receipt } } }
    | _ => none
  | .statusSet i =>
    match s.scans[i]? with
    | some { cursor, stage := .setStatus settlement } => some <|
      State.goOn
        { s with
          statuses := s.statuses ++ [(settlement.swap, settlement.status)]
          events := s.events ++ [(settlement.transactionHash, settlement.event s.network)] }
        i cursor
    | _ => none
  | .statusNotSet i =>
    match s.scans[i]? with
    | some { cursor := _, stage := .setStatus settlement } => some <|
      State.endScan { s with notSet := s.notSet ++ [settlement.transactionHash] } i
    | _ => none

end Boltz.ConfirmationTracker

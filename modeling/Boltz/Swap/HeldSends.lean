import Boltz.Swap.ChainSwaps
import Mathlib

/-!
# Held sends (`SwapNursery.ts`, `SendApprovalGuard.ts`, `hooks/Hook.ts`)

Every outgoing send asks the approver first. A decision to hold is stored as a row, and while the
row is there a request that is not answered counts as a hold. Everything between two awaits of a
run is one step, and the approver, its stream and the timers take steps of their own.
-/

namespace Boltz.HeldSends

open SwapUpdateEvent

/-- What the sends read of a swap: `serverLockup` is the transaction of the server, `userLockup`
the one that owns the swap. -/
structure Row where
  status : SwapUpdateEvent
  createdRefundSignature : Bool := false
  serverLockup : Option Nat := none
  userLockup : Option (Nat × Option Nat) := none
  deriving DecidableEq, Repr

def finalSwapEvents : List SwapUpdateEvent := [swapExpired, invoiceFailedToPay, transactionClaimed]

def finalReverseSwapEvents : List SwapUpdateEvent :=
  [swapExpired, invoiceSettled, transactionFailed, transactionRefunded]

def Row.isFinal (row : Row) : SwapType → Bool
  | .submarine => finalSwapEvents.contains row.status
  | .reverseSubmarine => finalReverseSwapEvents.contains row.status
  | .chain => finalChainSwapEvents.contains row.status

/-- `resolveSendApprovalDecision`: the row of the hold is looked up, the request is sent to the
approver, and it is decided. -/
inductive DecisionStage where
  | asked
  | hooked (fallback : Option SendApprovalAction)
  | resolved (action : SendApprovalAction)
  deriving DecidableEq, Repr

structure Decision where
  swapId : Nat
  stage : DecisionStage
  deriving DecidableEq, Repr

/-- How far a run got. The first part is `withSendApproval`, then `payInvoice` and
`pruneStaleSubmarineHolds`. -/
inductive Stage where
  | load
  | remove
  | waiting (decision : Nat)
  /-- the lock of the swap type is acquired -/
  | acquire (next : Stage)
  | loadFresh (approval : SendApprovalAction)
  | removeFresh
  | persist (approval : SendApprovalAction)
  | proceed (approval : SendApprovalAction)
  | setServerLockup (transactionId : Nat)
  | release
  | payInvoice
  | payWaiting (decision : Nat)
  | payPersist (approval : SendApprovalAction)
  | pay (approval : SendApprovalAction)
  | prune
  | pruneRemove
  | payRelease
  | done
  deriving DecidableEq, Repr

/-- `event` is the lockup that a run was started for. -/
structure Run where
  swapId : Nat
  event : Option (Nat × Option Nat)
  stage : Stage
  deriving DecidableEq, Repr

/-- `held` are the swaps with a stored hold that no approver accepted since, and that are not
final; `sentWhileHeld` are the sends of such swaps. -/
structure State where
  rows : Nat → Option Row := fun _ => none
  holds : Nat → Bool := fun _ => false
  connected : Bool := false
  /-- `pendingHooks` of the hook -/
  pendingHooks : Nat → Option Nat := fun _ => none
  /-- `pendingSendApprovals` -/
  approvals : Nat → Option Nat := fun _ => none
  decisions : List Decision := []
  runs : List Run := []
  locks : SwapType → Option Nat := fun _ => none
  held : Nat → Bool := fun _ => false
  sent : List Nat := []
  sentWhileHeld : List Nat := []

/-- The type of each swap, and the default action of the hook. -/
structure Config where
  typeOf : Nat → SwapType
  defaultAction : SendApprovalAction

/-- How a step ends that is not decided by the state. -/
inductive Outcome where
  | ok
  | sent (transactionId : Nat)
  | failed
  /-- nothing is sent, and nothing is stored -/
  | skipped
  deriving DecidableEq, Repr

inductive Op where
  /-- another part of the backend stores a row -/
  | store (id : Nat) (row : Row)
  | connect
  | disconnect
  /-- the timer of a request -/
  | timeout (decision : Nat)
  /-- a response on the stream -/
  | respond (id : Nat) (action : SendApprovalAction)
  /-- `SendApprovalHoldRepository.exists` returns for a decision -/
  | decide (decision : Nat)
  /-- a lockup event, or a retry without one -/
  | lockup (id : Nat) (event : Option (Nat × Option Nat))
  | payInvoice (id : Nat)
  | prune (id : Nat)
  | run (i : Nat) (outcome : Outcome)
  deriving DecidableEq, Repr

namespace State

section

variable (cfg : Config)

/-- Whether another lockup than that of the event owns the swap. -/
def ownedByAnother (row : Row) (event : Option (Nat × Option Nat)) : Bool :=
  match event with
  | none => false
  | some (transactionId, vout) =>
    row.userLockup.map (·.1) != some transactionId ||
      (vout.isSome && row.userLockup.bind (·.2) != vout)

/-- `loadEligibleReverseSwap` and `getChainSwapForLockup`. -/
def loadEligible (s : State) (id : Nat) (event : Option (Nat × Option Nat)) : Bool :=
  match s.rows id with
  | none => false
  | some row =>
    match cfg.typeOf id with
    | .submarine => false
    | .reverseSubmarine => [swapCreated, minerFeePaid].contains row.status
    | .chain =>
      !finalChainSwapEvents.contains row.status &&
        actionableChainSwapLockupStatuses.contains row.status &&
        !row.createdRefundSignature && row.serverLockup.isNone && !ownedByAnother row event

def isFinal (s : State) (id : Nat) : Bool :=
  match s.rows id with
  | none => true
  | some row => row.isFinal (cfg.typeOf id)

def storeRow (s : State) (id : Nat) (row : Row) : State :=
  { s with
    rows := Function.update s.rows id (some row)
    held := Function.update s.held id (s.held id && !row.isFinal (cfg.typeOf id)) }

def storeStatus (s : State) (id : Nat) (status : SwapUpdateEvent) : State :=
  match s.rows id with
  | none => s
  | some row => s.storeRow cfg id { row with status }

def setStage (s : State) (i : Nat) (run : Run) (stage : Stage) : State :=
  { s with runs := s.runs.set i { run with stage } }

def removeHold (s : State) (id : Nat) : State :=
  { s with holds := Function.update s.holds id false }

def deleteApproval (s : State) (id : Nat) : State :=
  { s with approvals := Function.update s.approvals id none }

/-- `findOrCreate` of the row of the hold. -/
def createHold (s : State) (id : Nat) : State :=
  { s with
    holds := Function.update s.holds id true
    held := Function.update s.held id (!s.isFinal cfg id) }

/-! ## Decisions -/

def newDecision (s : State) (id : Nat) : State :=
  { s with decisions := s.decisions ++ [⟨id, .asked⟩] }

/-- Runs that ask for the same swap at the same time share one decision. -/
def resolveSendApproval (s : State) (i : Nat) (run : Run) : State :=
  match s.approvals run.swapId with
  | some decision => s.setStage i run (.waiting decision)
  | none =>
    let decision := s.decisions.length
    { (s.newDecision run.swapId).setStage i run (.waiting decision) with
      approvals := Function.update s.approvals run.swapId (some decision) }

def setDecision (s : State) (d : Nat) (id : Nat) (stage : DecisionStage) : State :=
  { s with decisions := s.decisions.set d ⟨id, stage⟩ }

/-- `sendHook`, after the row of the hold was looked up. -/
def decide (s : State) (d : Nat) : Option State :=
  match s.decisions[d]? with
  | some ⟨id, .asked⟩ =>
    let fallback : Option SendApprovalAction := if s.holds id then some .hold else none
    if s.connected then
      some { s.setDecision d id (.hooked fallback) with
        pendingHooks := Function.update s.pendingHooks id (some d) }
    else some (s.setDecision d id (.resolved (fallback.getD cfg.defaultAction)))
  | _ => none

def timeout (s : State) (d : Nat) : Option State :=
  match s.decisions[d]? with
  | some ⟨id, .hooked fallback⟩ =>
    if (s.pendingHooks id).isSome then
      some { s.setDecision d id (.resolved (fallback.getD cfg.defaultAction)) with
        pendingHooks := Function.update s.pendingHooks id none }
    else none
  | _ => none

/-- A response without a pending request is ignored. -/
def respond (s : State) (id : Nat) (action : SendApprovalAction) : State :=
  let s := { s with held := Function.update s.held id (s.held id && action != .accept) }
  match s.pendingHooks id with
  | none => s
  | some d =>
    { s.setDecision d id (.resolved action) with
      pendingHooks := Function.update s.pendingHooks id none }

def resolveFallback (s : State) (d : Nat) (decision : Decision) : Decision :=
  match decision.stage with
  | .hooked fallback =>
    if s.pendingHooks decision.swapId = some d then
      { decision with stage := .resolved (fallback.getD cfg.defaultAction) }
    else decision
  | _ => decision

/-- `closeStream` -/
def disconnect (s : State) : State :=
  { s with
    connected := false
    decisions := s.decisions.mapIdx (s.resolveFallback cfg)
    pendingHooks := fun _ => none }

/-! ## Runs -/

def recordSend (s : State) (id : Nat) : State :=
  { s with
    sent := id :: s.sent
    sentWhileHeld := if s.held id then id :: s.sentWhileHeld else s.sentWhileHeld }

def takeLock (s : State) (i : Nat) (run : Run) (next : Stage) : Option State :=
  if (s.locks (cfg.typeOf run.swapId)).isSome then none
  else
    some { s.setStage i run next with
      locks := Function.update s.locks (cfg.typeOf run.swapId) (some i) }

def giveLock (s : State) (i : Nat) (run : Run) : State :=
  { s.setStage i run .done with
    locks := Function.update s.locks (cfg.typeOf run.swapId) none }

/-- A hold keeps the send back; anything else removes the row. -/
def persistSendApprovalDecision (s : State) (i : Nat) (run : Run) (approval : SendApprovalAction)
    (held next : Stage) : State :=
  if approval = .hold then (s.createHold cfg run.swapId).setStage i run held
  else (s.removeHold run.swapId).setStage i run next

/-- `lockupReverseSwap` and `handleChainSwapLockup`: without an approval the lockup fails, and a
reverse swap is skipped when its node cannot be resolved. -/
def proceed (s : State) (i : Nat) (run : Run) (approval : SendApprovalAction) :
    Outcome → Option State
  | .sent transactionId =>
    if approval = .accept then
      some ((s.recordSend run.swapId).setStage i run (.setServerLockup transactionId))
    else none
  | .failed => some ((s.storeStatus cfg run.swapId transactionFailed).setStage i run .release)
  | .skipped =>
    if cfg.typeOf run.swapId = .reverseSubmarine then some (s.setStage i run .release) else none
  | .ok => none

def setServerLockup (s : State) (id transactionId : Nat) : State :=
  match s.rows id with
  | none => s
  | some row =>
    s.storeRow cfg id
      { row with
        serverLockup := some transactionId
        status :=
          if cfg.typeOf id = .chain then transactionServerMempool else transactionMempool }

/-- The invoice is paid, or the swap is abandoned. -/
def pay (s : State) (i : Nat) (run : Run) (approval : SendApprovalAction) :
    Outcome → Option State
  | .sent _ =>
    if approval = .accept then some ((s.recordSend run.swapId).setStage i run .payRelease) else none
  | .failed => some ((s.storeStatus cfg run.swapId invoiceFailedToPay).setStage i run .payRelease)
  | _ => none

def resolvedAction (s : State) (d : Nat) : Option SendApprovalAction :=
  match s.decisions[d]? with
  | some ⟨_, .resolved action⟩ => some action
  | _ => none

/-- The next step of a run. A payment that is under way already, or to the server itself, needs no
approval: `payInvoice` is `skipped` then. -/
def stepRun (s : State) (i : Nat) (run : Run) (outcome : Outcome) : Option State :=
  match run.stage with
  | .load =>
    some (if s.loadEligible cfg run.swapId run.event then s.resolveSendApproval i run
      else s.setStage i run .remove)
  | .remove => some ((s.removeHold run.swapId).setStage i run .done)
  | .waiting d => (s.resolvedAction d).map fun a => s.setStage i run (.acquire (.loadFresh a))
  | .acquire next => s.takeLock cfg i run next
  | .loadFresh a =>
    some (s.setStage i run
      (if s.loadEligible cfg run.swapId run.event then .persist a else .removeFresh))
  | .removeFresh => some ((s.removeHold run.swapId).setStage i run .release)
  | .persist a =>
    some ((s.persistSendApprovalDecision cfg i run a .release (.proceed a)).deleteApproval run.swapId)
  | .proceed a => s.proceed cfg i run a outcome
  | .setServerLockup transactionId =>
    some ((s.setServerLockup cfg run.swapId transactionId).setStage i run .release)
  | .release => some ((s.giveLock cfg i run).deleteApproval run.swapId)
  | .payInvoice =>
    if outcome = .skipped then some (s.setStage i run .payRelease)
    else some ((s.newDecision run.swapId).setStage i run (.payWaiting s.decisions.length))
  | .payWaiting d => (s.resolvedAction d).map fun a => s.setStage i run (.payPersist a)
  | .payPersist a => some (s.persistSendApprovalDecision cfg i run a .payRelease (.pay a))
  | .pay a => s.pay cfg i run a outcome
  | .prune =>
    some (s.setStage i run
      (if (s.rows run.swapId).any (·.status == invoicePending) then .payRelease else .pruneRemove))
  | .pruneRemove => some ((s.removeHold run.swapId).setStage i run .payRelease)
  | .payRelease => some (s.giveLock cfg i run)
  | .done => none

def start (s : State) (run : Run) : State := { s with runs := s.runs ++ [run] }

def step (s : State) : Op → Option State
  | .store id row => some (s.storeRow cfg id row)
  | .connect => if s.connected then none else some { s with connected := true }
  | .disconnect => some (s.disconnect cfg)
  | .timeout d => s.timeout cfg d
  | .respond id action => if s.connected then some (s.respond id action) else none
  | .decide d => s.decide cfg d
  | .lockup id event => some (s.start ⟨id, event, .load⟩)
  | .payInvoice id =>
    if cfg.typeOf id = .submarine then some (s.start ⟨id, none, .acquire .payInvoice⟩) else none
  | .prune id =>
    if cfg.typeOf id = .submarine then some (s.start ⟨id, none, .acquire .prune⟩) else none
  | .run i outcome => (s.runs[i]?).bind fun run => s.stepRun cfg i run outcome

end

end State

end Boltz.HeldSends

import Boltz.Async.Transitions
import Mathlib.Logic.Function.Basic

/-!
# Webhook calls and their retries

Every hook has one stored state, while calls for new statuses and the retries of failed hooks run
side by side. A call is known by its number; the log keeps what happened, the newest first.
-/

namespace Boltz.Sidecar.Webhooks

open Boltz.Async

set_option linter.unusedSectionVars false

inductive WebHookState where
  | none
  | ok
  | failed
  | abandoned
  deriving DecidableEq, Repr

inductive CallResult where
  | success
  | failed
  | notIncluded
  deriving DecidableEq, Repr

/-- Why a retry abandons its hook: the number of failed retries, a status that the filter does not
let through, or a swap without a status. -/
inductive Reason where
  | retries (failedCount : Nat)
  | notIncluded
  | noData
  deriving DecidableEq, Repr

/-- Where a call is; from `returned` on only the retry around it goes on. -/
inductive Phase where
  | checking
  | requesting
  | called
  | storing (ok : Bool)
  | returned (res : CallResult)
  | counting (failedCount : Nat)
  | abandon (reason : Reason)
  | abandoning (reason : Reason)
  deriving DecidableEq, Repr

structure Call (Id Status : Type) where
  hook : Id
  /-- The status it is made for; a retry of a swap without status has none. -/
  data : Option Status
  retry : Bool
  phase : Phase
  deriving DecidableEq, Repr

inductive Event (Id Status : Type) where
  /-- The filter let the status through. -/
  | started (number : Nat) (hook : Id) (status : Status)
  /-- The address did not pass the IP check. -/
  | refused (number : Nat) (hook : Id)
  /-- The request succeeded. -/
  | delivered (number : Nat)
  | succeeded (number : Nat) (hook : Id)
  | failed (number : Nat) (hook : Id)
  | retryFailed (hook : Id)
  | abandoned (hook : Id) (data : Option Status) (reason : Reason)
  deriving DecidableEq, Repr

structure Config (Id Status : Type) where
  allowInsecure : Bool
  maxRetries : Nat
  /-- The hooks in the database and the statuses that each wants to hear of. -/
  hooks : List Id
  nodup : hooks.Nodup
  statusInclude : Id → Option (List Status)

structure State (Id Status : Type) where
  state : Id → WebHookState
  /-- The statuses of the swaps in the database. -/
  swapStatus : Id → Option Status
  retryCount : Id → Nat := fun _ => 0
  calls : Nat → Option (Call Id Status) := fun _ => Option.none
  next : Nat := 0
  /-- The hooks of the retry round that no worker has taken yet. -/
  round : List Id := []
  log : List (Event Id Status) := []

inductive Op (Id Status : Type) where
  | update (id : Id) (status : Status)
  | callWebhook (id : Id) (status : Status)
  | retryCalls
  | retryCall (id : Id)
  /-- The next step of a call, with the answer of the check or the request. -/
  | go (number : Nat) (ok : Bool)
  deriving DecidableEq, Repr

section Model

variable {Id Status : Type} [DecidableEq Id] [DecidableEq Status]

def Config.shouldBeSkipped (config : Config Id Status) (hook : Id) (status : Status) : Bool :=
  (config.statusInclude hook).any fun statuses => !statuses.contains status

def Config.afterFailure (config : Config Id Status) (failedCount : Nat) : Phase :=
  if config.maxRetries ≤ failedCount then Phase.abandon (Reason.retries failedCount)
  else Phase.counting failedCount

namespace State

variable (config : Config Id Status) (s : State Id Status)

def running (p : Call Id Status → Bool) : Bool :=
  (List.range s.next).any fun n => (s.calls n).any p

def idle (hook : Id) : Bool := !s.running fun call => decide (call.hook = hook)

def setCall (n : Nat) (call : Option (Call Id Status)) : State Id Status :=
  { s with calls := Function.update s.calls n call }

def add (call : Call Id Status) : State Id Status :=
  { s.setCall s.next (some call) with next := s.next + 1 }

def setState (hook : Id) (state : WebHookState) : State Id Status :=
  { s with state := Function.update s.state hook state }

def setCount (hook : Id) (count : Nat) : State Id Status :=
  { s with retryCount := Function.update s.retryCount hook count }

def record (e : Event Id Status) : State Id Status := { s with log := e :: s.log }

/-- `call_webhook` begins, for a status that is not to be skipped. -/
def start (hook : Id) (status : Status) (retry : Bool) : State Id Status :=
  (s.record (.started s.next hook status)).add ⟨hook, some status, retry, .checking⟩

def callWebhook (hook : Id) (status : Status) : Option (State Id Status) :=
  if hook ∈ config.hooks then
    if config.shouldBeSkipped hook status then some s else some (s.start hook status false)
  else none

/-- A round takes the hooks that are stored as failed; the last round has ended. -/
def retryCalls : Option (State Id Status) :=
  if s.round = [] ∧ s.running (·.retry) = false then
    some { s with round := config.hooks.filter fun hook => decide (s.state hook = .failed) }
  else none

/-- A worker takes a hook and looks up what to call it with. -/
def retryCall (hook : Id) : Option (State Id Status) :=
  if hook ∈ s.round then
    let s := { s with round := s.round.erase hook }
    match s.swapStatus hook with
    | Option.none => some (s.add ⟨hook, Option.none, true, .abandon .noData⟩)
    | some status =>
      if config.shouldBeSkipped hook status then
        some (s.add ⟨hook, some status, true, .returned .notIncluded⟩)
      else some (s.start hook status true)
  else none

/-- `call_webhook` returns, to the retry if there is one. -/
def giveBack (n : Nat) (call : Call Id Status) (res : CallResult) : State Id Status :=
  if call.retry then s.setCall n (some { call with phase := .returned res })
  else s.setCall n Option.none

def goOn (n : Nat) (call : Call Id Status) (ok : Bool) : State Id Status :=
  match call.phase with
  | .checking =>
    if config.allowInsecure || ok then s.setCall n (some { call with phase := .requesting })
    else (s.record (.refused n call.hook)).giveBack n call .failed
  | .requesting =>
    if ok then (s.record (.delivered n)).setCall n (some { call with phase := .called })
    else s.setCall n (some { call with phase := .storing false })
  | .called => (s.setCount call.hook 0).setCall n (some { call with phase := .storing true })
  | .storing true =>
    ((s.setState call.hook .ok).record (.succeeded n call.hook)).giveBack n call .success
  | .storing false =>
    ((s.setState call.hook .failed).record (.failed n call.hook)).giveBack n call .failed
  | .returned .success => (s.setCount call.hook 0).setCall n Option.none
  | .returned .failed =>
    (s.record (.retryFailed call.hook)).setCall n
      (some { call with phase := config.afterFailure (s.retryCount call.hook + 1) })
  | .returned .notIncluded => s.setCall n (some { call with phase := .abandon .notIncluded })
  | .counting failedCount => (s.setCount call.hook failedCount).setCall n Option.none
  | .abandon reason =>
    (s.setCount call.hook 0).setCall n (some { call with phase := .abandoning reason })
  | .abandoning reason =>
    ((s.setState call.hook .abandoned).record (.abandoned call.hook call.data reason)).setCall n
      Option.none

def step (s : State Id Status) : Op Id Status → Option (State Id Status)
  | .update id status => some { s with swapStatus := Function.update s.swapStatus id (some status) }
  | .callWebhook id status => s.callWebhook config id status
  | .retryCalls => s.retryCalls config
  | .retryCall id => s.retryCall config id
  | .go number ok => (s.calls number).map fun call => s.goOn config number call ok

end State

/-! ## What a step leaves alone -/

section Frame

variable (s : State Id Status) (n : Nat) (call : Call Id Status) (res : CallResult)

@[simp] theorem State.giveBack_state : (s.giveBack n call res).state = s.state := by
  unfold State.giveBack
  split <;> rfl

@[simp] theorem State.giveBack_log : (s.giveBack n call res).log = s.log := by
  unfold State.giveBack
  split <;> rfl

@[simp] theorem State.giveBack_retryCount :
    (s.giveBack n call res).retryCount = s.retryCount := by
  unfold State.giveBack
  split <;> rfl

@[simp] theorem State.giveBack_round : (s.giveBack n call res).round = s.round := by
  unfold State.giveBack
  split <;> rfl

@[simp] theorem State.giveBack_next : (s.giveBack n call res).next = s.next := by
  unfold State.giveBack
  split <;> rfl

/-- What is left of a call that returns. -/
def Call.after (call : Call Id Status) (res : CallResult) : Option (Call Id Status) :=
  if call.retry then some { call with phase := .returned res } else Option.none

@[simp] theorem State.giveBack_calls :
    (s.giveBack n call res).calls = Function.update s.calls n (call.after res) := by
  unfold State.giveBack Call.after
  split <;> rfl

end Frame

end Model

end Boltz.Sidecar.Webhooks

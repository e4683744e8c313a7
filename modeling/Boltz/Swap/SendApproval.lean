import Boltz.Db.Repositories

/-!
# Approval of outgoing sends (`SendApprovalGuard.ts`, `SendApprovalHook.ts`, `SwapNursery.ts`)
-/

namespace Boltz

open Async

/-- `sendApprovalHook.hook`: the response of the approver; without one (not connected, timed out
or disconnected) the fallback or else the default action. -/
def sendApprovalHook (fallback : Option SendApprovalAction) (l : Label) :
    M SendApprovalAction := do
  match ← ask Answer.approval? l with
  | some action => pure action
  | none =>
    let defaultAction ← read (fun w => w.defaultAction) l
    pure (fallback.getD defaultAction)

/-- A swap that is held already stays held unless an approver responds. -/
def resolveSendApprovalDecision (swapId : Nat) (l : Label := .other) : M SendApprovalAction := do
  let held ← SendApprovalHoldRepository.exists swapId
  sendApprovalHook (if held then some .hold else none) l

/-- A hold creates the row and keeps the send back; anything else removes it. -/
def persistSendApprovalDecision (swapId : Nat) (type : SwapType) (action : SendApprovalAction) :
    M Bool := do
  if action = .hold then
    SendApprovalHoldRepository.create swapId type
    pure false
  else
    SendApprovalHoldRepository.remove swapId
    pure true

/-- The pending promise of the swap, or a new one (`true`) that is put into the map. -/
def pendingSendApproval (swapId : Nat) : M (Nat × Bool) :=
  Prog.call
    { label := .other
      run := fun _ w _ => match w.approvals.pending swapId with
        | some promise => some ((promise, false), w)
        | none =>
          let a := w.approvals
          some ((a.next, true),
            { w with approvals :=
              { a with
                pending := fun j => if j = swapId then some a.next else a.pending j
                next := a.next + 1 } }) }

def deletePendingSendApproval (swapId : Nat) : M Unit :=
  write fun w =>
    { w with approvals :=
      { w.approvals with pending := fun j => if j = swapId then none else w.approvals.pending j } }

def settleSendApproval (promise : Nat) (action : SendApprovalAction) : M Unit :=
  write fun w =>
    { w with approvals :=
      { w.approvals with
        decided := fun j => if j = promise then some action else w.approvals.decided j } }

/-- Waits for the promise. -/
def awaitSendApproval (promise : Nat) : M SendApprovalAction :=
  Prog.call
    { label := .other
      run := fun _ w _ => (w.approvals.decided promise).map (·, w) }

/-- Runs that ask for the same swap at the same time share one promise. -/
def resolveSendApproval (swapId : Nat) : M Nat := do
  let (promise, fresh) ← pendingSendApproval swapId
  Prog.when fresh <| Prog.spawn do
    let action ← resolveSendApprovalDecision swapId
    settleSendApproval promise action
  pure promise

def handleSendApproval (swapId : Nat) (type : SwapType) (approval : SendApprovalAction) :
    M Bool := do
  let mayProceed ← persistSendApprovalDecision swapId type approval
  deletePendingSendApproval swapId
  pure mayProceed

/-- The skeleton of every outgoing send: the swap is loaded, the approval is resolved outside the
lock, and the swap is loaded again inside it. -/
def withSendApproval {α : Type} (id : Nat) (type : SwapType)
    (loadEligible : Label → M (Option α)) (proceed : α → SendApprovalAction → M Unit) : M Unit := do
  match ← loadEligible .other with
  | none => SendApprovalHoldRepository.remove id
  | some _ => do
    let promise ← resolveSendApproval id
    let approval ← awaitSendApproval promise
    (withLock (lockForSwapType type) do
      match ← loadEligible (.loadLockup id) with
      | none => SendApprovalHoldRepository.remove id
      | some fresh => do
        let mayProceed ← handleSendApproval id type approval
        Prog.when mayProceed (proceed fresh approval)).finally_ (deletePendingSendApproval id)

end Boltz

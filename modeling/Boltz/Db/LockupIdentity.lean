import Boltz.Consts.Enums

/-!
# Who owns the user lockup (`lib/db/LockupIdentity.ts`, `lib/swap/CompetingLockup.ts`)
-/

namespace Boltz

open SwapUpdateEvent

inductive LockupWriteOutcome where
  | acquired | idempotent | rejected
  deriving DecidableEq, Repr

structure LockupIdentity where
  transactionId : Nat
  vout : Option Nat
  deriving DecidableEq, Repr

def lockupTakeoverStatuses : List SwapUpdateEvent :=
  [transactionLockupFailed, transactionZeroConfRejected]

def canTakeOverLockup (status : SwapUpdateEvent) : Bool := lockupTakeoverStatuses.contains status

def isSameLockup (existing incoming : LockupIdentity) : Bool :=
  existing.transactionId == incoming.transactionId &&
    (existing.vout.isNone || incoming.vout.isNone || existing.vout == incoming.vout)

structure LockupWriteDecision where
  outcome : LockupWriteOutcome
  write : Bool
  vout : Option Nat
  deriving DecidableEq, Repr

def decideLockupWrite (existing : Option LockupIdentity) (incoming : LockupIdentity)
    (currentStatus targetStatus : SwapUpdateEvent) (updatable : Bool) : LockupWriteDecision :=
  match existing with
  | none =>
    if !updatable then ⟨.rejected, false, none⟩ else ⟨.acquired, true, incoming.vout⟩
  | some existing =>
    if isSameLockup existing incoming then
      let wouldDowngradeConfirmed :=
        currentStatus == transactionConfirmed && targetStatus != transactionConfirmed
      ⟨.idempotent, updatable && !wouldDowngradeConfirmed, incoming.vout.or existing.vout⟩
    else if updatable && canTakeOverLockup currentStatus then ⟨.acquired, true, incoming.vout⟩
    else ⟨.rejected, false, none⟩

theorem decideLockupWrite_of_not_updatable (existing : Option LockupIdentity)
    (incoming : LockupIdentity) (currentStatus targetStatus : SwapUpdateEvent) :
    (decideLockupWrite existing incoming currentStatus targetStatus false).write = false := by
  unfold decideLockupWrite
  cases existing with
  | none => rfl
  | some existing =>
    dsimp only
    split <;> rfl

def shouldWriteZeroConfRejection (existing : Option LockupIdentity) (incoming : LockupIdentity)
    (currentStatus : SwapUpdateEvent) : Bool :=
  match existing with
  | none => false
  | some existing => currentStatus == transactionMempool && isSameLockup existing incoming

theorem of_shouldWriteZeroConfRejection {existing : Option LockupIdentity}
    {incoming : LockupIdentity} {currentStatus : SwapUpdateEvent}
    (h : shouldWriteZeroConfRejection existing incoming currentStatus = true) :
    currentStatus = transactionMempool ∧
      ∃ e, existing = some e ∧ isSameLockup e incoming = true := by
  cases existing with
  | none => cases h
  | some e =>
    simp only [shouldWriteZeroConfRejection, Bool.and_eq_true, beq_iff_eq] at h
    exact ⟨h.1, e, rfl, h.2⟩

def shouldIgnoreCompetingLockup (prev : Option LockupIdentity) (incoming : LockupIdentity)
    (recordedStatus : SwapUpdateEvent) : Bool :=
  match prev with
  | none => false
  | some prev => !isSameLockup prev incoming && !canTakeOverLockup recordedStatus

/-- The identity stored in a row: none while no transaction is recorded. -/
def storedLockup (transactionId vout : Option Nat) : Option LockupIdentity :=
  transactionId.map fun id => ⟨id, vout⟩

end Boltz

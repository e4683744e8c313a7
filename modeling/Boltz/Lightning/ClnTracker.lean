import Boltz.Async.Transitions
import Boltz.Consts.Enums
import Mathlib.Logic.Function.Basic

/-!
# Pending payments of CLN (`lib/lightning/paymentTrackers/ClnPendingPaymentTracker.ts`)

One process. A payment hash belongs to one swap, and the currency of that swap has one CLN node, so
a row is known by its payment hash. `owned` are the rows that were created or loaded in this
process. Every wait of the code ends a step.
-/

namespace Boltz.ClnTracker

open Boltz.Async

set_option linter.unusedSectionVars false

structure Payment where
  status : LightningPaymentStatus
  error : Option String := none
  retries : Nat := 1
  deriving DecidableEq, Repr

/-- What is stored of a payment that is not pending any more. -/
inductive Outcome where
  | success
  | permanentFailure (error : String)
  | temporaryFailure
  deriving DecidableEq, Repr

def Outcome.status : Outcome → LightningPaymentStatus
  | .success => .success
  | .permanentFailure _ => .permanentFailure
  | .temporaryFailure => .temporaryFailure

def Outcome.error : Outcome → Option String
  | .permanentFailure error => some error
  | _ => none

/-- Promises that are waited for. -/
inductive Task (Hash : Type) where
  /-- `sendPaymentWithNode`, from its row to the end of the race with the timeout. -/
  | sending (hash : Hash)
  /-- The promise of `trackPayment`. -/
  | promise (hash : Hash)
  | storing (hash : Hash) (outcome : Outcome)
  deriving DecidableEq, Repr

/-- A run of `checkPendingPayments`. -/
inductive Check (Hash : Type) where
  | next
  | listing (hash : Hash)
  | storing (hash : Hash) (outcome : Outcome)
  | removing (hash : Hash)
  deriving DecidableEq, Repr

structure State (Hash : Type) where
  rows : Hash → Option Payment
  owned : Hash → Bool := fun _ => false
  paymentsToWatch : Hash → Bool := fun _ => false
  tasks : List (Task Hash) := []
  checks : List (Check Hash) := []

/-- How the race of a payment with its timeout ends, or its promise later. -/
inductive Sent where
  | paid
  | timeout
  | failed (error : String)
  deriving DecidableEq, Repr

/-- What `listPays` and `checkListPaysStatus` say; `pending` is `paymentPendingError`. -/
inductive Listed where
  | noPays
  | undetermined
  | paid
  | pending
  | failed (error : String)
  deriving DecidableEq, Repr

inductive Op (Hash : Type) where
  /-- `init` watches a pending row. -/
  | load (hash : Hash)
  | create (hash : Hash)
  | sent (i : Nat) (result : Sent)
  | settled (i : Nat) (error : Option String) (connected : Bool)
  | stored (i : Nat)
  | check
  /-- A check gets to an entry of the map. -/
  | enter (i : Nat) (hash : Hash)
  | listed (i : Nat) (result : Listed) (connected : Bool)
  | checkStored (i : Nat)
  | remove (i : Nat)
  | checkEnd (i : Nat)
  deriving DecidableEq, Repr

/-! ## Errors of a payment -/

def includes (s part : String) : Bool := s.toList.tails.any part.toList.isPrefixOf

def errIsIncorrectPaymentDetails (err : String) : Bool :=
  includes err "WIRE_INCORRECT_OR_UNKNOWN_PAYMENT_DETAILS" ||
    includes err "incorrect_or_unknown_payment_details"

def errIsInvoiceExpired (err : String) : Bool :=
  err == "InvoiceExpiredError()" || includes err.toLower "invoice expired"

def isPermanentError (error : String) : Bool :=
  errIsIncorrectPaymentDetails error || errIsInvoiceExpired error

/-- What `handleFailedPayment` stores; nothing while the status of the node might be stale. -/
def handleFailedPayment (error : String) (connected : Bool) : Option Outcome :=
  if !connected || error == "Connection dropped" then none
  else if isPermanentError error then some (.permanentFailure error) else some .temporaryFailure

namespace State

variable {Hash : Type} [DecidableEq Hash] (s : State Hash)

def isPending (hash : Hash) : Bool := (s.rows hash).any fun row => row.status == .pending

def setStatus (hash : Hash) (outcome : Outcome) : State Hash :=
  let row := (s.rows hash).map fun row =>
    { row with status := outcome.status, error := outcome.error }
  { s with rows := Function.update s.rows hash row }

def watchPayment (hash : Hash) : State Hash :=
  { s with paymentsToWatch := Function.update s.paymentsToWatch hash true }

def setTask (i : Nat) (task : Task Hash) : State Hash := { s with tasks := s.tasks.set i task }

def endTask (i : Nat) : State Hash := { s with tasks := s.tasks.eraseIdx i }

def setCheck (i : Nat) (check : Check Hash) : State Hash :=
  { s with checks := s.checks.set i check }

def load (hash : Hash) : Option (State Hash) :=
  if s.isPending hash then
    some { s.watchPayment hash with owned := Function.update s.owned hash true }
  else none

/-- `LightningPaymentRepository.create`; it throws unless a row that exists failed temporarily. -/
def create (hash : Hash) : Option (State Hash) :=
  let start (row : Payment) : State Hash :=
    { s with
      rows := Function.update s.rows hash (some row)
      owned := Function.update s.owned hash true
      tasks := s.tasks ++ [.sending hash] }
  match s.rows hash with
  | none => some (start { status := .pending })
  | some existing =>
    if existing.status ≠ .temporaryFailure then none
    else some (start { existing with status := .pending, retries := existing.retries + 1 })

/-- xpay throws while the payment is still pending: such an error is not stored. -/
def sent (i : Nat) (result : Sent) : Option (State Hash) :=
  match s.tasks[i]? with
  | some (.sending hash) =>
    match result with
    | .paid => some (s.setTask i (.storing hash .success))
    | .timeout => some (s.setTask i (.promise hash))
    | .failed error =>
      if isPermanentError error then some (s.setTask i (.storing hash (.permanentFailure error)))
      else some ((s.watchPayment hash).endTask i)
  | _ => none

def settled (i : Nat) (error : Option String) (connected : Bool) : Option (State Hash) :=
  match s.tasks[i]? with
  | some (.promise hash) =>
    match error with
    | none => some (s.setTask i (.storing hash .success))
    | some error =>
      if isPermanentError error then
        match handleFailedPayment error connected with
        | none => some (s.endTask i)
        | some outcome => some (s.setTask i (.storing hash outcome))
      else some ((s.watchPayment hash).endTask i)
  | _ => none

def stored (i : Nat) : Option (State Hash) :=
  match s.tasks[i]? with
  | some (.storing hash outcome) => some ((s.setStatus hash outcome).endTask i)
  | _ => none

def enter (i : Nat) (hash : Hash) : Option (State Hash) :=
  match s.checks[i]? with
  | some .next => if s.paymentsToWatch hash then some (s.setCheck i (.listing hash)) else none
  | _ => none

/-- Without pays the failure is handled aside: the check does not wait for it. -/
def listed (i : Nat) (result : Listed) (connected : Bool) : Option (State Hash) :=
  match s.checks[i]? with
  | some (.listing hash) =>
    match result with
    | .noPays =>
      match handleFailedPayment "no attempts have been made" connected with
      | none => some (s.setCheck i (.removing hash))
      | some outcome =>
        some { s.setCheck i (.removing hash) with tasks := s.tasks ++ [.storing hash outcome] }
    | .undetermined => some (s.setCheck i .next)
    | .pending => some (s.setCheck i .next)
    | .paid => some (s.setCheck i (.storing hash .success))
    | .failed error =>
      match handleFailedPayment error connected with
      | none => some (s.setCheck i (.removing hash))
      | some outcome => some (s.setCheck i (.storing hash outcome))
  | _ => none

def checkStored (i : Nat) : Option (State Hash) :=
  match s.checks[i]? with
  | some (.storing hash outcome) => some ((s.setStatus hash outcome).setCheck i (.removing hash))
  | _ => none

def remove (i : Nat) : Option (State Hash) :=
  match s.checks[i]? with
  | some (.removing hash) =>
    some { s.setCheck i .next with
      paymentsToWatch := Function.update s.paymentsToWatch hash false }
  | _ => none

def checkEnd (i : Nat) : Option (State Hash) :=
  match s.checks[i]? with
  | some .next => some { s with checks := s.checks.eraseIdx i }
  | _ => none

def step (s : State Hash) : Op Hash → Option (State Hash)
  | .load hash => s.load hash
  | .create hash => s.create hash
  | .sent i result => s.sent i result
  | .settled i error connected => s.settled i error connected
  | .stored i => s.stored i
  | .check => some { s with checks := s.checks ++ [.next] }
  | .enter i hash => s.enter i hash
  | .listed i result connected => s.listed i result connected
  | .checkStored i => s.checkStored i
  | .remove i => s.remove i
  | .checkEnd i => s.checkEnd i

end State

/-! ## The policy -/

section Policy

variable {Hash : Type} [DecidableEq Hash]

/-- The answer tells what becomes of the payment, or that it is pending; and a failure is stored
before the check goes on. -/
def Listed.answers (connected : Bool) : Listed → Bool
  | .noPays => false
  | .failed error => (handleFailedPayment error connected).isSome
  | _ => true

/-- A pending payment is not dropped by a failure that is not stored, and it is not started anew
between the end of a check and the removal of its entry. -/
def State.admits (s : State Hash) : Op Hash → Bool
  | .create hash => !s.checks.contains (.removing hash)
  | .settled i (some error) connected =>
    match s.tasks[i]? with
    | some (.promise hash) => !s.isPending hash || !isPermanentError error ||
        (handleFailedPayment error connected).isSome
    | _ => true
  | .listed i result connected =>
    match s.checks[i]? with
    | some (.listing hash) => !s.isPending hash || result.answers connected
    | _ => true
  | _ => true

end Policy

/-! ## Who learns of a payment -/

section Holders

def Task.hash {Hash : Type} : Task Hash → Hash
  | .sending hash => hash
  | .promise hash => hash
  | .storing hash _ => hash

variable {Hash : Type} [DecidableEq Hash] {s s' : State Hash} {hash h : Hash} {i : Nat}

/-- The payment is watched, or something that is waited for will resolve it. -/
def State.Held (s : State Hash) (hash : Hash) : Prop :=
  s.paymentsToWatch hash = true ∨ (∃ task ∈ s.tasks, task.hash = hash) ∨
    ∃ outcome, .storing hash outcome ∈ s.checks

structure State.Inv (s : State Hash) : Prop where
  held : ∀ hash, s.owned hash = true → s.isPending hash = true → s.Held hash
  removing : ∀ hash, .removing hash ∈ s.checks → s.isPending hash = false

theorem State.Held.mono (hheld : s.Held h)
    (hwatch : s.paymentsToWatch h = true → s'.Held h)
    (htask : ∀ task ∈ s.tasks, task.hash = h → s'.Held h)
    (hcheck : ∀ outcome, .storing h outcome ∈ s.checks → s'.Held h) : s'.Held h := by
  rcases hheld with hw | ⟨task, hmem, hhash⟩ | ⟨outcome, hmem⟩
  · exact hwatch hw
  · exact htask task hmem hhash
  · exact hcheck outcome hmem

theorem held_setTask {task task' : Task Hash} (hget : s.tasks[i]? = some task)
    (hsame : task'.hash = task.hash) (hheld : s.Held h) : (s.setTask i task').Held h := by
  refine hheld.mono .inl (fun t hmem hhash => .inr (.inl ?_)) (fun o hmem => .inr (.inr ⟨o, hmem⟩))
  rcases mem_set_or hget task' hmem with rfl | hmem
  · exact ⟨task', mem_set_self hget task', hsame.trans hhash⟩
  · exact ⟨t, hmem, hhash⟩

theorem held_endTask {task : Task Hash} (hget : s.tasks[i]? = some task) (hne : task.hash ≠ h)
    (hheld : s.Held h) : (s.endTask i).Held h := by
  refine hheld.mono .inl (fun t hmem hhash => .inr (.inl ?_)) (fun o hmem => .inr (.inr ⟨o, hmem⟩))
  rcases mem_eraseIdx_or hget hmem with rfl | hmem
  · exact absurd hhash hne
  · exact ⟨t, hmem, hhash⟩

theorem held_watched {task : Task Hash} (hget : s.tasks[i]? = some task) (hhash : task.hash = hash)
    (hheld : s.Held h) : ((s.watchPayment hash).endTask i).Held h := by
  by_cases hh : h = hash
  · subst hh
    exact .inl (Function.update_self _ _ _)
  · refine held_endTask (s := s.watchPayment hash) hget (by rw [hhash]; exact Ne.symm hh) ?_
    refine hheld.mono (fun hw => .inl ?_) (fun t hmem ht => .inr (.inl ⟨t, hmem, ht⟩))
      (fun o hmem => .inr (.inr ⟨o, hmem⟩))
    exact (Function.update_of_ne hh _ _).trans hw

theorem held_setCheck {check check' : Check Hash} (hget : s.checks[i]? = some check)
    (hne : ∀ outcome, check ≠ .storing h outcome) (hheld : s.Held h) :
    (s.setCheck i check').Held h := by
  refine hheld.mono .inl (fun t hmem hhash => .inr (.inl ⟨t, hmem, hhash⟩))
    (fun o hmem => .inr (.inr ⟨o, ?_⟩))
  exact (mem_set_or hget check' hmem).resolve_left (Ne.symm (hne o))

theorem isPending_setStatus (s : State Hash) (hash h : Hash) (outcome : Outcome) :
    (s.setStatus hash outcome).isPending h = (decide (h ≠ hash) && s.isPending h) := by
  by_cases hh : h = hash
  · subst hh
    unfold State.isPending State.setStatus
    cases s.rows h <;> cases outcome <;> simp [Outcome.status]
  · simp [State.isPending, State.setStatus, hh]

/-- Only the tasks and the entries of the map change, and whoever held a payment still does. -/
theorem State.Inv.tasks (hinv : s.Inv) (hrows : s'.rows = s.rows) (howned : s'.owned = s.owned)
    (hchecks : ∀ hash, .removing hash ∈ s'.checks → .removing hash ∈ s.checks ∨
      s.isPending hash = false)
    (hheld : ∀ h, s.isPending h = true → s.Held h → s'.Held h) : s'.Inv := by
  have hpending : ∀ h, s'.isPending h = s.isPending h := fun h => by
    unfold State.isPending
    rw [hrows]
  refine ⟨fun h hown hpend => ?_, fun h hmem => ?_⟩
  · rw [hpending] at hpend
    exact hheld h hpend (hinv.held h (howned ▸ hown) hpend)
  · rw [hpending]
    exact (hchecks h hmem).elim (hinv.removing h) id

/-- The status of a payment is stored. -/
theorem State.Inv.setStatus (hinv : s.Inv) {outcome : Outcome}
    (hrows : s'.rows = (s.setStatus hash outcome).rows) (howned : s'.owned = s.owned)
    (hchecks : ∀ k, .removing k ∈ s'.checks → .removing k ∈ s.checks ∨ k = hash)
    (hheld : ∀ h, h ≠ hash → s.Held h → s'.Held h) : s'.Inv := by
  have hpending : ∀ h, s'.isPending h = (decide (h ≠ hash) && s.isPending h) := fun h => by
    rw [← isPending_setStatus s hash h outcome]
    unfold State.isPending
    rw [hrows]
  refine ⟨fun h hown hpend => ?_, fun h hmem => ?_⟩
  · rw [hpending, Bool.and_eq_true] at hpend
    exact hheld h (of_decide_eq_true hpend.1) (hinv.held h (howned ▸ hown) hpend.2)
  · rw [hpending]
    rcases hchecks h hmem with hold | rfl
    · rw [hinv.removing h hold, Bool.and_false]
    · simp

theorem State.Inv.load (hinv : s.Inv) (hs : s.load hash = some s') : s'.Inv := by
  unfold State.load at hs
  split at hs
  · obtain rfl := Option.some.inj hs
    refine ⟨fun h hown hpend => ?_, hinv.removing⟩
    by_cases hh : h = hash
    · subst hh
      exact .inl (Function.update_self _ _ _)
    · have hheld := hinv.held h (by simpa [hh] using hown) hpend
      refine hheld.mono (fun hw => .inl ?_) (fun t hmem ht => .inr (.inl ⟨t, hmem, ht⟩))
        (fun o hmem => .inr (.inr ⟨o, hmem⟩))
      exact (Function.update_of_ne hh _ _).trans hw
  · exact absurd hs (Option.some_ne_none s').symm

theorem State.Inv.create (hinv : s.Inv) (hadmits : s.admits (.create hash) = true)
    (hs : s.create hash = some s') : s'.Inv := by
  have hnone : Check.removing hash ∉ s.checks := by
    simpa [State.admits] using hadmits
  have hstart : ∀ row : Payment, State.Inv { s with
      rows := Function.update s.rows hash (some row)
      owned := Function.update s.owned hash true
      tasks := s.tasks ++ [.sending hash] } := by
    intro row
    refine ⟨fun h hown hpend => ?_, fun h hmem => ?_⟩
    · by_cases hh : h = hash
      · exact .inr (.inl ⟨.sending hash, List.mem_append_right _ (List.mem_singleton.mpr rfl),
          hh.symm⟩)
      · have hheld := hinv.held h (by simpa [hh] using hown)
          (by simpa [State.isPending, hh] using hpend)
        exact hheld.mono .inl
          (fun t hmem ht => .inr (.inl ⟨t, List.mem_append_left _ hmem, ht⟩))
          (fun o hmem => .inr (.inr ⟨o, hmem⟩))
    · have hh : h ≠ hash := by
        rintro rfl
        exact hnone hmem
      simpa [State.isPending, hh] using hinv.removing h hmem
  unfold State.create at hs
  split at hs
  · obtain rfl := Option.some.inj hs
    exact hstart _
  · split at hs
    · exact absurd hs (Option.some_ne_none s').symm
    · obtain rfl := Option.some.inj hs
      exact hstart _

theorem State.Inv.sent (hinv : s.Inv) {result : Sent} (hs : s.sent i result = some s') :
    s'.Inv := by
  unfold State.sent at hs
  split at hs
  · rename_i hash hget
    split at hs
    · obtain rfl := Option.some.inj hs
      exact hinv.tasks rfl rfl (fun _ => .inl) fun _ _ => held_setTask hget rfl
    · obtain rfl := Option.some.inj hs
      exact hinv.tasks rfl rfl (fun _ => .inl) fun _ _ => held_setTask hget rfl
    · split at hs
      · obtain rfl := Option.some.inj hs
        exact hinv.tasks rfl rfl (fun _ => .inl) fun _ _ => held_setTask hget rfl
      · obtain rfl := Option.some.inj hs
        exact hinv.tasks rfl rfl (fun _ => .inl) fun _ _ => held_watched hget rfl
  · exact absurd hs (Option.some_ne_none s').symm

theorem State.Inv.settled (hinv : s.Inv) {error : Option String} {connected : Bool}
    (hadmits : s.admits (.settled i error connected) = true)
    (hs : s.settled i error connected = some s') : s'.Inv := by
  unfold State.settled at hs
  split at hs
  · rename_i hash hget
    split at hs
    · obtain rfl := Option.some.inj hs
      exact hinv.tasks rfl rfl (fun _ => .inl) fun _ _ => held_setTask hget rfl
    · rename_i error
      split at hs
      · rename_i hpermanent
        split at hs
        · rename_i hdeclined
          obtain rfl := Option.some.inj hs
          -- the payment is not pending any more
          have hdone : s.isPending hash = false := by
            simpa [State.admits, hget, hpermanent, hdeclined] using hadmits
          refine hinv.tasks rfl rfl (fun _ => .inl) fun h hpend => held_endTask hget ?_
          rintro rfl
          exact Bool.false_ne_true (hdone.symm.trans hpend)
        · obtain rfl := Option.some.inj hs
          exact hinv.tasks rfl rfl (fun _ => .inl) fun _ _ => held_setTask hget rfl
      · obtain rfl := Option.some.inj hs
        exact hinv.tasks rfl rfl (fun _ => .inl) fun _ _ => held_watched hget rfl
  · exact absurd hs (Option.some_ne_none s').symm

theorem State.Inv.stored (hinv : s.Inv) (hs : s.stored i = some s') : s'.Inv := by
  unfold State.stored at hs
  split at hs
  · rename_i hash outcome hget
    obtain rfl := Option.some.inj hs
    exact hinv.setStatus rfl rfl (fun _ => .inl) fun h hne hheld =>
      held_endTask (s := s) hget (Ne.symm hne) hheld
  · exact absurd hs (Option.some_ne_none s').symm

theorem removing_of_set {check' : Check Hash} (hmem : Check.removing h ∈ s.checks.set i check')
    (hne : check' ≠ .removing h) : Check.removing h ∈ s.checks :=
  (List.mem_or_eq_of_mem_set hmem).resolve_right fun he => hne he.symm

theorem State.Inv.enter (hinv : s.Inv) (hs : s.enter i hash = some s') : s'.Inv := by
  unfold State.enter at hs
  split at hs
  · rename_i hget
    split at hs
    · obtain rfl := Option.some.inj hs
      exact hinv.tasks rfl rfl (fun k hmem => .inl (removing_of_set hmem (by simp)))
        fun _ _ => held_setCheck hget (by simp)
    · exact absurd hs (Option.some_ne_none s').symm
  · exact absurd hs (Option.some_ne_none s').symm

theorem State.Inv.listed (hinv : s.Inv) {result : Listed} {connected : Bool}
    (hadmits : s.admits (.listed i result connected) = true)
    (hs : s.listed i result connected = some s') : s'.Inv := by
  unfold State.listed at hs
  split at hs
  · rename_i hash hget
    have hdone : result.answers connected = false → s.isPending hash = false := by
      intro hanswer
      simpa [State.admits, hget, hanswer] using hadmits
    have hremoving : ∀ k, Check.removing k ∈ s.checks.set i (.removing hash) →
        s.isPending hash = false → .removing k ∈ s.checks ∨ s.isPending k = false := by
      intro k hmem hpend
      rcases List.mem_or_eq_of_mem_set hmem with hold | heq
      · exact .inl hold
      · obtain rfl := Check.removing.inj heq
        exact .inr hpend
    split at hs
    · split at hs
      · obtain rfl := Option.some.inj hs
        exact hinv.tasks rfl rfl (fun k hmem => hremoving k hmem (hdone rfl))
          fun _ _ => held_setCheck hget (by simp)
      · obtain rfl := Option.some.inj hs
        refine hinv.tasks rfl rfl (fun k hmem => hremoving k hmem (hdone rfl)) fun h _ hheld => ?_
        exact (held_setCheck hget (by simp) hheld).mono .inl
          (fun t hmem ht => .inr (.inl ⟨t, List.mem_append_left _ hmem, ht⟩))
          (fun o hmem => .inr (.inr ⟨o, hmem⟩))
    · obtain rfl := Option.some.inj hs
      exact hinv.tasks rfl rfl (fun k hmem => .inl (removing_of_set hmem (by simp)))
        fun _ _ => held_setCheck hget (by simp)
    · obtain rfl := Option.some.inj hs
      exact hinv.tasks rfl rfl (fun k hmem => .inl (removing_of_set hmem (by simp)))
        fun _ _ => held_setCheck hget (by simp)
    · obtain rfl := Option.some.inj hs
      exact hinv.tasks rfl rfl (fun k hmem => .inl (removing_of_set hmem (by simp)))
        fun _ _ => held_setCheck hget (by simp)
    · split at hs
      · rename_i hdeclined
        obtain rfl := Option.some.inj hs
        exact hinv.tasks rfl rfl
          (fun k hmem => hremoving k hmem (hdone (by simp [Listed.answers, hdeclined])))
          fun _ _ => held_setCheck hget (by simp)
      · obtain rfl := Option.some.inj hs
        exact hinv.tasks rfl rfl (fun k hmem => .inl (removing_of_set hmem (by simp)))
          fun _ _ => held_setCheck hget (by simp)
  · exact absurd hs (Option.some_ne_none s').symm

theorem State.Inv.checkStored (hinv : s.Inv) (hs : s.checkStored i = some s') : s'.Inv := by
  unfold State.checkStored at hs
  split at hs
  · rename_i hash outcome hget
    obtain rfl := Option.some.inj hs
    refine hinv.setStatus rfl rfl (fun k hmem => ?_) fun h hne hheld => ?_
    · rcases List.mem_or_eq_of_mem_set hmem with hold | heq
      · exact .inl hold
      · exact .inr (Check.removing.inj heq)
    · exact held_setCheck (s := s) hget (by simp [Ne.symm hne]) hheld
  · exact absurd hs (Option.some_ne_none s').symm

theorem State.Inv.remove (hinv : s.Inv) (hs : s.remove i = some s') : s'.Inv := by
  unfold State.remove at hs
  split at hs
  · rename_i hash hget
    obtain rfl := Option.some.inj hs
    have hdone := hinv.removing hash (List.mem_of_getElem? hget)
    refine hinv.tasks rfl rfl (fun k hmem => .inl (removing_of_set hmem (by simp)))
      fun h hpend hheld => ?_
    have hh : h ≠ hash := by
      rintro rfl
      exact Bool.false_ne_true (hdone.symm.trans hpend)
    have hnext : (s.setCheck i .next).Held h := held_setCheck hget (by simp) hheld
    refine hnext.mono (fun hw => .inl ?_) (fun t hmem ht => .inr (.inl ⟨t, hmem, ht⟩))
      (fun o hmem => .inr (.inr ⟨o, hmem⟩))
    exact (Function.update_of_ne hh _ _).trans hw
  · exact absurd hs (Option.some_ne_none s').symm

theorem State.Inv.checkEnd (hinv : s.Inv) (hs : s.checkEnd i = some s') : s'.Inv := by
  unfold State.checkEnd at hs
  split at hs
  · rename_i hget
    obtain rfl := Option.some.inj hs
    refine hinv.tasks rfl rfl (fun k hmem => .inl (List.mem_of_mem_eraseIdx hmem))
      fun h _ hheld => hheld.mono .inl (fun t hmem ht => .inr (.inl ⟨t, hmem, ht⟩))
        fun o hmem => .inr (.inr ⟨o, ?_⟩)
    exact (mem_eraseIdx_or hget hmem).resolve_left (by simp)
  · exact absurd hs (Option.some_ne_none s').symm

theorem State.inv_step (s : State Hash) (op : Op Hash) (s' : State Hash) (hinv : s.Inv)
    (hadmits : s.admits op = true) (hs : s.step op = some s') : s'.Inv := by
  unfold State.step at hs
  cases op with
  | load hash => exact hinv.load hs
  | create hash => exact hinv.create hadmits hs
  | sent i result => exact hinv.sent hs
  | settled i error connected => exact hinv.settled hadmits hs
  | stored i => exact hinv.stored hs
  | check =>
    obtain rfl := Option.some.inj hs
    refine hinv.tasks rfl rfl (fun k hmem => .inl ?_) fun h _ hheld => hheld.mono .inl
      (fun t hmem ht => .inr (.inl ⟨t, hmem, ht⟩))
      fun o hmem => .inr (.inr ⟨o, List.mem_append_left _ hmem⟩)
    simpa using hmem
  | enter i hash => exact hinv.enter hs
  | listed i result connected => exact hinv.listed hadmits hs
  | checkStored i => exact hinv.checkStored hs
  | remove i => exact hinv.remove hs
  | checkEnd i => exact hinv.checkEnd hs

/-- What a step does to the map: nothing, a payment is added, or the end of a check removes one. -/
theorem watch_step {op : Op Hash} (hs : s.step op = some s') :
    s'.paymentsToWatch = s.paymentsToWatch ∨
    (∃ k, s'.paymentsToWatch = Function.update s.paymentsToWatch k true) ∨
    ∃ k, Check.removing k ∈ s.checks ∧ s'.rows = s.rows ∧
      s'.paymentsToWatch = Function.update s.paymentsToWatch k false := by
  unfold State.step at hs
  cases op with
  | load k =>
    simp only [State.load] at hs
    grind [State.watchPayment]
  | create k =>
    simp only [State.create] at hs
    grind
  | sent i result =>
    simp only [State.sent] at hs
    grind [State.setTask, State.endTask, State.watchPayment]
  | settled i error connected =>
    simp only [State.settled] at hs
    grind [State.setTask, State.endTask, State.watchPayment]
  | stored i =>
    simp only [State.stored] at hs
    grind [State.setStatus, State.endTask]
  | check => grind
  | enter i k =>
    simp only [State.enter] at hs
    grind [State.setCheck]
  | listed i result connected =>
    simp only [State.listed] at hs
    grind [State.setCheck]
  | checkStored i =>
    simp only [State.checkStored] at hs
    grind [State.setStatus, State.setCheck]
  | remove i =>
    simp only [State.remove] at hs
    split at hs
    · rename_i k hget
      obtain rfl := Option.some.inj hs
      exact .inr (.inr ⟨k, List.mem_of_getElem? hget, rfl, rfl⟩)
    · exact absurd hs (Option.some_ne_none s').symm
  | checkEnd i =>
    simp only [State.checkEnd] at hs
    grind

theorem removed_by_check {op : Op Hash} (hs : s.step op = some s')
    (hw : s.paymentsToWatch hash = true) (hw' : s'.paymentsToWatch hash = false) :
    Check.removing hash ∈ s.checks ∧ s'.rows = s.rows := by
  rcases watch_step hs with heq | ⟨k, heq⟩ | ⟨k, hmem, hrows, heq⟩
  · rw [heq, hw] at hw'
    exact Bool.noConfusion hw'
  · by_cases hk : hash = k
    · rw [heq, hk, Function.update_self] at hw'
      exact Bool.noConfusion hw'
    · rw [heq, Function.update_of_ne hk, hw] at hw'
      exact Bool.noConfusion hw'
  · by_cases hk : hash = k
    · subst hk
      exact ⟨hmem, hrows⟩
    · rw [heq, Function.update_of_ne hk, hw] at hw'
      exact Bool.noConfusion hw'

/-! ## Whole runs -/

/-- In every run of a process: a pending payment that it created or loaded is watched, or something
that is waited for will resolve it; and a payment that leaves the map is not pending. -/
theorem pending_payment_not_forgotten (rows : Hash → Option Payment) (ops : List (Op Hash))
    (s : State Hash)
    (hrun : runFrom State.step State.admits { rows } ops = some s) (hash : Hash) :
    (s.owned hash = true → s.isPending hash = true → s.Held hash) ∧
    (∀ op s', s.admits op = true → s.step op = some s' → s.paymentsToWatch hash = true →
      s'.paymentsToWatch hash = false → s.isPending hash = false ∧ s'.isPending hash = false) := by
  have hinit : State.Inv ({ rows } : State Hash) :=
    ⟨fun _ hown => absurd hown Bool.false_ne_true, fun _ hmem => absurd hmem List.not_mem_nil⟩
  have hinv : s.Inv := invariant_of_runFrom State.inv_step hinit hrun
  refine ⟨hinv.held hash, fun op s' _ hs hw hw' => ?_⟩
  obtain ⟨hmem, hrows⟩ := removed_by_check hs hw hw'
  have hdone := hinv.removing hash hmem
  refine ⟨hdone, ?_⟩
  unfold State.isPending at hdone ⊢
  rw [hrows, hdone]

end Holders

/-! ## Runs of one payment -/

def onePending (_ : Unit) : Option Payment := some { status := .pending }

/-- A check that finds the connection dropped. -/
def droppedCheck : List (Op Unit) :=
  [.load (), .check, .enter 0 (), .listed 0 (.failed "Connection dropped") true, .remove 0]

/-- A check that finds no pays. -/
def emptyCheck : List (Op Unit) :=
  [.load (), .check, .enter 0 (), .listed 0 .noPays true]

/-- A payment fails for good when the node is not connected any more. -/
def failsDisconnected : List (Op Unit) :=
  [.create (), .sent 0 .timeout,
    .settled 0 (some "WIRE_INCORRECT_OR_UNKNOWN_PAYMENT_DETAILS") false]

/-- Nobody waits for the payment of the first and the last run any more, and in the second one it
is taken from the map while it is pending. -/
theorem pending_payment_forgotten :
    (∃ s, runFrom State.step (fun _ _ => true) { rows := onePending } droppedCheck = some s ∧
      s.owned () = true ∧ s.isPending () = true ∧ s.paymentsToWatch () = false ∧
      s.tasks = [] ∧ s.checks = [.next]) ∧
    ((runFrom State.step (fun _ _ => true) { rows := onePending } emptyCheck).bind fun s =>
      (s.step (.remove 0)).map fun s' =>
        (s.paymentsToWatch (), s'.paymentsToWatch (), s'.isPending ())) =
          some (true, false, true) ∧
    ∃ s, runFrom State.step (fun _ _ => true) { rows := fun _ => none } failsDisconnected =
        some s ∧
      s.owned () = true ∧ s.isPending () = true ∧ s.paymentsToWatch () = false ∧
      s.tasks = [] ∧ s.checks = [] :=
  ⟨⟨_, rfl, rfl, rfl, rfl, rfl, rfl⟩, by decide +kernel, ⟨_, rfl, rfl, rfl, rfl, rfl, rfl⟩⟩

/-- A payment that is loaded, found pending and then found paid. -/
def foundPaid : List (Op Unit) :=
  [.load (), .check, .enter 0 (), .listed 0 .pending true, .enter 0 (), .listed 0 .paid true,
    .checkStored 0]

theorem pending_payment_resolved :
    ∃ s, runFrom State.step State.admits { rows := onePending } foundPaid = some s ∧
      ∀ s', s.step (.remove 0) = some s' → s'.isPending () = false :=
  ⟨_, rfl, fun s' hs => ((pending_payment_not_forgotten onePending foundPaid _ rfl ()).2 (.remove 0)
    s' rfl hs rfl (by obtain rfl := Option.some.inj hs; rfl)).2⟩

end Boltz.ClnTracker

import Boltz.Db.Models
import Mathlib

/-!
# Payments of one invoice (`lib/lightning/PendingPaymentTracker.ts` and its node trackers)

All that the backend keeps about the payments of a payment hash: a row for each node that tried,
and in memory the attempt that holds the lock of the swaps, the promises and streams that the node
trackers wait for, the entry of the CLN tracker and the checks of that entry that are running. The
state of other payment hashes is apart from it. Every wait of the code ends a step.
-/

namespace Boltz.PaymentTracker

/-- A row of `lightningPayments` with the payment hash. -/
structure Payment where
  nodeId : Nat
  status : LightningPaymentStatus
  error : Option PaymentError := none
  retries : Nat := 1
  deriving DecidableEq, Repr

/-- A row for which no other payment may be started. -/
def Payment.isLive (p : Payment) : Bool := p.status == .pending || p.status == .success

/-- An attempt of `payInvoice`: it read the rows, it created the row of its node, or it waits for
`lightningClient.sendPayment`. -/
inductive Attempt where
  | loaded (nodeId : Nat) (payments : List Payment)
  | created (nodeId : Nat)
  | sending (nodeId : Nat)
  deriving DecidableEq, Repr

/-- A call of `checkPendingPayments` that is at the entry: it waits for `listPays`, or it stored
the answer and did not remove the entry yet. -/
inductive Check where
  | listing (nodeId : Nat)
  | removing (nodeId : Nat)
  deriving DecidableEq, Repr

structure State where
  isCln : Nat → Bool
  rows : List Payment := []
  attempt : Option Attempt := none
  /-- promises of `sendPayment` that `trackPayment` waits for -/
  promises : List Nat := []
  /-- streams of `watchPayment` of the LND tracker -/
  streams : List Nat := []
  /-- the entry of `paymentsToWatch` of the CLN tracker -/
  paymentToWatch : Option Nat := none
  checks : List Check := []
  /-- writes of failures for which a check does not wait -/
  failures : List Nat := []

namespace State

/-! ## Rows -/

def setStatus (s : State) (nodeId : Nat) (status : LightningPaymentStatus)
    (error : Option PaymentError) : State :=
  { s with rows := s.rows.map fun p => if p.nodeId = nodeId then { p with status, error } else p }

/-- `LightningPaymentRepository.create`, which throws when the row is not a temporary failure. -/
def create (s : State) (nodeId : Nat) : Option State :=
  match s.rows.find? (·.nodeId == nodeId) with
  | none => some { s with rows := s.rows ++ [{ nodeId, status := .pending }] }
  | some existing =>
    if existing.status ≠ .temporaryFailure then none
    else some { s with rows := s.rows.map fun p =>
      if p.nodeId = nodeId then { p with status := .pending, retries := p.retries + 1 } else p }

/-! ## Attempts -/

def existingRelevantAction (payments : List Payment) : Option Payment :=
  payments.find? fun p =>
    [LightningPaymentStatus.success, .pending, .permanentFailure].contains p.status

/-- `getRelevantNode`, with the lock of the swaps. A node that is not available anymore is replaced
by the preferred one. -/
def getRelevantNode (s : State) (preferredNode : Nat) (available : Bool) : State :=
  match s.attempt with
  | some _ => s
  | none =>
    let nodeId := match existingRelevantAction s.rows with
      | some p => if available then p.nodeId else preferredNode
      | none => preferredNode
    { s with attempt := some (.loaded nodeId s.rows) }

/-- `payInvoice` ends before it sends, for instance because the send is on hold. -/
def leave (s : State) : State :=
  match s.attempt with
  | some (.loaded _ _) => { s with attempt := none }
  | _ => s

/-- `sendPayment` up to the row that `sendPaymentWithNode` creates, with the rows that were read
before. -/
def sendPayment (s : State) (timedOut : Bool) : State :=
  match s.attempt with
  | some (.loaded nodeId payments) =>
    if (existingRelevantAction payments).isSome then { s with attempt := none }
    else if timedOut && payments.any fun p => p.status == .temporaryFailure then
      { s.setStatus nodeId .permanentFailure (some .paymentTimedOut) with attempt := none }
    else match s.create nodeId with
      | none => { s with attempt := none }
      | some s => { s with attempt := some (.created nodeId) }
  | _ => s

/-- `lightningClient.sendPayment` is called. -/
def callNode (s : State) : State :=
  match s.attempt with
  | some (.created nodeId) => { s with attempt := some (.sending nodeId) }
  | _ => s

/-- How the race of a payment with its timeout ends. -/
inductive Outcome where
  | paid
  | failed (permanent : Bool) (error : PaymentError)
  | timeout
  deriving DecidableEq, Repr

def failureStatus (permanent : Bool) : LightningPaymentStatus :=
  if permanent then .permanentFailure else .temporaryFailure

def failureError (permanent : Bool) (error : PaymentError) : Option PaymentError :=
  if permanent then some error else none

/-- The rest of `sendPaymentWithNode`. -/
def outcome (s : State) (r : Outcome) : State :=
  match s.attempt with
  | some (.sending nodeId) =>
    match r with
    | .paid => { s.setStatus nodeId .success none with attempt := none }
    | .timeout => { s with attempt := none, promises := s.promises ++ [nodeId] }
    | .failed permanent error =>
      if s.isCln nodeId && !permanent then
        { s with attempt := none, paymentToWatch := some nodeId }
      else
        { s.setStatus nodeId (failureStatus permanent) (failureError permanent error) with
          attempt := none }
  | _ => s

/-! ## Trackers -/

/-- What a tracker learns about a payment. A failure is not stored when the client is not
connected. -/
inductive Result where
  | paid
  | failed (permanent : Bool) (error : PaymentError) (connected : Bool)
  deriving DecidableEq, Repr

/-- `handleSucceededPayment` and `handleFailedPayment`. -/
def handle (s : State) (nodeId : Nat) : Result → State
  | .paid => s.setStatus nodeId .success none
  | .failed permanent error connected =>
    if connected then s.setStatus nodeId (failureStatus permanent) (failureError permanent error)
    else s

/-- A promise that `trackPayment` waits for is settled. -/
def promiseSettled (s : State) (nodeId : Nat) (r : Result) : State :=
  if nodeId ∈ s.promises then
    let s := { s with promises := s.promises.erase nodeId }
    match r with
    | .failed false _ _ =>
      if s.isCln nodeId then { s with paymentToWatch := some nodeId } else s.handle nodeId r
    | _ => s.handle nodeId r
  else s

/-- A stream of the LND tracker ends; `none` is an error of the stream. -/
def streamEnded (s : State) (nodeId : Nat) (r : Option Result) : State :=
  if nodeId ∈ s.streams then
    let s := { s with streams := s.streams.erase nodeId }
    match r with
    | some r => s.handle nodeId r
    | none => s
  else s

/-- `checkPendingPayments` gets to the entry and calls `listPays`. -/
def check (s : State) : State :=
  match s.paymentToWatch with
  | some nodeId => { s with checks := s.checks ++ [.listing nodeId] }
  | none => s

/-- `listPays` answers a check, which stores the result; `none` is a payment that is still
pending. -/
def checked (s : State) (nodeId : Nat) (r : Option Result) : State :=
  if .listing nodeId ∈ s.checks then
    match r with
    | some r =>
      { s.handle nodeId r with checks := s.checks.erase (.listing nodeId) ++ [.removing nodeId] }
    | none => { s with checks := s.checks.erase (.listing nodeId) }
  else s

/-- `paymentsToWatch.delete` of a check that stored the result. -/
def removed (s : State) (nodeId : Nat) : State :=
  if .removing nodeId ∈ s.checks then
    { s with checks := s.checks.erase (.removing nodeId), paymentToWatch := none }
  else s

/-- `listPays` answers a check without any pays: the entry is removed, and the failure is stored
aside. -/
def checkedNoPays (s : State) (nodeId : Nat) (connected : Bool) : State :=
  if .listing nodeId ∈ s.checks then
    { s with
      checks := s.checks.erase (.listing nodeId)
      paymentToWatch := none
      failures := if connected then s.failures ++ [nodeId] else s.failures }
  else s

def failureStored (s : State) (nodeId : Nat) : State :=
  if nodeId ∈ s.failures then
    { s.setStatus nodeId .temporaryFailure none with failures := s.failures.erase nodeId }
  else s

/-- A restart loses the memory, and `init` watches the pending rows of the nodes that are
available. -/
def restart (s : State) (available : Nat → Bool) : State :=
  let pending := (s.rows.filter fun p => p.status == .pending && available p.nodeId).map (·.nodeId)
  { isCln := s.isCln
    rows := s.rows
    streams := pending.filter fun nodeId => !s.isCln nodeId
    paymentToWatch := (pending.filter s.isCln).getLast? }

inductive Op where
  | getRelevantNode (preferredNode : Nat) (available : Bool)
  | leave
  | sendPayment (timedOut : Bool)
  | callNode
  | outcome (r : Outcome)
  | promiseSettled (nodeId : Nat) (r : Result)
  | streamEnded (nodeId : Nat) (r : Option Result)
  | check
  | checked (nodeId : Nat) (r : Option Result)
  | removed (nodeId : Nat)
  | checkedNoPays (nodeId : Nat) (connected : Bool)
  | failureStored (nodeId : Nat)
  | restart (available : Nat → Bool)

def step (s : State) : Op → State
  | .getRelevantNode preferredNode available => s.getRelevantNode preferredNode available
  | .leave => s.leave
  | .sendPayment timedOut => s.sendPayment timedOut
  | .callNode => s.callNode
  | .outcome r => s.outcome r
  | .promiseSettled nodeId r => s.promiseSettled nodeId r
  | .streamEnded nodeId r => s.streamEnded nodeId r
  | .check => s.check
  | .checked nodeId r => s.checked nodeId r
  | .removed nodeId => s.removed nodeId
  | .checkedNoPays nodeId connected => s.checkedNoPays nodeId connected
  | .failureStored nodeId => s.failureStored nodeId
  | .restart available => s.restart available

/-- Runs whose steps are admitted. -/
inductive Reaches (admits : State → Op → Prop) (s₀ : State) : State → Prop where
  | refl : Reaches admits s₀ s₀
  | step {s : State} (h : Reaches admits s₀ s) (op : Op) (hop : admits s op) :
      Reaches admits s₀ (s.step op)

/-- A check of the entry starts only when no other check is at it. -/
def NoOverlap (s : State) (op : Op) : Prop := op = .check → s.checks = []

/-! ## Invariant -/

/-- The status of the row of a node. -/
def statusOf (s : State) (nodeId : Nat) : Option LightningPaymentStatus :=
  (s.rows.find? (·.nodeId == nodeId)).map (·.status)

def LiveAt (s : State) (nodeId : Nat) : Prop :=
  s.statusOf nodeId = some .pending ∨ s.statusOf nodeId = some .success

/-- Who learns the result of a payment that is pending. -/
inductive Holder where
  | attempt | promise | stream | watch | failure
  deriving DecidableEq

/-- No check waits for an answer. -/
def Idle (checks : List Check) : Prop := checks = [] ∨ ∃ n, checks = [.removing n]

def Holds (s : State) : Holder → Nat → Prop
  | .attempt, nodeId => s.attempt = some (.created nodeId) ∨ s.attempt = some (.sending nodeId)
  | .promise, nodeId => nodeId ∈ s.promises
  | .stream, nodeId => nodeId ∈ s.streams
  -- an entry that is about to be removed holds nothing
  | .watch, nodeId => s.paymentToWatch = some nodeId ∧ ∀ n, .removing n ∉ s.checks
  | .failure, nodeId => nodeId ∈ s.failures

/-- There is one holder for the row that is pending, and no row becomes live without it. -/
structure Inv (s : State) : Prop where
  keys : (s.rows.map (·.nodeId)).Nodup
  live : ∀ m n, s.LiveAt m → s.LiveAt n → m = n
  pending : ∀ k n, s.Holds k n → s.statusOf n = some .pending
  holder : ∀ k k' m n, s.Holds k m → s.Holds k' n → k = k'
  promises : s.promises.Nodup
  streams : s.streams.Nodup
  failures : s.failures.Nodup
  checks : Idle s.checks ∨ ∃ n, s.checks = [.listing n] ∧ s.paymentToWatch = some n
  loaded : ∀ n payments, s.attempt = some (.loaded n payments) →
    payments.any Payment.isLive = false → ∀ m, ¬ s.LiveAt m

section Rows

variable {s : State} {m n : Nat}

theorem statusOf_setStatus (status : LightningPaymentStatus) (error : Option PaymentError) :
    (s.setStatus n status error).statusOf m =
      if m = n then (s.statusOf m).map fun _ => status else s.statusOf m := by
  have hkey : ((fun p : Payment => p.nodeId == m) ∘
      fun p => if p.nodeId = n then { p with status, error } else p) = fun p => p.nodeId == m := by
    funext p
    simp only [Function.comp_apply]
    split <;> rfl
  rw [statusOf, setStatus, List.find?_map, hkey, statusOf]
  cases hp : s.rows.find? (·.nodeId == m) with
  | none => simp
  | some p =>
    have hm : p.nodeId = m := by simpa using List.find?_some hp
    by_cases hmn : m = n
    · simp [hm, hmn]
    · simp [hm, hmn]

theorem map_nodeId_setStatus (status : LightningPaymentStatus) (error : Option PaymentError) :
    (s.setStatus n status error).rows.map (·.nodeId) = s.rows.map (·.nodeId) := by
  rw [setStatus, List.map_map]
  apply List.map_congr_left
  intro p _
  simp only [Function.comp_apply]
  split <;> rfl

theorem statusOf_of_mem (hkeys : (s.rows.map (·.nodeId)).Nodup) {p : Payment} (hp : p ∈ s.rows) :
    s.statusOf p.nodeId = some p.status := by
  rw [statusOf]
  cases hfind : s.rows.find? (·.nodeId == p.nodeId) with
  | none =>
    have := List.find?_eq_none.mp hfind p hp
    simp at this
  | some q =>
    have hq : q.nodeId = p.nodeId := by simpa using List.find?_some hfind
    rw [List.inj_on_of_nodup_map hkeys (List.mem_of_find?_eq_some hfind) hp hq]
    rfl

theorem liveAt_of_mem (hkeys : (s.rows.map (·.nodeId)).Nodup) {p : Payment} (hp : p ∈ s.rows)
    (hlive : p.isLive = true) : s.LiveAt p.nodeId := by
  have hstatus := statusOf_of_mem hkeys hp
  unfold Payment.isLive at hlive
  rw [Bool.or_eq_true, beq_iff_eq, beq_iff_eq] at hlive
  rcases hlive with hlive | hlive
  · exact .inl (by rw [hstatus, hlive])
  · exact .inr (by rw [hstatus, hlive])

theorem LiveAt.exists_mem (h : s.LiveAt n) : ∃ p ∈ s.rows, p.isLive = true := by
  unfold LiveAt statusOf at h
  cases hfind : s.rows.find? (·.nodeId == n) with
  | none => simp [hfind] at h
  | some p =>
    refine ⟨p, List.mem_of_find?_eq_some hfind, ?_⟩
    simpa [hfind, Payment.isLive] using h

/-- At most one row is live. -/
theorem Inv.length_live_le (h : Inv s) : (s.rows.filter Payment.isLive).length ≤ 1 := by
  have hall : ∀ p ∈ s.rows.filter Payment.isLive, ∀ q ∈ s.rows.filter Payment.isLive,
      p.nodeId = q.nodeId := by
    intro p hp q hq
    rw [List.mem_filter] at hp hq
    exact h.live _ _ (liveAt_of_mem h.keys hp.1 hp.2) (liveAt_of_mem h.keys hq.1 hq.2)
  have hnodup : ((s.rows.filter Payment.isLive).map (·.nodeId)).Nodup :=
    h.keys.sublist (List.Sublist.map _ List.filter_sublist)
  match hrows : s.rows.filter Payment.isLive with
  | [] => exact Nat.zero_le 1
  | [p] => exact Nat.le_refl 1
  | p :: q :: rest =>
    rw [hrows] at hall hnodup
    have heq : p.nodeId = q.nodeId := hall p (by simp) q (by simp)
    simp [heq] at hnodup

end Rows

/-! ## Steps -/

section Steps

variable {s s' : State} {k : Holder} {n : Nat}

theorem LiveAt.of_rows (hrows : s'.rows = s.rows) {m : Nat} : s'.LiveAt m ↔ s.LiveAt m := by
  unfold LiveAt statusOf
  rw [hrows]

theorem Inv.liveAt (h : Inv s) (hk : s.Holds k n) : s.LiveAt n := .inl (h.pending k n hk)

/-- Without a live row nobody waits for a result. -/
theorem Inv.not_holds (h : Inv s) (hnone : ∀ m, ¬ s.LiveAt m) (k : Holder) (n : Nat) :
    ¬ s.Holds k n := fun hk => hnone n (h.liveAt hk)

theorem holds_watch_of_listing (hchecks : s.checks = [.listing n])
    (hwatch : s.paymentToWatch = some n) : s.Holds .watch n := ⟨hwatch, by simp [hchecks]⟩

theorem Inv.idle (h : Inv s) (hk : s.Holds k n) (hne : k ≠ .watch) : Idle s.checks := by
  rcases h.checks with hidle | ⟨m, hchecks, hwatch⟩
  · exact hidle
  · exact absurd (h.holder k .watch n m hk (holds_watch_of_listing hchecks hwatch)) hne

theorem Inv.idle_of_not_live (h : Inv s) (hnone : ∀ m, ¬ s.LiveAt m) : Idle s.checks := by
  rcases h.checks with hidle | ⟨m, hchecks, hwatch⟩
  · exact hidle
  · exact absurd (holds_watch_of_listing hchecks hwatch) (h.not_holds hnone .watch m)

/-- The attempt changes, the rows and the trackers do not. -/
theorem Inv.withAttempt (h : Inv s) (a : Option Attempt)
    (hholds : ∀ n, { s with attempt := a }.Holds .attempt n → s.Holds .attempt n)
    (hloaded : ∀ n payments, a = some (.loaded n payments) →
      payments.any Payment.isLive = false → ∀ m, ¬ s.LiveAt m) :
    Inv { s with attempt := a } := by
  have hsame : ∀ k n, { s with attempt := a }.Holds k n → s.Holds k n := by
    intro k n hk
    cases k with
    | attempt => exact hholds n hk
    | promise | stream | watch | failure => exact hk
  exact ⟨h.keys, h.live, fun k n hk => h.pending k n (hsame k n hk),
    fun k k' m n hk hk' => h.holder k k' m n (hsame k m hk) (hsame k' n hk'), h.promises,
    h.streams, h.failures, h.checks, hloaded⟩

/-- The result of a payment is passed on to another holder. -/
theorem Inv.move (h : Inv s) (k' : Holder) (hk : s.Holds k n) (hrows : s'.rows = s.rows)
    (hholds : ∀ k₁ m, s'.Holds k₁ m → k₁ ≠ k ∧ s.Holds k₁ m ∨ k₁ = k' ∧ m = n)
    (hpromises : s'.promises.Nodup)
    (hstreams : s'.streams.Nodup) (hfailures : s'.failures.Nodup) (hidle : Idle s'.checks)
    (hattempt : ∀ a, s'.attempt = some a → s.attempt = some a) : Inv s' := by
  have hlive : ∀ m, s'.LiveAt m ↔ s.LiveAt m := fun m => LiveAt.of_rows hrows
  have hholds : ∀ k₁ m, s'.Holds k₁ m → k₁ = k' ∧ m = n := by
    intro k₁ m hm
    rcases hholds k₁ m hm with ⟨hne, hm'⟩ | heq
    · exact absurd (h.holder k₁ k m n hm' hk) hne
    · exact heq
  have hstatus : ∀ m, s'.statusOf m = s.statusOf m := by
    intro m
    rw [statusOf, hrows, statusOf]
  refine ⟨by rw [hrows]; exact h.keys, fun m n hm hn => ?_, fun k₁ m hk₁ => ?_,
    fun k₁ k₂ m n hm hn => ?_, hpromises, hstreams, hfailures, .inl hidle,
    fun m payments ha hnone => ?_⟩
  · exact h.live m n ((hlive m).mp hm) ((hlive n).mp hn)
  · rw [hstatus, (hholds k₁ m hk₁).2]
    exact h.pending k n hk
  · rw [(hholds k₁ m hm).1, (hholds k₂ n hn).1]
  · exact absurd (h.liveAt hk) (h.loaded m payments (hattempt _ ha) hnone n)

/-- The result of a payment is stored, or lost, and nobody waits for it anymore. -/
theorem Inv.settle (h : Inv s) (hk : s.Holds k n)
    (hrows : s'.rows = s.rows ∨
      ∃ status error, s'.rows = (s.setStatus n status error).rows)
    (hholds : ∀ k₁ m, s'.Holds k₁ m → k₁ ≠ k ∧ s.Holds k₁ m) (hidle : Idle s'.checks)
    (hattempt : ∀ a, s'.attempt = some a → s.attempt = some a) : Inv s' := by
  have hnone : ∀ k₁ m, ¬ s'.Holds k₁ m := fun k₁ m hm =>
    (hholds k₁ m hm).1 (h.holder k₁ k m n (hholds k₁ m hm).2 hk)
  have hlive : ∀ m, s'.LiveAt m → s.LiveAt m := by
    intro m hm
    by_cases hmn : m = n
    · exact hmn ▸ h.liveAt hk
    · rcases hrows with hrows | ⟨status, error, hrows⟩
      · exact (LiveAt.of_rows hrows).mp hm
      · have hm' : (s.setStatus n status error).LiveAt m := (LiveAt.of_rows hrows).mp hm
        unfold LiveAt at hm'
        rw [statusOf_setStatus, if_neg hmn] at hm'
        exact hm'
  have hkeys : (s'.rows.map (·.nodeId)).Nodup := by
    rcases hrows with hrows | ⟨status, error, hrows⟩
    · rw [hrows]
      exact h.keys
    · rw [hrows, map_nodeId_setStatus]
      exact h.keys
  have hpromises : s'.promises = [] := List.eq_nil_iff_forall_not_mem.mpr fun m => hnone .promise m
  have hstreams : s'.streams = [] := List.eq_nil_iff_forall_not_mem.mpr fun m => hnone .stream m
  have hfailures : s'.failures = [] :=
    List.eq_nil_iff_forall_not_mem.mpr fun m => hnone .failure m
  refine ⟨hkeys, fun m n hm hn => h.live m n (hlive m hm) (hlive n hn),
    fun k₁ m hk₁ => absurd hk₁ (hnone k₁ m), fun k₁ _ m _ hm _ => absurd hm (hnone k₁ m),
    by simp [hpromises], by simp [hstreams], by simp [hfailures], .inl hidle,
    fun m payments ha hnone' => ?_⟩
  exact absurd (h.liveAt hk) (h.loaded m payments (hattempt _ ha) hnone' n)

theorem inv_getRelevantNode (h : Inv s) (preferredNode : Nat) (available : Bool) :
    Inv (s.getRelevantNode preferredNode available) := by
  unfold getRelevantNode
  split
  · exact h
  · refine h.withAttempt _ (fun n hn => ?_) fun n payments ha hnone m hm => ?_
    · rcases hn with hn | hn <;> cases hn
    · cases ha
      obtain ⟨p, hp, hlive⟩ := hm.exists_mem
      exact absurd hlive (by simpa using List.any_eq_false.mp hnone p hp)

theorem inv_leave (h : Inv s) : Inv s.leave := by
  unfold leave
  split
  · refine h.withAttempt none (fun n hn => ?_) fun _ _ ha => ?_
    · rcases hn with hn | hn <;> cases hn
    · cases ha
  · exact h

theorem inv_callNode (h : Inv s) : Inv s.callNode := by
  unfold callNode
  split
  · rename_i nodeId hattempt
    refine h.withAttempt _ (fun n hn => ?_) fun _ _ ha => ?_
    · rcases hn with hn | hn
      · cases hn
      · cases hn
        exact .inl hattempt
    · cases ha
  · exact h

theorem not_live_of_existingRelevantAction {payments : List Payment}
    (h : (existingRelevantAction payments).isSome = false) : payments.any Payment.isLive = false := by
  rw [List.any_eq_false]
  intro p hp hlive
  have hnone : existingRelevantAction payments = none := by simpa using h
  have := List.find?_eq_none.mp hnone p hp
  unfold Payment.isLive at hlive
  rw [Bool.or_eq_true, beq_iff_eq, beq_iff_eq] at hlive
  rcases hlive with hlive | hlive <;> simp [hlive] at this

/-- A state without live rows in which nobody waits. -/
theorem inv_of_not_live (hkeys : (s.rows.map (·.nodeId)).Nodup) (hnone : ∀ m, ¬ s.LiveAt m)
    (hholds : ∀ k m, ¬ s.Holds k m) (hidle : Idle s.checks) : Inv s := by
  have hpromises : s.promises = [] := List.eq_nil_iff_forall_not_mem.mpr fun m => hholds .promise m
  have hstreams : s.streams = [] := List.eq_nil_iff_forall_not_mem.mpr fun m => hholds .stream m
  have hfailures : s.failures = [] :=
    List.eq_nil_iff_forall_not_mem.mpr fun m => hholds .failure m
  exact ⟨hkeys, fun m _ hm _ => absurd hm (hnone m), fun k m hk => absurd hk (hholds k m),
    fun k _ m _ hk _ => absurd hk (hholds k m), by simp [hpromises], by simp [hstreams],
    by simp [hfailures], .inl hidle, fun _ _ _ _ => hnone⟩

/-- What `create` does to the rows when the row of the node is not live. -/
theorem create_eq_some (h : s.create n = some s') :
    s' = { s with rows := s'.rows } ∧
      ((s'.rows.map (·.nodeId) = s.rows.map (·.nodeId) ++ [n] ∧ n ∉ s.rows.map (·.nodeId)) ∨
        s'.rows.map (·.nodeId) = s.rows.map (·.nodeId)) ∧
      ∀ m, s'.statusOf m = if m = n then some .pending else s.statusOf m := by
  unfold create at h
  split at h
  · rename_i hfind
    cases h
    refine ⟨rfl, .inl ⟨by simp, ?_⟩, fun m => ?_⟩
    · rw [List.mem_map]
      rintro ⟨p, hp, hpn⟩
      have := List.find?_eq_none.mp hfind p hp
      simp [hpn] at this
    · unfold statusOf
      rw [List.find?_append]
      by_cases hmn : m = n
      · subst hmn
        simp [hfind]
      · have hne : (n == m) = false := by simpa using Ne.symm hmn
        simp [hmn, hne]
  · rename_i existing hfind
    split at h
    · cases h
    cases h
    refine ⟨rfl, .inr ?_, fun m => ?_⟩
    · rw [List.map_map]
      apply List.map_congr_left
      intro p _
      simp only [Function.comp_apply]
      split <;> rfl
    · have hkey : ((fun p : Payment => p.nodeId == m) ∘ fun p =>
          if p.nodeId = n then { p with status := .pending, retries := p.retries + 1 } else p) =
          fun p => p.nodeId == m := by
        funext p
        simp only [Function.comp_apply]
        split <;> rfl
      unfold statusOf
      rw [List.find?_map, hkey]
      by_cases hmn : m = n
      · subst hmn
        have hm : existing.nodeId = m := by simpa using List.find?_some hfind
        simp [hfind, hm]
      · cases hp : s.rows.find? (·.nodeId == m) with
        | none => simp [hmn]
        | some p =>
          have hm : p.nodeId = m := by simpa using List.find?_some hp
          simp [hm, hmn]

/-- The attempt created its row while no row was live. -/
theorem inv_created (h : Inv s) (hlive : ∀ m, ¬ s.LiveAt m) {s₁ : State} {nodeId : Nat}
    (hcreate : s.create nodeId = some s₁) : Inv { s₁ with attempt := some (.created nodeId) } := by
  obtain ⟨hs₁, hkeys, hstatus⟩ := create_eq_some hcreate
  have hlive₁ : ∀ m, s₁.LiveAt m → m = nodeId := by
    intro m hm
    by_contra hmn
    unfold LiveAt at hm
    rw [hstatus, if_neg hmn] at hm
    exact hlive m hm
  have hholds : ∀ k m, { s₁ with attempt := some (.created nodeId) }.Holds k m →
      k = .attempt ∧ m = nodeId := by
    intro k m hk
    rw [hs₁] at hk
    cases k with
    | attempt =>
      rcases hk with hk | hk <;> cases hk
      exact ⟨rfl, rfl⟩
    | promise => exact absurd hk (h.not_holds hlive .promise m)
    | stream => exact absurd hk (h.not_holds hlive .stream m)
    | watch => exact absurd hk (h.not_holds hlive .watch m)
    | failure => exact absurd hk (h.not_holds hlive .failure m)
  refine ⟨?_, fun m m' hm hm' => ?_, fun k m hk => ?_, fun k k' m m' hk hk' => ?_, ?_, ?_, ?_,
    .inl ?_, fun _ _ ha => ?_⟩
  · rcases hkeys with ⟨hkeys, hnew⟩ | hkeys
    · show (s₁.rows.map (·.nodeId)).Nodup
      rw [hkeys, List.nodup_append]
      refine ⟨h.keys, by simp, fun a ha b hb => ?_⟩
      rw [List.mem_singleton] at hb
      subst hb
      exact fun hab => hnew (hab ▸ ha)
    · show (s₁.rows.map (·.nodeId)).Nodup
      rw [hkeys]
      exact h.keys
  · rw [hlive₁ m hm, hlive₁ m' hm']
  · rw [(hholds k m hk).2]
    exact (hstatus nodeId).trans (if_pos rfl)
  · rw [(hholds k m hk).1, (hholds k' m' hk').1]
  · rw [hs₁]
    exact h.promises
  · rw [hs₁]
    exact h.streams
  · rw [hs₁]
    exact h.failures
  · rw [hs₁]
    exact h.idle_of_not_live hlive
  · cases ha

theorem inv_sendPayment (h : Inv s) (timedOut : Bool) : Inv (s.sendPayment timedOut) := by
  have hnone : Inv { s with attempt := none } :=
    h.withAttempt none (fun n hn => by rcases hn with hn | hn <;> cases hn) fun _ _ ha => by cases ha
  unfold sendPayment
  split
  · rename_i nodeId payments hattempt
    split
    · exact hnone
    · rename_i hrelevant
      have hlive := h.loaded nodeId payments hattempt
        (not_live_of_existingRelevantAction (Bool.eq_false_iff.mpr hrelevant))
      split
      · refine inv_of_not_live ?_ (fun m hm => ?_) (fun k m hk => ?_) (h.idle_of_not_live hlive)
        · rw [show _ = _ from map_nodeId_setStatus .permanentFailure (some .paymentTimedOut)]
          exact h.keys
        · have hm' : (s.setStatus nodeId .permanentFailure (some .paymentTimedOut)).LiveAt m := hm
          unfold LiveAt at hm'
          rw [statusOf_setStatus] at hm'
          split at hm'
          · rcases hm' with hm' | hm' <;> simp at hm'
          · exact hlive m hm'
        · cases k with
          | attempt => rcases hk with hk | hk <;> cases hk
          | promise => exact h.not_holds hlive .promise m hk
          | stream => exact h.not_holds hlive .stream m hk
          | watch => exact h.not_holds hlive .watch m hk
          | failure => exact h.not_holds hlive .failure m hk
      · split
        · exact hnone
        · rename_i s₁ hcreate
          exact inv_created h hlive hcreate
  · exact h

theorem Inv.nodup_singleton (h : Inv s) (hk : s.Holds k n) (hne : k ≠ .promise) (m : Nat) :
    (s.promises ++ [m]).Nodup := by
  have hnil : s.promises = [] := List.eq_nil_iff_forall_not_mem.mpr fun m' hm' =>
    hne (h.holder k .promise n m' hk hm')
  simp [hnil]

theorem inv_outcome (h : Inv s) (r : Outcome) : Inv (s.outcome r) := by
  unfold outcome
  split
  · rename_i nodeId hattempt
    have hk : s.Holds .attempt nodeId := .inr hattempt
    have hidle : Idle s.checks := h.idle hk (by decide)
    split
    · refine h.settle hk (.inr ⟨_, _, rfl⟩) (fun k m hm => ?_) hidle fun _ ha => by cases ha
      cases k with
      | attempt => rcases hm with hm | hm <;> cases hm
      | promise | stream | watch | failure => exact ⟨by decide, hm⟩
    · refine h.move .promise hk rfl (fun k m hm => ?_)
        (h.nodup_singleton hk (by decide) nodeId) h.streams h.failures hidle
        fun _ ha => by cases ha
      cases k with
      | attempt => rcases hm with hm | hm <;> cases hm
      | promise =>
        rcases List.mem_append.mp hm with hm | hm
        · exact .inl ⟨by decide, hm⟩
        · exact .inr ⟨rfl, List.mem_singleton.mp hm⟩
      | stream | watch | failure => exact .inl ⟨by decide, hm⟩
    · split
      · refine h.move .watch hk rfl (fun k m hm => ?_) h.promises h.streams h.failures hidle
          fun _ ha => by cases ha
        cases k with
        | attempt => rcases hm with hm | hm <;> cases hm
        | promise | stream | failure => exact .inl ⟨by decide, hm⟩
        | watch => exact .inr ⟨rfl, (Option.some.inj hm.1).symm⟩
      · refine h.settle hk (.inr ⟨_, _, rfl⟩) (fun k m hm => ?_) hidle fun _ ha => by cases ha
        cases k with
        | attempt => rcases hm with hm | hm <;> cases hm
        | promise | stream | watch | failure => exact ⟨by decide, hm⟩
  · exact h

/-- What a tracker stores leaves everything but the rows as it is. -/
theorem handle_eq (r : Result) :
    s.handle n r = { s with rows := (s.handle n r).rows } ∧
      ((s.handle n r).rows = s.rows ∨
        ∃ status error, (s.handle n r).rows = (s.setStatus n status error).rows) := by
  cases r with
  | paid => exact ⟨rfl, .inr ⟨_, _, rfl⟩⟩
  | failed permanent error connected =>
    cases connected with
    | true => exact ⟨rfl, .inr ⟨_, _, rfl⟩⟩
    | false => exact ⟨rfl, .inl rfl⟩

theorem Inv.handled (h : Inv s) (hk : s.Holds k n) (s₁ : State) (hs₁ : s₁.rows = s.rows)
    (r : Result) (hholds : ∀ k₁ m, s₁.Holds k₁ m → k₁ ≠ k ∧ s.Holds k₁ m) (hidle : Idle s₁.checks)
    (hattempt : ∀ a, s₁.attempt = some a → s.attempt = some a) : Inv (s₁.handle n r) := by
  obtain ⟨heq, hrows⟩ := handle_eq (s := s₁) (n := n) r
  have hsame : ∀ k₁ m, (s₁.handle n r).Holds k₁ m → s₁.Holds k₁ m := by
    intro k₁ m hm
    rw [heq] at hm
    cases k₁ with
    | attempt | promise | stream | watch | failure => exact hm
  have hidle' : Idle (s₁.handle n r).checks := by
    rw [heq]
    exact hidle
  have hattempt' : ∀ a, (s₁.handle n r).attempt = some a → s.attempt = some a := by
    intro a ha
    rw [heq] at ha
    exact hattempt a ha
  refine h.settle hk ?_ (fun k₁ m hm => hholds k₁ m (hsame k₁ m hm)) hidle' hattempt'
  rcases hrows with hrows | ⟨status, error, hrows⟩
  · exact .inl (hrows.trans hs₁)
  · refine .inr ⟨status, error, hrows.trans ?_⟩
    rw [setStatus, hs₁]
    rfl

theorem inv_promiseSettled (h : Inv s) (nodeId : Nat) (r : Result) :
    Inv (s.promiseSettled nodeId r) := by
  unfold promiseSettled
  split
  · rename_i hmem
    have hk : s.Holds .promise nodeId := hmem
    have hidle : Idle s.checks := h.idle hk (by decide)
    -- The promise was the only one, so the list is empty without it.
    have hnil : s.promises.erase nodeId = [] := by
      rw [List.eq_nil_iff_forall_not_mem]
      intro m hm
      have hm' := (h.promises.mem_erase_iff).mp hm
      exact hm'.1 (h.live m nodeId (h.liveAt (k := .promise) hm'.2) (h.liveAt hk))
    have hhandled : Inv ({ s with promises := s.promises.erase nodeId }.handle nodeId r) := by
      refine h.handled hk { s with promises := s.promises.erase nodeId } rfl r (fun k m hm => ?_)
        hidle fun _ ha => ha
      cases k with
      | attempt | stream | watch | failure => exact ⟨by decide, hm⟩
      | promise =>
        have hm' : m ∈ s.promises.erase nodeId := hm
        rw [hnil] at hm'
        cases hm'
    dsimp only
    split
    · split
      · refine h.move .watch hk rfl (fun k m hm => ?_) (h.promises.erase nodeId) h.streams
          h.failures hidle fun _ ha => ha
        cases k with
        | attempt | stream | failure => exact .inl ⟨by decide, hm⟩
        | promise =>
          have hm' : m ∈ s.promises.erase nodeId := hm
          rw [hnil] at hm'
          cases hm'
        | watch => exact .inr ⟨rfl, (Option.some.inj hm.1).symm⟩
      · exact hhandled
    · exact hhandled
  · exact h

theorem inv_streamEnded (h : Inv s) (nodeId : Nat) (r : Option Result) :
    Inv (s.streamEnded nodeId r) := by
  unfold streamEnded
  split
  · rename_i hmem
    have hk : s.Holds .stream nodeId := hmem
    have hidle : Idle s.checks := h.idle hk (by decide)
    have hnil : s.streams.erase nodeId = [] := by
      rw [List.eq_nil_iff_forall_not_mem]
      intro m hm
      have hm' := (h.streams.mem_erase_iff).mp hm
      exact hm'.1 (h.live m nodeId (h.liveAt (k := .stream) hm'.2) (h.liveAt hk))
    have hholds : ∀ k m, { s with streams := s.streams.erase nodeId }.Holds k m →
        k ≠ .stream ∧ s.Holds k m := by
      intro k m hm
      cases k with
      | attempt | promise | watch | failure => exact ⟨by decide, hm⟩
      | stream =>
        have hm' : m ∈ s.streams.erase nodeId := hm
        rw [hnil] at hm'
        cases hm'
    dsimp only
    split
    · exact h.handled hk { s with streams := s.streams.erase nodeId } rfl _ hholds hidle
        fun _ ha => ha
    · exact h.settle hk (.inl rfl) hholds hidle fun _ ha => ha
  · exact h

/-- The checks and the entry change, and no entry is there that was not. -/
theorem Inv.withChecks (h : Inv s) (checks : List Check) (watch : Option Nat)
    (hwatch : ∀ n, { s with checks, paymentToWatch := watch }.Holds .watch n → s.Holds .watch n)
    (hchecks : Idle checks ∨ ∃ n, checks = [.listing n] ∧ watch = some n) :
    Inv { s with checks, paymentToWatch := watch } := by
  have hsame : ∀ k n, { s with checks, paymentToWatch := watch }.Holds k n → s.Holds k n := by
    intro k n hk
    cases k with
    | watch => exact hwatch n hk
    | attempt | promise | stream | failure => exact hk
  exact ⟨h.keys, h.live, fun k n hk => h.pending k n (hsame k n hk),
    fun k k' m n hk hk' => h.holder k k' m n (hsame k m hk) (hsame k' n hk'), h.promises,
    h.streams, h.failures, hchecks, h.loaded⟩

theorem inv_check (h : Inv s) (hchecks : s.checks = []) : Inv s.check := by
  unfold check
  split
  · rename_i nodeId hwatch
    have hlisting : s.checks ++ [.listing nodeId] = [.listing nodeId] := by simp [hchecks]
    rw [hlisting]
    refine h.withChecks [.listing nodeId] s.paymentToWatch (fun n hn => ?_)
      (.inr ⟨nodeId, rfl, hwatch⟩)
    exact ⟨hn.1, by simp [hchecks]⟩
  · exact h

/-- A check that waits for its answer is the only one, and its entry is watched. -/
theorem Inv.eq_of_listing (h : Inv s) (hmem : .listing n ∈ s.checks) :
    s.checks = [.listing n] ∧ s.Holds .watch n := by
  rcases h.checks with (hnil | ⟨m, hremoving⟩) | ⟨m, hlisting, hwatch⟩
  · simp [hnil] at hmem
  · simp [hremoving] at hmem
  · have hmn : n = m := by simpa [hlisting] using hmem
    subst hmn
    exact ⟨hlisting, holds_watch_of_listing hlisting hwatch⟩

theorem inv_checked (h : Inv s) (nodeId : Nat) (r : Option Result) :
    Inv (s.checked nodeId r) := by
  unfold checked
  split
  · rename_i hmem
    obtain ⟨hlisting, hk⟩ := h.eq_of_listing hmem
    have hnil : s.checks.erase (.listing nodeId) = [] := by simp [hlisting]
    dsimp only
    rw [hnil]
    split
    · rename_i r
      have hhandled : Inv ({ s with checks := [.removing nodeId] }.handle nodeId r) := by
        refine h.handled hk { s with checks := [.removing nodeId] } rfl r (fun k m hm => ?_)
          (.inr ⟨nodeId, rfl⟩) fun _ ha => ha
        cases k with
        | attempt | promise | stream | failure => exact ⟨by decide, hm⟩
        | watch => exact absurd (List.mem_singleton_self _) (hm.2 nodeId)
      have heq : { s.handle nodeId r with checks := [] ++ [.removing nodeId] } =
          { s with checks := [.removing nodeId] }.handle nodeId r := by
        cases r with
        | paid => rfl
        | failed permanent error connected => cases connected <;> rfl
      rw [heq]
      exact hhandled
    · refine h.withChecks [] s.paymentToWatch (fun n hn => ?_) (.inl (.inl rfl))
      exact ⟨hn.1, by simp [hlisting]⟩
  · exact h

theorem inv_removed (h : Inv s) (nodeId : Nat) : Inv (s.removed nodeId) := by
  unfold removed
  split
  · rename_i hmem
    have hnil : s.checks.erase (.removing nodeId) = [] := by
      rcases h.checks with (hnil | ⟨m, hremoving⟩) | ⟨m, hlisting, -⟩
      · simp [hnil]
      · have hm : nodeId = m := by simpa [hremoving] using hmem
        simp [hremoving, hm]
      · simp [hlisting] at hmem
    rw [hnil]
    exact h.withChecks [] none (fun n hn => by cases hn.1) (.inl (.inl rfl))
  · exact h

theorem inv_checkedNoPays (h : Inv s) (nodeId : Nat) (connected : Bool) :
    Inv (s.checkedNoPays nodeId connected) := by
  unfold checkedNoPays
  split
  · rename_i hmem
    obtain ⟨hlisting, hk⟩ := h.eq_of_listing hmem
    have hnil : s.checks.erase (.listing nodeId) = [] := by simp [hlisting]
    rw [hnil]
    cases connected with
    | true =>
      have hfailures : s.failures = [] := List.eq_nil_iff_forall_not_mem.mpr fun m hm =>
        absurd (h.holder .failure .watch m nodeId hm hk) (by decide)
      refine h.move .failure hk rfl (fun k m hm => ?_) h.promises h.streams (by simp [hfailures])
        (.inl rfl) fun _ ha => ha
      cases k with
      | attempt | promise | stream => exact .inl ⟨by decide, hm⟩
      | watch => cases hm.1
      | failure =>
        have hm' : m ∈ s.failures ++ [nodeId] := hm
        exact .inr ⟨rfl, by simpa [hfailures] using hm'⟩
    | false =>
      refine h.settle hk (.inl rfl) (fun k m hm => ?_) (.inl rfl) fun _ ha => ha
      cases k with
      | attempt | promise | stream | failure => exact ⟨by decide, hm⟩
      | watch => cases hm.1
  · exact h

theorem inv_failureStored (h : Inv s) (nodeId : Nat) : Inv (s.failureStored nodeId) := by
  unfold failureStored
  split
  · rename_i hmem
    have hk : s.Holds .failure nodeId := hmem
    have hidle : Idle s.checks := h.idle hk (by decide)
    refine h.settle hk (.inr ⟨_, _, rfl⟩) (fun k m hm => ?_) hidle fun _ ha => ha
    cases k with
    | attempt | promise | stream | watch => exact ⟨by decide, hm⟩
    | failure =>
      have hm' := h.failures.mem_erase_iff.mp hm
      exact absurd (h.live m nodeId (h.liveAt (k := .failure) hm'.2) (h.liveAt hk)) hm'.1
  · exact h

theorem inv_restart (h : Inv s) (available : Nat → Bool) : Inv (s.restart available) := by
  have hstatus : ∀ m, m ∈ (s.rows.filter fun p => p.status == .pending && available p.nodeId).map
      (·.nodeId) → s.statusOf m = some .pending := by
    intro m hm
    obtain ⟨p, hp, rfl⟩ := List.mem_map.mp hm
    rw [List.mem_filter, Bool.and_eq_true, beq_iff_eq] at hp
    rw [statusOf_of_mem h.keys hp.1, hp.2.1]
  have hholds : ∀ k m, (s.restart available).Holds k m → s.statusOf m = some .pending ∧
      (k = .stream ∧ s.isCln m = false ∨ k = .watch ∧ s.isCln m = true) := by
    intro k m hm
    cases k with
    | attempt => rcases hm with hm | hm <;> cases hm
    | promise => cases hm
    | stream =>
      obtain ⟨hm, hcln⟩ := List.mem_filter.mp hm
      exact ⟨hstatus m hm, .inl ⟨rfl, by simpa using hcln⟩⟩
    | watch =>
      obtain ⟨hm, hcln⟩ := List.mem_filter.mp (List.mem_of_getLast? hm.1)
      exact ⟨hstatus m hm, .inr ⟨rfl, hcln⟩⟩
    | failure => cases hm
  refine ⟨h.keys, h.live, fun k m hm => (hholds k m hm).1, fun k k' m n hm hn => ?_,
    List.nodup_nil, ?_, List.nodup_nil, .inl (.inl rfl), fun _ _ ha => by cases ha⟩
  · obtain ⟨hpm, hcm⟩ := hholds k m hm
    obtain ⟨hpn, hcn⟩ := hholds k' n hn
    have hmn : m = n := h.live m n (.inl hpm) (.inl hpn)
    subst hmn
    rcases hcm with ⟨hk, hcm⟩ | ⟨hk, hcm⟩ <;> rcases hcn with ⟨hk', hcn⟩ | ⟨hk', hcn⟩
    · rw [hk, hk']
    · rw [hcm] at hcn
      cases hcn
    · rw [hcm] at hcn
      cases hcn
    · rw [hk, hk']
  · exact (h.keys.sublist (List.Sublist.map _ List.filter_sublist)).filter _

theorem inv_step (h : Inv s) (op : Op) (hop : s.NoOverlap op) : Inv (s.step op) := by
  cases op with
  | getRelevantNode preferredNode available => exact inv_getRelevantNode h preferredNode available
  | leave => exact inv_leave h
  | sendPayment timedOut => exact inv_sendPayment h timedOut
  | callNode => exact inv_callNode h
  | outcome r => exact inv_outcome h r
  | promiseSettled nodeId r => exact inv_promiseSettled h nodeId r
  | streamEnded nodeId r => exact inv_streamEnded h nodeId r
  | check => exact inv_check h (hop rfl)
  | checked nodeId r => exact inv_checked h nodeId r
  | removed nodeId => exact inv_removed h nodeId
  | checkedNoPays nodeId connected => exact inv_checkedNoPays h nodeId connected
  | failureStored nodeId => exact inv_failureStored h nodeId
  | restart available => exact inv_restart h available

theorem inv_of_reaches (isCln : Nat → Bool) (h : Reaches NoOverlap { isCln } s) : Inv s := by
  induction h with
  | refl =>
    refine inv_of_not_live List.nodup_nil (fun m hm => ?_) (fun k m hk => ?_) (.inl rfl)
    · rcases hm with hm | hm <;> cases hm
    · cases k with
      | attempt => rcases hk with hk | hk <;> cases hk
      | promise | stream | failure => cases hk
      | watch => cases hk.1
  | step _ op hop ih => exact inv_step ih op hop

theorem Inv.not_live_of_created (h : Inv s) {timedOut : Bool} {payments : List Payment}
    {nodeId : Nat} (hloaded : s.attempt = some (.loaded nodeId payments))
    (hcreated : (s.sendPayment timedOut).attempt = some (.created n)) :
    ∀ p ∈ s.rows, p.isLive = false := by
  have hrelevant : (existingRelevantAction payments).isSome = false := by
    by_contra hsome
    rw [sendPayment, hloaded] at hcreated
    simp only at hcreated
    rw [if_pos (Bool.eq_true_of_not_eq_false hsome)] at hcreated
    cases hcreated
  intro p hp
  by_contra hlive
  exact h.loaded nodeId payments hloaded (not_live_of_existingRelevantAction hrelevant) p.nodeId
    (liveAt_of_mem h.keys hp (by simpa using hlive))

end Steps

/-- In every state at most one row is live. An attempt goes on to call the node only when no row is
live, and when it does so the row it created is the only one. -/
theorem invoice_paid_once (isCln : Nat → Bool) {s : State} (h : Reaches NoOverlap { isCln } s) :
    (s.rows.filter Payment.isLive).length ≤ 1 ∧
      (∀ timedOut nodeId payments n, s.attempt = some (.loaded nodeId payments) →
        (s.sendPayment timedOut).attempt = some (.created n) → ∀ p ∈ s.rows, p.isLive = false) ∧
      ∀ n, s.attempt = some (.created n) → ∀ p ∈ s.rows, p.isLive = true → p.nodeId = n := by
  have hinv := inv_of_reaches isCln h
  refine ⟨hinv.length_live_le, fun _ _ _ _ hloaded hcreated => ?_, fun n hattempt p hp hlive => ?_⟩
  · exact hinv.not_live_of_created hloaded hcreated
  · have hn : s.LiveAt n := hinv.liveAt (k := .attempt) (.inl hattempt)
    exact hinv.live p.nodeId n (liveAt_of_mem hinv.keys hp hlive) hn

/-- Node 1 is a CLN node. Its payment fails for now, a check finds that out, and node 2 tries. -/
def retriedElsewhere : List Op :=
  [.getRelevantNode 1 true, .sendPayment false, .callNode, .outcome (.failed false .other), .check,
    .checked 1 (some (.failed false .other true)), .removed 1, .getRelevantNode 2 true,
    .sendPayment false]

theorem invoice_paid_once_retried :
    ((retriedElsewhere.foldl step { isCln := (· == 1) }).rows.filter Payment.isLive).length ≤ 1 :=
  (invoice_paid_once (· == 1) <| .step (.step (.step (.step (.step (.step (.step (.step (.step .refl
    (.getRelevantNode 1 true) (by simp [NoOverlap])) (.sendPayment false) (by simp [NoOverlap]))
    .callNode (by simp [NoOverlap])) (.outcome (.failed false .other)) (by simp [NoOverlap]))
    .check fun _ => rfl) (.checked 1 (some (.failed false .other true))) (by simp [NoOverlap]))
    (.removed 1) (by simp [NoOverlap])) (.getRelevantNode 2 true) (by simp [NoOverlap]))
    (.sendPayment false) (by simp [NoOverlap])).1

/-- Two checks of the first payment overlap. The second one stores the failure and removes the
entry, the payment is tried again on the same node, and then the first check stores the failure it
was told about the first payment. Node 2 pays, and the retry on node 1 succeeds. -/
def overlappingChecks : List Op :=
  [.getRelevantNode 1 true, .sendPayment false, .callNode, .outcome (.failed false .other),
    .check, .check, .checked 1 (some (.failed false .other true)), .removed 1,
    .getRelevantNode 1 true, .sendPayment false, .callNode, .outcome .timeout,
    .checked 1 (some (.failed false .other true)), .removed 1,
    .getRelevantNode 2 true, .sendPayment false, .callNode, .promiseSettled 1 .paid]

theorem reaches_foldl (s₀ : State) (ops : List Op) {s : State}
    (h : Reaches (fun _ _ => True) s₀ s) : Reaches (fun _ _ => True) s₀ (ops.foldl step s) := by
  induction ops generalizing s with
  | nil => exact h
  | cons op ops ih => exact ih (.step h op trivial)

theorem overlapping_checks_pay_twice :
    ∃ s, Reaches (fun _ _ => True) { isCln := (· == 1) } s ∧ s.attempt = some (.sending 2) ∧
      s.rows.map (fun p => (p.nodeId, p.status)) = [(1, .success), (2, .pending)] :=
  ⟨overlappingChecks.foldl step { isCln := (· == 1) }, reaches_foldl _ _ .refl, by decide, by decide⟩

end State

end Boltz.PaymentTracker

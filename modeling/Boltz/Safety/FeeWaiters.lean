import Boltz.Chain.MempoolSpace
import Boltz.Core.Sorting
import Mathlib.Tactic.Linarith

/-!
# Fees that are waited for

A call that waits is notified as soon as a client has fees and a height, however its accesses and
those of the clients interleave. Single clients cannot make up the fees that are returned.
-/

namespace Boltz.MempoolSpace

open Async

variable {s s' : State}

/-! ## Collected fees -/

theorem median_isSome {vec : List ℚ} (h : vec ≠ []) : (median vec).isSome = true := by
  have hlength : (vec.insertionSort (· ≤ ·)).length ≠ 0 := by
    rw [List.length_insertionSort]
    exact List.length_eq_zero_iff.not.mpr h
  unfold median
  dsimp only
  rw [if_neg fun hnil => hlength (List.length_eq_zero_iff.mpr hnil)]
  split
  · rw [List.getElem?_eq_getElem (by omega), List.getElem?_eq_getElem (by omega)]
    rfl
  · rw [List.getElem?_eq_getElem (by omega)]
    rfl

theorem bestFeesAndHeight_eq_none {fees : List (Nat × ℚ)} (h : bestFeesAndHeight fees = none) :
    fees = [] := by
  by_contra hne
  cases hmax : (fees.map (·.1)).max? with
  | none => exact hne (List.map_eq_nil_iff.mp (List.max?_eq_none_iff.mp hmax))
  | some bestHeight =>
    obtain ⟨entry, hentry, hheight⟩ := List.mem_map.mp (List.max?_mem hmax)
    have hbest : bestFees fees bestHeight ≠ [] :=
      List.ne_nil_of_mem <| List.mem_map_of_mem <|
        List.mem_filter.mpr ⟨hentry, decide_eq_true hheight⟩
    obtain ⟨fee, hfee⟩ := Option.isSome_iff_exists.mp (median_isSome hbest)
    rw [bestFeesAndHeight, hmax] at h
    simp only [bind, Option.bind, hfee] at h
    cases h

/-- The median is in every interval that has more than half of the values. -/
theorem median_mem_of_majority {vec : List ℚ} {fee lo hi : ℚ} (h : median vec = some fee)
    (hmajority : vec.length < 2 * vec.countP fun value => decide (lo ≤ value ∧ value ≤ hi)) :
    lo ≤ fee ∧ fee ≤ hi := by
  unfold median at h
  dsimp only at h
  generalize hsorted : vec.insertionSort (· ≤ ·) = sorted at h
  have hperm : sorted.Perm vec := hsorted ▸ List.perm_insertionSort (· ≤ ·) vec
  have hpairwise : sorted.Pairwise (· ≤ ·) := hsorted ▸ List.pairwise_insertionSort (· ≤ ·) vec
  have hcount : sorted.length < 2 * sorted.countP fun value => decide (lo ≤ value ∧ value ≤ hi) := by
    rw [hperm.length_eq, hperm.countP_eq]
    exact hmajority
  have hlower : sorted.countP (fun value => decide (lo ≤ value ∧ value ≤ hi)) ≤
      sorted.countP fun value => decide (lo ≤ value) :=
    List.countP_mono_left fun value _ h => decide_eq_true (of_decide_eq_true h).1
  have hupper : sorted.countP (fun value => decide (lo ≤ value ∧ value ≤ hi)) ≤
      sorted.countP fun value => decide (value ≤ hi) :=
    List.countP_mono_left fun value _ h => decide_eq_true (of_decide_eq_true h).2
  have hge : ∀ i (hlt : i < sorted.length), sorted.length ≤ 2 * i + 2 → lo ≤ sorted[i] :=
    fun i hlt hmid => of_decide_eq_true (Core.getElem_of_countP_upward
      (p := fun value => decide (lo ≤ value)) hpairwise
      (fun a b hab ha => decide_eq_true ((of_decide_eq_true ha).trans hab)) hlt (by omega))
  have hle : ∀ i (hlt : i < sorted.length), 2 * i ≤ sorted.length → sorted[i] ≤ hi :=
    fun i hlt hmid => of_decide_eq_true (Core.getElem_of_countP_downward
      (p := fun value => decide (value ≤ hi)) hpairwise
      (fun a b hab hb => decide_eq_true (hab.trans (of_decide_eq_true hb))) hlt (by omega))
  split at h
  · cases h
  · rename_i hne
    have hpos : 0 < sorted.length := List.length_pos_iff.mpr hne
    split at h
    · rename_i heven
      rw [List.getElem?_eq_getElem (by omega), List.getElem?_eq_getElem (by omega)] at h
      cases h
      have hleft := hge (sorted.length / 2 - 1) (by omega) (by omega)
      have hleft' := hle (sorted.length / 2 - 1) (by omega) (by omega)
      have hright := hge (sorted.length / 2) (by omega) (by omega)
      have hright' := hle (sorted.length / 2) (by omega) (by omega)
      constructor
      · linarith
      · linarith
    · rename_i hodd
      rw [List.getElem?_eq_getElem (by omega)] at h
      cases h
      exact ⟨hge _ (by omega) (by omega), hle _ (by omega) (by omega)⟩

/-! ## Notifications -/

/-- The client has fees that are not stale, and a height. -/
def Client.Ready (maxAge : Option Nat) (now : Nat) (client : Client) : Prop :=
  (∃ cached, client.lastFees = some cached ∧ staleness maxAge now cached.time = none) ∧
    client.lastBlock ≠ none

/-- The client is going to notify about what it has kept. -/
def Client.Updating (client : Client) : Prop :=
  client.task = .notifyBlock ∨ ∃ msg, client.task = .notifyFees msg

/-- Nobody has to be notified about the client. -/
def Client.Quiet (maxAge : Option Nat) (now : Nat) (client : Client) : Prop :=
  client.Ready maxAge now → client.Updating

/-- The first clients of a state are quiet. -/
def State.QuietUpTo (s : State) (n : Nat) : Prop :=
  ∀ i < n, ∀ client, s.clients[i]? = some client → client.Quiet s.maxAge s.now

/-- What holds as long as a waiter has not been notified. -/
def Unnotified (s : State) : Stage → Prop
  | .registered _ false scan => scan.found = [] → s.QuietUpTo scan.next
  | .parked _ false => s.QuietUpTo s.clients.length
  | _ => True

def Inv (s : State) : Prop := ∀ waiter ∈ s.waiters, Unnotified s waiter.stage

section

variable {maxAge : Option Nat} {now : Nat} {client client' : Client}

theorem staleness_of_later {time : Nat} (h : staleness maxAge (now + 1) time = none) :
    staleness maxAge now time = none := by
  unfold staleness at h ⊢
  split
  · rename_i limit
    dsimp only at h
    split at h
    · cases h
    · rw [if_neg (by omega)]
  · rfl

theorem Client.Ready.earlier (h : client.Ready maxAge (now + 1)) : client.Ready maxAge now := by
  obtain ⟨⟨cached, hcached, hfresh⟩, hblock⟩ := h
  exact ⟨⟨cached, hcached, staleness_of_later hfresh⟩, hblock⟩

theorem Client.not_updating (h : ∀ msg, client.task ≠ .notifyFees msg)
    (h' : client.task ≠ .notifyBlock) : ¬client.Updating := by
  rintro (hblock | ⟨msg, hfees⟩)
  · exact h' hblock
  · exact h msg hfees

/-- A client that is not going to notify is as quiet with the same fees and height. -/
theorem Client.Quiet.of_same (h : client.Quiet maxAge now) (hidle : ¬client.Updating)
    (hfees : client'.lastFees = client.lastFees) (hblock : client'.lastBlock = client.lastBlock) :
    client'.Quiet maxAge now := by
  intro hready
  refine absurd (h ?_) hidle
  rwa [Client.Ready, ← hfees, ← hblock]

theorem Client.quiet_of_no_fees (h : client.lastFees = none) : client.Quiet maxAge now := by
  rintro ⟨⟨cached, hcached, -⟩, -⟩
  cases h.symm.trans hcached

theorem Client.quiet_of_no_block (h : client.lastBlock = none) : client.Quiet maxAge now :=
  fun hready => absurd h hready.2

theorem Client.quiet_of_stale {cached : CachedFees} (hfees : client.lastFees = some cached)
    (hstale : (staleness maxAge now cached.time).isSome = true) : client.Quiet maxAge now := by
  rintro ⟨⟨other, hother, hfresh⟩, -⟩
  cases hfees.symm.trans hother
  rw [hfresh] at hstale
  cases hstale

/-- A client that has finished an update without notifying anybody has not become ready. -/
theorem Client.quiet_of_not_notifies (hupdating : client.Updating)
    (hnotifies : client.notifies = false) (hfees : client'.lastFees = client.lastFees)
    (hblock : client'.lastBlock = client.lastBlock) : client'.Quiet maxAge now := by
  rintro ⟨⟨cached, hcached, -⟩, hsome⟩
  rw [hfees] at hcached
  rw [hblock] at hsome
  obtain ⟨height, hheight⟩ := Option.ne_none_iff_exists'.mp hsome
  have hboth : (client.lastFees.isSome && client.lastBlock.isSome) = true := by
    rw [hcached, hheight]
    rfl
  unfold Client.notifies at hnotifies
  rcases hupdating with htask | ⟨msg, htask⟩
  · rw [htask] at hnotifies
    exact absurd hboth (Bool.eq_false_iff.mp hnotifies)
  · rw [htask] at hnotifies
    exact absurd hboth (Bool.eq_false_iff.mp hnotifies)

/-- A step of a client that notifies nobody leaves it quiet. -/
theorem Client.Quiet.step (h : client.Quiet maxAge now) (hnotifies : client.notifies = false)
    (hstep : client.step now = some client') : client'.Quiet maxAge now := by
  unfold Client.step at hstep
  split at hstep
  · cases hstep
  · rename_i msg htask
    have hidle : ¬client.Updating := Client.not_updating (by simp [htask]) (by simp [htask])
    split at hstep
    · cases hstep
      exact fun _ => .inr ⟨msg, rfl⟩
    · cases hstep
      exact h.of_same hidle rfl rfl
  · rename_i msg htask
    cases hstep
    exact Client.quiet_of_not_notifies (.inr ⟨msg, htask⟩) hnotifies rfl rfl
  · rename_i msg htask
    have hidle : ¬client.Updating := Client.not_updating (by simp [htask]) (by simp [htask])
    split at hstep
    · split at hstep
      · cases hstep
        exact h.of_same hidle rfl rfl
      · cases hstep
        exact fun _ => .inl rfl
    · cases hstep
      exact h.of_same hidle rfl rfl
  · rename_i htask
    cases hstep
    exact Client.quiet_of_not_notifies (.inl htask) hnotifies rfl rfl
  · cases hstep
    exact Client.quiet_of_no_block rfl

/-- A client that nothing was found at is quiet. -/
theorem Scan.step_found {scan : Scan} (h : (scan.step maxAge now client).found = []) :
    scan.found = [] ∧ ((scan.step maxAge now client).next = scan.next ∨
      (scan.step maxAge now client).next = scan.next + 1 ∧ client.Quiet maxAge now) := by
  unfold Scan.step at h ⊢
  split at h
  · split at h
    · rename_i hfees
      exact ⟨h, .inr ⟨rfl, Client.quiet_of_no_fees hfees⟩⟩
    · rename_i cached hfees
      split at h
      · rename_i hstale
        rw [if_pos hstale]
        exact ⟨h, .inr ⟨rfl, Client.quiet_of_stale hfees hstale⟩⟩
      · rename_i hfresh
        rw [if_neg hfresh]
        exact ⟨h, .inl rfl⟩
  · dsimp only at h ⊢
    split at h
    · exact absurd h (List.append_ne_nil_of_right_ne_nil _ (List.cons_ne_nil _ _))
    · rename_i hblock
      exact ⟨h, .inr ⟨rfl, Client.quiet_of_no_block hblock⟩⟩

end

section

variable {i n : Nat} {client client' : Client}

theorem State.QuietUpTo.set (h : s.QuietUpTo n) (hclient : s.clients[i]? = some client)
    (hquiet : client.Quiet s.maxAge s.now → client'.Quiet s.maxAge s.now) :
    (s.setClient i client').QuietUpTo n := by
  intro j hj other hother
  by_cases hsame : i = j
  · subst hsame
    obtain ⟨hlt, -⟩ := List.getElem?_eq_some_iff.mp hclient
    cases (List.getElem?_set_self hlt).symm.trans hother
    exact hquiet (h i hj client hclient)
  · exact h j hj other ((List.getElem?_set_ne hsame).symm.trans hother)

/-- What waiters know when a client has been replaced by one that is as quiet. -/
theorem Unnotified.set {stage : Stage} (h : Unnotified s stage)
    (hclient : s.clients[i]? = some client)
    (hquiet : client.Quiet s.maxAge s.now → client'.Quiet s.maxAge s.now) :
    Unnotified (s.setClient i client') stage := by
  cases stage with
  | registered deadline notified scan =>
    cases notified with
    | true => trivial
    | false => exact fun hfound => (h hfound).set hclient hquiet
  | parked deadline notified =>
    cases notified with
    | true => trivial
    | false =>
      have hlength : (s.setClient i client').clients.length = s.clients.length :=
        List.length_set
      rw [Unnotified, hlength]
      exact State.QuietUpTo.set h hclient hquiet
  | _ => trivial

theorem unnotified_notify (stage : Stage) : Unnotified s stage.notify := by
  cases stage <;> trivial

theorem Inv.init (maxAge : Option Nat) (clients : Nat) : Inv (.init maxAge clients) :=
  fun _ h => absurd h List.not_mem_nil

theorem State.QuietUpTo.tick (h : s.QuietUpTo n) : { s with now := s.now + 1 }.QuietUpTo n :=
  fun j hj other hother hready => h j hj other hother hready.earlier

/-- The next step of a waiter. -/
theorem Unnotified.step {stage stage' : Stage} (h : Unnotified s stage)
    (hstep : stage.step s = some stage') : Unnotified s stage' := by
  unfold Stage.step at hstep
  split at hstep
  · cases hstep
    split
    · trivial
    · split
      · trivial
      · trivial
  · cases hstep
    split
    · split
      · trivial
      · trivial
    · trivial
  · cases hstep
    exact fun _ j hj => absurd hj (Nat.not_lt_zero j)
  · rename_i deadline notified scan
    cases hstep
    cases notified with
    | true =>
      split
      · trivial
      · split
        · trivial
        · trivial
    | false =>
      split
      · rename_i client hclient
        intro hfound
        obtain ⟨hbefore, hnext⟩ := Scan.step_found hfound
        have hquiet := h hbefore
        rcases hnext with hnext | ⟨hnext, hclientQuiet⟩
        · rwa [hnext]
        · rw [hnext]
          intro j hj other hother
          rcases Nat.lt_succ_iff_lt_or_eq.mp hj with hlt | rfl
          · exact hquiet j hlt other hother
          · cases hclient.symm.trans hother
            exact hclientQuiet
      · rename_i hend
        split
        · trivial
        · rename_i hnone
          intro j hj
          exact h (bestFeesAndHeight_eq_none hnone) j
            (Nat.lt_of_lt_of_le hj (List.getElem?_eq_none_iff.mp hend))
  · cases hstep
    trivial
  · cases hstep
  · cases hstep

/-- All waiters know what a replaced client has become. -/
theorem Inv.set (hi : Inv s) (hclient : s.clients[i]? = some client)
    (hquiet : client.Quiet s.maxAge s.now → client'.Quiet s.maxAge s.now) :
    Inv (s.setClient i client') :=
  fun waiter hwaiter => (hi waiter hwaiter).set hclient hquiet

theorem Inv.setWaiter (hi : Inv s) {j : Nat} {waiter : Waiter}
    (hwaiter : Unnotified s waiter.stage) : Inv { s with waiters := s.waiters.set j waiter } := by
  intro other hother
  rcases List.mem_or_eq_of_mem_set hother with hother | rfl
  · exact hi other hother
  · exact hwaiter

theorem Inv.step (hi : Inv s) {op : Op} (h : step s op = some s') : Inv s' := by
  cases op with
  | receive i msg =>
    simp only [MempoolSpace.step] at h
    split at h
    · rename_i client hclient
      split at h
      · rename_i hlistening
        cases h
        refine hi.set hclient fun hquiet => hquiet.of_same ?_ rfl rfl
        exact Client.not_updating (by simp [hlistening]) (by simp [hlistening])
      · cases h
    · cases h
  | client i =>
    obtain ⟨client, hclient, h⟩ := Option.bind_eq_some_iff.mp h
    obtain ⟨next, hnext, h⟩ := Option.bind_eq_some_iff.mp h
    cases h
    cases hnotifies : client.notifies with
    | true =>
      intro waiter hwaiter
      rw [if_pos rfl] at hwaiter
      obtain ⟨old, -, rfl⟩ := List.mem_map.mp hwaiter
      exact unnotified_notify old.stage
    | false =>
      rw [if_neg Bool.false_ne_true]
      exact hi.set hclient fun hquiet => hquiet.step hnotifies hnext
  | disconnect i =>
    simp only [MempoolSpace.step] at h
    split at h
    · rename_i client hclient
      split at h
      · cases h
        exact hi.set hclient fun _ => Client.quiet_of_no_fees rfl
      · cases h
    · cases h
  | start =>
    cases h
    intro waiter hwaiter
    rcases List.mem_append.mp hwaiter with hwaiter | hwaiter
    · exact hi waiter hwaiter
    · rw [List.mem_singleton.mp hwaiter]
      trivial
  | waiter j =>
    obtain ⟨waiter, hwaiter, h⟩ := Option.bind_eq_some_iff.mp h
    obtain ⟨stage, hstage, h⟩ := Option.bind_eq_some_iff.mp h
    cases h
    exact hi.setWaiter ((hi waiter (List.mem_of_getElem? hwaiter)).step hstage)
  | timeout j =>
    simp only [MempoolSpace.step] at h
    split at h
    · split at h
      · cases h
        exact hi.setWaiter trivial
      · cases h
    · cases h
  | tick =>
    cases h
    intro waiter hwaiter
    have hold := hi waiter hwaiter
    cases hstage : waiter.stage with
    | registered deadline notified scan =>
      rw [hstage] at hold
      cases notified with
      | true => trivial
      | false => exact fun hfound => (hold hfound).tick
    | parked deadline notified =>
      rw [hstage] at hold
      cases notified with
      | true => trivial
      | false => exact State.QuietUpTo.tick hold
    | _ => trivial

end

/-- Any operation. -/
def anyOp : State → Op → Bool := fun _ _ => true

/-- While a call waits without having been notified, no client has fees and a height, apart from
those that are going to notify about them. When such a client does, the call is notified. -/
theorem no_lost_notification {maxAge : Option Nat} {clients : Nat} {ops : List Op}
    (h : runFrom step anyOp (.init maxAge clients) ops = some s) {j started deadline : Nat}
    (hparked : s.waiters[j]? = some { started := started, stage := .parked deadline false })
    {i : Nat} {client : Client} (hclient : s.clients[i]? = some client)
    (hready : client.Ready s.maxAge s.now) :
    ∃ s', step s (.client i) = some s' ∧
      s'.waiters[j]? = some { started := started, stage := .parked deadline true } := by
  have hi : Inv s := invariant_of_runFrom (fun _ _ _ hi _ h => hi.step h) (Inv.init _ _) h
  have hquiet := hi _ (List.mem_of_getElem? hparked)
  have hupdating : client.Updating :=
    hquiet i (List.getElem?_eq_some_iff.mp hclient).1 client hclient hready
  obtain ⟨⟨cached, hcached, -⟩, hblock⟩ := hready
  obtain ⟨height, hheight⟩ := Option.ne_none_iff_exists'.mp hblock
  have hnotifies : client.notifies = true := by
    unfold Client.notifies
    rcases hupdating with htask | ⟨msg, htask⟩ <;> rw [htask, hcached, hheight] <;> rfl
  obtain ⟨next, hnext⟩ : ∃ next, client.step s.now = some next := by
    unfold Client.step
    rcases hupdating with htask | ⟨msg, htask⟩ <;> rw [htask] <;> exact ⟨_, rfl⟩
  refine ⟨{ s.setClient i next with waiters := s.waiters.map Waiter.notify }, ?_, ?_⟩
  · simp only [step, hclient, hnext, hnotifies, if_true, bind, Option.bind]
  · rw [List.getElem?_map, hparked]
    rfl

/-- The only client gets fees and a block after a call has started to wait. -/
def exampleRun : List Op :=
  [.start, .waiter 0, .waiter 0, .waiter 0, .waiter 0, .waiter 0, .waiter 0,
    .receive 0 { fees := some 3, blocks := none, block := some 7 }, .client 0, .client 0, .client 0]

theorem no_lost_notification_example : ∃ s s' : State, ∃ client : Client,
    runFrom step anyOp (.init (some 60) 1) exampleRun = some s ∧ s.clients[0]? = some client ∧
      client.Ready s.maxAge s.now ∧ step s (.client 0) = some s' ∧
      s'.waiters[0]? = some { started := 0, stage := .parked 5 true } := by
  obtain ⟨s, hrun, hwaiter, hclient, hmaxAge, hnow⟩ :
      ∃ s, runFrom step anyOp (.init (some 60) 1) exampleRun = some s ∧
        s.waiters[0]? = some { started := 0, stage := .parked 5 false } ∧
        s.clients[0]? = some
          { lastFees := some { fastest := 3, time := 0 }, lastBlock := some 7,
            task := .notifyBlock } ∧
        s.maxAge = some 60 ∧ s.now = 0 := ⟨_, rfl, rfl, rfl, rfl, rfl⟩
  have hready : Client.Ready s.maxAge s.now
      { lastFees := some { fastest := 3, time := 0 }, lastBlock := some 7,
        task := .notifyBlock } := by
    rw [hmaxAge, hnow]
    exact ⟨⟨_, rfl, rfl⟩, Option.some_ne_none 7⟩
  obtain ⟨s', hstep, hnotified⟩ := no_lost_notification hrun hwaiter hclient hready
  exact ⟨s, s', _, hrun, hclient, hready, hstep, hnotified⟩

/-! ## Returned fees -/

/-- The client has kept the fees and the height, and the fees were not too old when the call
started. -/
def Kept (s : State) (started i : Nat) (entry : Nat × ℚ) : Prop :=
  ∃ cached, (i, cached) ∈ s.feesKept ∧ cached.fastest = entry.2 ∧ (i, entry.1) ∈ s.blocksKept ∧
    ∀ maxAge ∈ s.maxAge, started ≤ cached.time + maxAge

/-- Every entry was read from another client, all of them before the bound. -/
def KeptBefore (s : State) (started bound : Nat) (found : List (Nat × ℚ)) : Prop :=
  ∃ readers : List Nat, readers.Pairwise (· < ·) ∧ (∀ i ∈ readers, i < bound) ∧
    List.Forall₂ (Kept s started) readers found

/-- Fees that were read before the height of their client. -/
def KeptFees (s : State) (started i : Nat) (cached : CachedFees) : Prop :=
  (i, cached) ∈ s.feesKept ∧ ∀ maxAge ∈ s.maxAge, started ≤ cached.time + maxAge

structure Scan.Kept (s : State) (started : Nat) (scan : Scan) : Prop where
  fees : ∀ cached ∈ scan.fees, KeptFees s started scan.next cached
  found : KeptBefore s started scan.next scan.found

/-- What a call has read, and what it has returned. -/
def Stage.Kept (s : State) (started : Nat) : Stage → Prop
  | .collecting scan | .registered _ _ scan => scan.Kept s started
  | .done (some result) => ∃ found bound, bestFeesAndHeight found = some result ∧
      KeptBefore s started bound found
  | _ => True

def Waiter.Kept (s : State) (waiter : Waiter) : Prop :=
  waiter.started ≤ s.now ∧ waiter.stage.Kept s waiter.started

structure History (s : State) : Prop where
  fees : ∀ {i : Nat} {client : Client}, s.clients[i]? = some client →
    ∀ cached ∈ client.lastFees, (i, cached) ∈ s.feesKept
  blocks : ∀ {i : Nat} {client : Client}, s.clients[i]? = some client →
    ∀ height ∈ client.lastBlock, (i, height) ∈ s.blocksKept
  waiters : ∀ waiter ∈ s.waiters, waiter.Kept s

section

variable {started i : Nat} {client : Client} {scan : Scan} {waiter : Waiter}

/-- The history grows. -/
structure Grows (s s' : State) : Prop where
  maxAge : s'.maxAge = s.maxAge
  now : s.now ≤ s'.now
  fees : s.feesKept ⊆ s'.feesKept
  blocks : s.blocksKept ⊆ s'.blocksKept

theorem Kept.mono {entry : Nat × ℚ} (h : Kept s started i entry) (hgrows : Grows s s') :
    Kept s' started i entry := by
  obtain ⟨cached, hfees, hfee, hblock, hfresh⟩ := h
  exact ⟨cached, hgrows.fees hfees, hfee, hgrows.blocks hblock, hgrows.maxAge ▸ hfresh⟩

theorem KeptBefore.mono {bound : Nat} {found : List (Nat × ℚ)}
    (h : KeptBefore s started bound found) (hgrows : Grows s s') :
    KeptBefore s' started bound found := by
  obtain ⟨readers, hsorted, hbound, hkept⟩ := h
  exact ⟨readers, hsorted, hbound, hkept.imp fun _ _ hentry => hentry.mono hgrows⟩

theorem KeptBefore.nil (s : State) (started bound : Nat) : KeptBefore s started bound [] :=
  ⟨[], .nil, fun _ h => absurd h List.not_mem_nil, .nil⟩

theorem KeptBefore.next {bound : Nat} {found : List (Nat × ℚ)}
    (h : KeptBefore s started bound found) : KeptBefore s started (bound + 1) found := by
  obtain ⟨readers, hsorted, hbound, hkept⟩ := h
  exact ⟨readers, hsorted, fun i hi => Nat.lt_succ_of_lt (hbound i hi), hkept⟩

theorem KeptBefore.append {bound : Nat} {found : List (Nat × ℚ)} {entry : Nat × ℚ}
    (h : KeptBefore s started bound found) (hentry : Kept s started bound entry) :
    KeptBefore s started (bound + 1) (found ++ [entry]) := by
  obtain ⟨readers, hsorted, hbound, hkept⟩ := h
  refine ⟨readers ++ [bound], ?_, ?_, List.rel_append hkept (.cons hentry .nil)⟩
  · refine List.pairwise_append.mpr ⟨hsorted, List.pairwise_singleton _ _, fun i hi j hj => ?_⟩
    rw [List.mem_singleton.mp hj]
    exact hbound i hi
  · intro i hi
    rcases List.mem_append.mp hi with hi | hi
    · exact Nat.lt_succ_of_lt (hbound i hi)
    · rw [List.mem_singleton.mp hi]
      exact Nat.lt_succ_self bound

theorem Scan.Kept.mono (h : scan.Kept s started) (hgrows : Grows s s') :
    scan.Kept s' started where
  fees cached hcached := by
    obtain ⟨hfees, hfresh⟩ := h.fees cached hcached
    exact ⟨hgrows.fees hfees, hgrows.maxAge ▸ hfresh⟩
  found := h.found.mono hgrows

theorem Stage.Kept.mono {stage : Stage} (h : stage.Kept s started) (hgrows : Grows s s') :
    stage.Kept s' started := by
  cases stage with
  | collecting scan => exact Scan.Kept.mono h hgrows
  | registered _ _ scan => exact Scan.Kept.mono h hgrows
  | done result =>
    cases result with
    | none => trivial
    | some result =>
      obtain ⟨found, bound, hbest, hfound⟩ := h
      exact ⟨found, bound, hbest, hfound.mono hgrows⟩
  | _ => trivial

theorem Waiter.Kept.mono (h : waiter.Kept s) (hgrows : Grows s s') : waiter.Kept s' :=
  ⟨h.1.trans hgrows.now, h.2.mono hgrows⟩

theorem fresh_of_staleness {maxAge : Option Nat} {now time : Nat} (hstarted : started ≤ now)
    (h : (staleness maxAge now time).isSome ≠ true) :
    ∀ limit ∈ maxAge, started ≤ time + limit := by
  rintro limit rfl
  unfold staleness at h
  dsimp only at h
  split at h
  · exact absurd rfl h
  · omega

/-- What a call reads of a client was kept. -/
theorem Scan.Kept.step (hi : History s) (hclient : s.clients[scan.next]? = some client)
    (hstarted : started ≤ s.now) (h : scan.Kept s started) :
    (scan.step s.maxAge s.now client).Kept s started := by
  unfold Scan.step
  split
  · rename_i hnone
    have hnext : Scan.Kept s started { scan with next := scan.next + 1 } := by
      refine ⟨fun cached hcached => ?_, h.found.next⟩
      cases hnone.symm.trans hcached
    split
    · exact hnext
    · rename_i cached hfees
      split
      · exact hnext
      · rename_i hfresh
        refine ⟨?_, h.found⟩
        rintro other ⟨⟩
        exact ⟨hi.fees hclient cached hfees, fresh_of_staleness hstarted hfresh⟩
  · rename_i cached hcached
    refine ⟨fun _ h => (nomatch h), ?_⟩
    dsimp only
    split
    · rename_i height hheight
      obtain ⟨hkept, hfresh⟩ := h.fees cached hcached
      exact h.found.append ⟨cached, hkept, rfl, hi.blocks hclient height hheight, hfresh⟩
    · exact h.found.next

theorem Scan.Kept.start (s : State) (started : Nat) : Scan.start.Kept s started where
  fees _ h := nomatch h
  found := .nil s started 0

theorem Stage.Kept.step (hi : History s) (hstarted : started ≤ s.now) {stage stage' : Stage}
    (h : stage.Kept s started) (hstep : stage.step s = some stage') : stage'.Kept s started := by
  unfold Stage.step at hstep
  split at hstep
  · rename_i scan
    cases hstep
    cases hclient : s.clients[scan.next]? with
    | some client => exact Scan.Kept.step hi hclient hstarted h
    | none =>
      dsimp only
      split
      · rename_i result hbest
        exact ⟨scan.found, scan.next, hbest, Scan.Kept.found h⟩
      · trivial
  · cases hstep
    split
    · split
      · trivial
      · trivial
    · trivial
  · cases hstep
    exact .start s started
  · rename_i scan
    cases hstep
    cases hclient : s.clients[scan.next]? with
    | some client => exact Scan.Kept.step hi hclient hstarted h
    | none =>
      dsimp only
      split
      · rename_i result hbest
        exact ⟨scan.found, scan.next, hbest, Scan.Kept.found h⟩
      · trivial
  · cases hstep
    trivial
  · cases hstep
  · cases hstep

theorem History.init (maxAge : Option Nat) (clients : Nat) : History (.init maxAge clients) where
  fees := by
    intro i client hclient cached hcached
    rw [List.eq_of_mem_replicate (List.mem_of_getElem? hclient)] at hcached
    cases hcached
  blocks := by
    intro i client hclient height hheight
    rw [List.eq_of_mem_replicate (List.mem_of_getElem? hclient)] at hheight
    cases hheight
  waiters := fun _ h => absurd h List.not_mem_nil

theorem grows_setClient (s : State) (i : Nat) (client : Client) :
    Grows s (s.setClient i client) :=
  ⟨rfl, Nat.le_refl _, List.subset_append_left _ _, List.subset_append_left _ _⟩

theorem History.setClient (hi : History s) (i : Nat) (client : Client) :
    History (s.setClient i client) where
  fees := by
    intro j other hother cached hcached
    rcases getElem?_set_cases hother with ⟨rfl, rfl⟩ | ⟨-, hother⟩
    · refine List.mem_append_right _ (List.mem_map_of_mem ?_)
      rw [hcached]
      exact List.mem_singleton_self _
    · exact List.mem_append_left _ (hi.fees hother cached hcached)
  blocks := by
    intro j other hother height hheight
    rcases getElem?_set_cases hother with ⟨rfl, rfl⟩ | ⟨-, hother⟩
    · refine List.mem_append_right _ (List.mem_map_of_mem ?_)
      rw [hheight]
      exact List.mem_singleton_self _
    · exact List.mem_append_left _ (hi.blocks hother height hheight)
  waiters := fun waiter hwaiter => (hi.waiters waiter hwaiter).mono (grows_setClient s i client)

/-- The waiters are replaced by others that have read the same. -/
theorem History.setWaiters (hi : History s) {waiters : List Waiter}
    (h : ∀ waiter ∈ waiters, waiter.Kept s) : History { s with waiters := waiters } where
  fees := hi.fees
  blocks := hi.blocks
  waiters waiter hwaiter := (h waiter hwaiter).mono
    ⟨rfl, Nat.le_refl _, List.Subset.refl _, List.Subset.refl _⟩

theorem Waiter.Kept.notify (h : waiter.Kept s) : waiter.notify.Kept s := by
  refine ⟨h.1, ?_⟩
  have hstage := h.2
  unfold Waiter.notify
  cases hwaiter : waiter.stage with
  | registered deadline notified scan =>
    rw [hwaiter] at hstage
    exact hstage
  | parked deadline notified => trivial
  | _ =>
    rw [hwaiter] at hstage
    exact hstage

theorem History.setWaiter (hi : History s) {j : Nat} (h : waiter.Kept s) :
    History { s with waiters := s.waiters.set j waiter } := by
  refine hi.setWaiters fun other hother => ?_
  rcases List.mem_or_eq_of_mem_set hother with hother | rfl
  · exact hi.waiters other hother
  · exact h

theorem History.step (hi : History s) {op : Op} (h : step s op = some s') : History s' := by
  cases op with
  | receive i msg =>
    simp only [MempoolSpace.step] at h
    split at h
    · split at h
      · cases h
        exact hi.setClient i _
      · cases h
    · cases h
  | client i =>
    obtain ⟨client, hclient, h⟩ := Option.bind_eq_some_iff.mp h
    obtain ⟨next, hnext, h⟩ := Option.bind_eq_some_iff.mp h
    cases h
    have hset := hi.setClient i next
    refine hset.setWaiters fun waiter hwaiter => ?_
    split at hwaiter
    · obtain ⟨old, hold, rfl⟩ := List.mem_map.mp hwaiter
      exact (hset.waiters old hold).notify
    · exact hset.waiters waiter hwaiter
  | disconnect i =>
    simp only [MempoolSpace.step] at h
    split at h
    · split at h
      · cases h
        exact hi.setClient i _
      · cases h
    · cases h
  | start =>
    cases h
    refine hi.setWaiters fun waiter hwaiter => ?_
    rcases List.mem_append.mp hwaiter with hwaiter | hwaiter
    · exact hi.waiters waiter hwaiter
    · rw [List.mem_singleton.mp hwaiter]
      exact ⟨Nat.le_refl _, Scan.Kept.start s s.now⟩
  | waiter j =>
    obtain ⟨waiter, hwaiter, h⟩ := Option.bind_eq_some_iff.mp h
    obtain ⟨stage, hstage, h⟩ := Option.bind_eq_some_iff.mp h
    cases h
    obtain ⟨hstarted, hkept⟩ := hi.waiters waiter (List.mem_of_getElem? hwaiter)
    exact hi.setWaiter ⟨hstarted, hkept.step hi hstarted hstage⟩
  | timeout j =>
    simp only [MempoolSpace.step] at h
    split at h
    · rename_i hwaiter
      split at h
      · cases h
        exact hi.setWaiter ⟨(hi.waiters _ (List.mem_of_getElem? hwaiter)).1, trivial⟩
      · cases h
    · cases h
  | tick =>
    cases h
    exact ⟨hi.fees, hi.blocks, fun waiter hwaiter => (hi.waiters waiter hwaiter).mono
      ⟨rfl, Nat.le_succ _, List.Subset.refl _, List.Subset.refl _⟩⟩

theorem bestFeesAndHeight_eq_some {found : List (Nat × ℚ)} {height : Nat} {fee : ℚ}
    (h : bestFeesAndHeight found = some (height, fee)) :
    (∃ entry ∈ found, entry.1 = height) ∧ (∀ entry ∈ found, entry.1 ≤ height) ∧
      median (bestFees found height) = some fee := by
  obtain ⟨best, hmax, h⟩ := Option.bind_eq_some_iff.mp h
  obtain ⟨value, hmedian, h⟩ := Option.bind_eq_some_iff.mp h
  cases h
  obtain ⟨hmem, hle⟩ := List.max?_eq_some_iff.mp hmax
  exact ⟨List.mem_map.mp hmem, fun entry hentry => hle _ (List.mem_map_of_mem hentry), hmedian⟩

/-- What a call had read that returned fees. -/
theorem found_of_done {maxAge : Option Nat} {clients : Nat} {ops : List Op}
    (h : runFrom step anyOp (.init maxAge clients) ops = some s) (hwaiter : waiter ∈ s.waiters)
    {result : Nat × ℚ} (hdone : waiter.stage = .done (some result)) :
    ∃ readers found, readers.Nodup ∧ List.Forall₂ (Kept s waiter.started) readers found ∧
      bestFeesAndHeight found = some result := by
  have hi : History s := invariant_of_runFrom (fun _ _ _ hi _ h => hi.step h) (.init _ _) h
  have hkept := (hi.waiters waiter hwaiter).2
  rw [hdone] at hkept
  obtain ⟨found, bound, hbest, readers, hsorted, -, hfound⟩ := hkept
  exact ⟨readers, found, hsorted.imp fun hlt => Nat.ne_of_lt hlt, hfound, hbest⟩

/-- Returned fees are the median of fees that different clients had kept, those at the highest
height, and none of which were too old when the call started. They are in every interval that has
more than half of these. -/
theorem returned_fees {maxAge : Option Nat} {clients : Nat} {ops : List Op}
    (h : runFrom step anyOp (.init maxAge clients) ops = some s) (hwaiter : waiter ∈ s.waiters)
    {height : Nat} {fee : ℚ} (hdone : waiter.stage = .done (some (height, fee))) :
    ∃ readers found, readers.Nodup ∧ List.Forall₂ (Kept s waiter.started) readers found ∧
      (∃ entry ∈ found, entry.1 = height) ∧ (∀ entry ∈ found, entry.1 ≤ height) ∧
      median (bestFees found height) = some fee ∧
      ∀ lo hi, ((bestFees found height).length <
          2 * (bestFees found height).countP fun value => decide (lo ≤ value ∧ value ≤ hi)) →
        lo ≤ fee ∧ fee ≤ hi := by
  obtain ⟨readers, found, hnodup, hfound, hbest⟩ := found_of_done h hwaiter hdone
  obtain ⟨hreached, hhighest, hmedian⟩ := bestFeesAndHeight_eq_some hbest
  exact ⟨readers, found, hnodup, hfound, hreached, hhighest, hmedian,
    fun lo hi hmajority => median_mem_of_majority hmedian hmajority⟩

/-- The fees and heights of four clients. The third is wrong, and the fourth is behind. -/
def exampleFees : List (ℚ × Nat) := [(3, 7), (4, 7), (100, 7), (1, 6)]

/-- A call collects them after all clients have kept theirs. -/
def exampleVotes : List Op :=
  (exampleFees.zipIdx.flatMap fun ((fees, height), i) =>
    .receive i { fees := some fees, blocks := none, block := some height } ::
      List.replicate 4 (.client i)) ++
    .start :: List.replicate 9 (.waiter 0)

theorem returned_fees_example : ∃ s : State, ∃ readers found,
    runFrom step anyOp (.init (some 60) 4) exampleVotes = some s ∧
      readers.Nodup ∧ List.Forall₂ (Kept s 0) readers found ∧
      (∀ entry ∈ found, entry.1 ≤ 7) ∧ median (bestFees found 7) = some 4 := by
  obtain ⟨s, hrun, hwaiter⟩ : ∃ s, runFrom step anyOp (.init (some 60) 4) exampleVotes = some s ∧
      { started := 0, stage := .done (some (7, 4)) } ∈ s.waiters :=
    ⟨_, rfl, by decide +kernel⟩
  obtain ⟨readers, found, hnodup, hkept, -, hhighest, hmedian, -⟩ := returned_fees hrun hwaiter rfl
  exact ⟨s, readers, found, hrun, hnodup, hkept, hhighest, hmedian⟩

end

end Boltz.MempoolSpace

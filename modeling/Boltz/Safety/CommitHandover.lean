import Boltz.Ethereum.HeldEvents
import Boltz.Safety.CommitmentUse

/-!
# Commits are all or nothing

The row of a commitment is stored before its event is handed over, and stays when the commit throws
in between. The event handler does not queue the event while the log that it was made of is queued,
and a rescan after a restart finds that log only, whose preimage hash is zero.
-/

namespace Boltz.Ethereum

open Async SwapUpdateEvent
open ConsolidatedEventHandler (LockupEventEntry)

namespace State

section Defs

variable (manager : EthereumManager) (s : State)

/-- The event of a commitment, with the preimage hash of its swap. -/
def isEventOf (c : Commitment) (preimageHash : Nat) (entry : LockupEventEntry SwapValues) : Bool :=
  entry.transactionHash == some c.transactionHash && entry.values.preimageHash == preimageHash &&
    manager.hashValues ⟨entry.name, entry.version⟩ { entry.values with preimageHash := 0 } ==
      c.lockupHash

def isEmitted (c : Commitment) (preimageHash : Nat) : Bool :=
  (s.past ++ s.delivered).any (isEventOf manager c preimageHash)

/-- In the queue of the event handler, or waiting for its lock. -/
def isQueued (c : Commitment) (preimageHash : Nat) : Bool :=
  (s.events.live.any fun pending => isEventOf manager c preimageHash pending.event) ||
    s.events.waiting.any fun
      | .handleEvent pending => isEventOf manager c preimageHash pending.event
      | .flushPendingEvents _ => false

def handedOver (c : Commitment) (preimageHash : Nat) : Bool :=
  s.isEmitted manager c preimageHash || s.isQueued manager c preimageHash

/-- The row that the running commit has stored. -/
def linking : Option Commitment :=
  match s.call with
  | some (.commit _ _ (.created _ c)) | some (.commit _ _ (.fetched _ c)) => some c
  | _ => none

def isOpen (row : UserSwap) : Bool := row.status == swapCreated || row.status == invoiceSet

structure AllOrNothing : Prop where
  /-- A commit that threw has left no row. -/
  thrown : ∀ number error hash id, .commitFailed number error ∈ s.history →
    .linked number hash id ∉ s.history
  handedOver : ∀ c ∈ s.commitments, c.refunded = false → ∀ id row, c.swapId = some id →
    s.swaps id = some row → isOpen row = true →
      s.handedOver manager c row.preimageHash = true ∨ s.linking = some c

/-- Commitments that are not refunded, of swaps whose lockup is not known. -/
def openCommitments : List (Commitment × UserSwap) :=
  s.commitments.filterMap fun c =>
    if c.refunded then none
    else ((c.swapId.bind s.swaps).filter isOpen).map fun row => (c, row)

/-- Nothing throws between the row and the event, the process stops only when the events of open
commitments were emitted, no such event is lost, and a swap gets no invoice while the event of its
commitment is missing. -/
def handsOver : Op → Bool
  | .fail => s.linking.isNone
  | .restart => s.openCommitments.all fun (c, row) => s.isEmitted manager c row.preimageHash
  | .events op =>
    (s.events.lostBy manager.requiredConfirmations op).all fun entry =>
      s.openCommitments.all fun (c, row) => !isEventOf manager c row.preimageHash entry
  | .setInvoice id _ _ =>
    (s.swaps id).all fun row => isOpen row || s.commitments.all fun c =>
      c.refunded || c.swapId != some id || s.handedOver manager c row.preimageHash
  | _ => true

end Defs

section Proofs

variable {manager : EthereumManager} {s s' : State} {op : Op} {c : Commitment} {row row' : UserSwap}
  {id hash : Nat} {entry : LockupEventEntry SwapValues}

/-! ## Events -/

theorem mem_delivered_iff : entry ∈ s.delivered ↔ s.events.Delivered entry := by
  unfold delivered ConsolidatedEventHandler.State.Delivered
  rw [List.mem_append, List.mem_filterMap, List.mem_map]
  refine or_congr ⟨?_, fun h => ⟨_, h, rfl⟩⟩ Iff.rfl
  rintro ⟨event, hin, hevent⟩
  cases event with
  | lockup other =>
    obtain rfl := Option.some.inj hevent
    exact hin
  | claim other => cases hevent

theorem isEmitted_iff : s.isEmitted manager c hash = true ↔
    ∃ entry, isEventOf manager c hash entry = true ∧
      (entry ∈ s.past ∨ s.events.Delivered entry) := by
  unfold isEmitted
  simp only [List.any_eq_true, List.mem_append, mem_delivered_iff]
  exact ⟨fun ⟨entry, hin, hevent⟩ => ⟨entry, hevent, hin⟩,
    fun ⟨entry, hevent, hin⟩ => ⟨entry, hin, hevent⟩⟩

theorem isQueued_iff : s.isQueued manager c hash = true ↔
    ∃ entry, isEventOf manager c hash entry = true ∧ s.events.Queued entry := by
  unfold isQueued ConsolidatedEventHandler.State.Queued
  rw [Bool.or_eq_true, List.any_eq_true, List.any_eq_true]
  constructor
  · rintro (⟨pending, hin, hevent⟩ | ⟨job, hin, hevent⟩)
    · exact ⟨_, hevent, .inl ⟨pending, hin, rfl⟩⟩
    · cases job with
      | handleEvent pending => exact ⟨_, hevent, .inr ⟨pending, hin, rfl⟩⟩
      | flushPendingEvents latest => cases hevent
  · rintro ⟨entry, hevent, ⟨pending, hin, rfl⟩ | ⟨pending, hin, rfl⟩⟩
    · exact .inl ⟨pending, hin, hevent⟩
    · exact .inr ⟨_, hin, hevent⟩

theorem handedOver_iff : s.handedOver manager c hash = true ↔
    ∃ entry, isEventOf manager c hash entry = true ∧
      (entry ∈ s.past ∨ s.events.Holds entry) := by
  unfold State.handedOver
  rw [Bool.or_eq_true, isEmitted_iff, isQueued_iff]
  constructor
  · rintro (⟨entry, hevent, hpast | hdelivered⟩ | ⟨entry, hevent, hqueued⟩)
    · exact ⟨entry, hevent, .inl hpast⟩
    · exact ⟨entry, hevent, .inr (.inl hdelivered)⟩
    · exact ⟨entry, hevent, .inr (.inr hqueued)⟩
  · rintro ⟨entry, hevent, hpast | hdelivered | hqueued⟩
    · exact .inl ⟨entry, hevent, .inl hpast⟩
    · exact .inl ⟨entry, hevent, .inr hdelivered⟩
    · exact .inr ⟨entry, hevent, hqueued⟩

/-! ## Open commitments -/

theorem mem_openCommitments (hmem : c ∈ s.commitments) (hrefunded : c.refunded = false)
    (hid : c.swapId = some id) (hrow : s.swaps id = some row) (hopen : isOpen row = true) :
    (c, row) ∈ s.openCommitments := by
  refine List.mem_filterMap.mpr ⟨c, hmem, ?_⟩
  rw [hrefunded, hid, Option.bind_some, hrow, Option.filter_some, if_pos hopen]
  rfl

theorem preimageHash_setLockup (incoming : LockupIdentity) (amount : Nat)
    (status : SwapUpdateEvent) (row : UserSwap) :
    (row.setLockup incoming amount status).2.preimageHash = row.preimageHash := by
  cases row with
  | submarine row =>
    simp only [UserSwap.setLockup, SwapRepository.lockupWrite]
    split <;> rfl
  | chain row =>
    simp only [UserSwap.setLockup, ChainSwapRepository.userLockupWrite]
    split <;> rfl

theorem RowStep.preimageHash (h : RowStep manager s op id row row') :
    row'.preimageHash = row.preimageHash := by
  cases h with
  | record _ _ _ => exact preimageHash_setLockup _ _ _ _
  | setStatus _ => cases row <;> rfl
  | storeResult _ _ _ => cases row <;> rfl
  | flag _ => cases row <;> rfl
  | _ => rfl

theorem status_setStatus (status : SwapUpdateEvent) (row : UserSwap) :
    (row.setStatus status).status = status := by
  cases row <;> rfl

/-- A swap that is open was open before, or gets its invoice. -/
theorem RowStep.isOpen (h : RowStep manager s op id row row') (hopen : State.isOpen row' = true) :
    State.isOpen row = true ∨
      ∃ invoice expectedAmount, op = .setInvoice id invoice expectedAmount := by
  have hclosed : ∀ {status : SwapUpdateEvent} {P : Prop}, row'.status = status →
      (status == swapCreated || status == invoiceSet) = false → P := by
    intro status P hstatus hnot
    unfold State.isOpen at hopen
    rw [hstatus, hnot] at hopen
    cases hopen
  cases h with
  | same => exact .inl hopen
  | setInvoice _ _ => exact .inr ⟨_, _, rfl⟩
  | setStatus hforeign =>
    refine hclosed (status_setStatus _ _) ?_
    unfold isForeign at hforeign
    simp only [List.contains_cons, Bool.not_eq_true', Bool.or_eq_false_iff] at hforeign
    simp [hforeign.1, hforeign.2.1]
  | record hget hcompeting howned =>
    rename_i valid task
    obtain ⟨-, -, -, -, hstatus | hstatus | hstatus⟩ := lockupWrite_keeps manager task valid row
    · unfold State.isOpen at hopen ⊢
      rw [hstatus] at hopen
      exact .inl hopen
    · exact hclosed hstatus (by decide)
    · exact hclosed hstatus (by decide)
  | pay _ _ =>
    have hnot : (invoicePending == swapCreated || invoicePending == invoiceSet) = false := by decide
    exact hclosed rfl hnot
  | storeResult _ _ hstatus =>
    rcases hstatus with rfl | rfl
    · exact hclosed (status_setStatus _ _) (by decide)
    · exact hclosed (status_setStatus _ _) (by decide)
  | serverLockup _ _ =>
    have hnot : (transactionServerMempool == swapCreated ||
        transactionServerMempool == invoiceSet) = false := by decide
    exact hclosed rfl hnot
  | flag _ => cases row <;> exact .inl hopen

/-! ## The invariant -/

/-- The swap as a commit has loaded it. -/
def Loads (s : State) (request : CommitRequest) (swap : UserSwap) : Prop :=
  ∃ row, s.swaps request.swapId = some row ∧ row.preimageHash = swap.preimageHash

def PhaseInv (manager : EthereumManager) (s : State) (request : CommitRequest) :
    CommitPhase → Prop
  | .begun => True
  | .loaded swap => s.Loads request swap
  | .found c => s.Loads request c.swap
  | .checked c commitment | .created c commitment | .fetched c commitment =>
    s.Loads request c.swap ∧ c.lockup.values.preimageHash = 0 ∧
      commitment = ⟨manager.hashValues c.contract c.lockup.values, some request.swapId,
        request.transactionHash, some request.signature, false⟩

/-- The number of the running commit, which has not thrown. -/
def CommitRunning (manager : EthereumManager) (s : State) : Option Call → Prop
  | some (.commit number request phase) =>
    number < s.commits ∧ (∀ error, .commitFailed number error ∉ s.history) ∧
      (CommitPhase.isCreated phase = false → ∀ lockupHash swapId,
        .linked number lockupHash swapId ∉ s.history) ∧ PhaseInv manager s request phase
  | _ => True

structure HandoverInv (manager : EthereumManager) (s : State) : Prop where
  alive : s.events.destroyed = false
  rows : ∀ c ∈ s.commitments, ∀ id, c.swapId = some id → ∃ row, s.swaps id = some row
  allOrNothing : AllOrNothing manager s
  failed_lt : ∀ number error, .commitFailed number error ∈ s.history → number < s.commits
  linked_lt : ∀ number lockupHash swapId, .linked number lockupHash swapId ∈ s.history →
    number < s.commits
  call : CommitRunning manager s s.call

/-! ## Events stay handed over -/

theorem linking_of_isCreated {number : Nat} {request : CommitRequest} {phase : CommitPhase}
    (hcall : s.call = some (.commit number request phase))
    (hphase : CommitPhase.isCreated phase = false) : s.linking = none := by
  unfold linking
  rw [hcall]
  cases phase with
  | created _ _ => cases hphase
  | fetched _ _ => cases hphase
  | _ => rfl

theorem linking_of_refund {request : RefundRequest} {phase : RefundPhase}
    (hcall : s.call = some (.refund request phase)) : s.linking = none := by
  unfold linking
  rw [hcall]

theorem linking_of_free (hcall : s.call = none) : s.linking = none := by
  unfold linking
  rw [hcall]

theorem handedOver_of_holds {s' : State}
    (hholds : ∀ entry, s.events.Holds entry → s'.events.Holds entry) (hpast : s'.past = s.past)
    (h : s.handedOver manager c hash = true) : s'.handedOver manager c hash = true := by
  obtain ⟨entry, hevent, hin⟩ := handedOver_iff.mp h
  refine handedOver_iff.mpr ⟨entry, hevent, ?_⟩
  rw [hpast]
  exact hin.imp_right (hholds entry)

/-- What is handed over is not lost. -/
theorem handedOver_of_effect (heffect : s.Effect manager op s')
    (hadmits : s.handsOver manager op = true)
    (hopen : (∃ row, (c, row) ∈ s.openCommitments ∧ row.preimageHash = hash) ∨
      ∃ id invoice expectedAmount, op = .setInvoice id invoice expectedAmount)
    (h : s.handedOver manager c hash = true) : s'.handedOver manager c hash = true := by
  cases heffect with
  | events hop hlive hstep =>
    obtain ⟨row, hrow, rfl⟩ | ⟨_, _, _, hset⟩ := hopen
    · obtain ⟨entry, hevent, hin⟩ := handedOver_iff.mp h
      refine handedOver_iff.mpr ⟨entry, hevent, hin.imp_right fun hholds => ?_⟩
      refine ConsolidatedEventHandler.State.holds_step hholds hstep hlive fun hlost => ?_
      simp only [handsOver, hlost, Option.all_some] at hadmits
      have hnot := List.all_eq_true.mp hadmits _ hrow
      simp only [hevent] at hnot
      cases hnot
    · cases hset
  | contractEvent _ _ => exact handedOver_of_holds (fun _ hholds => hholds.handleEvent _) rfl h
  | handOver _ => exact handedOver_of_holds (fun _ hholds => hholds.handleEvent _) rfl h
  | restart =>
    obtain ⟨row, hrow, rfl⟩ | ⟨_, _, _, hset⟩ := hopen
    · obtain ⟨entry, hevent, hin⟩ := isEmitted_iff.mp (List.all_eq_true.mp hadmits _ hrow)
      refine handedOver_iff.mpr ⟨entry, hevent, .inl (List.mem_append.mpr ?_)⟩
      exact hin.imp_right mem_delivered_iff.mpr
    · cases hset
  | _ => exact h

/-- The event of the running commit is its commitment's. -/
theorem isEventOf_commitEntry {request : CommitRequest} {cl : CommitLockup}
    (hphase : PhaseInv manager s request (.fetched cl c))
    (hrow : s.swaps request.swapId = some row) :
    isEventOf manager c row.preimageHash (commitEntry request cl) = true := by
  obtain ⟨⟨loaded, hloaded, hpreimage⟩, hzero, rfl⟩ := hphase
  obtain rfl := Option.some.inj (hloaded.symm.trans hrow)
  have hvalues : { (commitEntry request cl).values with preimageHash := 0 } =
      cl.lockup.values := by
    rw [← hzero]
    rfl
  unfold isEventOf
  rw [hvalues]
  simp [commitEntry, hpreimage]

/-! ## Steps -/

theorem destroyed_of_effect (heffect : s.Effect manager op s') :
    s'.events.destroyed = s.events.destroyed := by
  cases heffect with
  | events hop hlive hstep => exact ConsolidatedEventHandler.State.destroyed_step hstep hlive
  | contractEvent _ _ => exact ConsolidatedEventHandler.State.destroyed_handleEvent _
  | handOver _ => exact ConsolidatedEventHandler.State.destroyed_handleEvent _
  | _ => rfl

theorem commits_of_effect (heffect : s.Effect manager op s') : s.commits ≤ s'.commits := by
  cases heffect with
  | commit _ => exact Nat.le_succ _
  | _ => exact Nat.le_refl _

theorem row_kept (heffect : s.Effect manager op s') (hrow : s.swaps id = some row) :
    ∃ row', s'.swaps id = some row' ∧ row'.preimageHash = row.preimageHash := by
  obtain ⟨row', hrow', hstep⟩ := row_of_effect heffect hrow
  exact ⟨row', hrow', hstep.preimageHash⟩

theorem Loads.step {request : CommitRequest} {swap : UserSwap} (h : s.Loads request swap)
    (heffect : s.Effect manager op s') : s'.Loads request swap := by
  obtain ⟨row, hrow, hpreimage⟩ := h
  obtain ⟨row', hrow', hkept⟩ := row_kept heffect hrow
  exact ⟨row', hrow', hkept.trans hpreimage⟩

theorem PhaseInv.step {request : CommitRequest} {phase : CommitPhase}
    (h : PhaseInv manager s request phase) (heffect : s.Effect manager op s') :
    PhaseInv manager s' request phase := by
  cases phase with
  | begun => trivial
  | loaded swap => exact Loads.step h heffect
  | found cl => exact Loads.step h heffect
  | checked cl c => exact ⟨Loads.step h.1 heffect, h.2⟩
  | created cl c => exact ⟨Loads.step h.1 heffect, h.2⟩
  | fetched cl c => exact ⟨Loads.step h.1 heffect, h.2⟩

/-- A commit that waits while something else happens. -/
theorem CommitRunning.others {call : Option Call} (h : CommitRunning manager s call)
    (heffect : s.Effect manager op s')
    (hhistory : s'.history = s.history ∨ ∃ id lockup, s'.history = .acted id lockup :: s.history) :
    CommitRunning manager s' call := by
  have hin : ∀ e, (∀ id lockup, e ≠ .acted id lockup) → e ∈ s'.history → e ∈ s.history := by
    intro e hne he
    rcases hhistory with heq | ⟨id, lockup, heq⟩
    · exact heq ▸ he
    · rw [heq] at he
      exact (List.mem_cons.mp he).resolve_left (hne id lockup)
  rcases call with _ | (⟨number, request, phase⟩ | ⟨request, phase⟩)
  · trivial
  · obtain ⟨hlt, hfailed, hlinked, hphase⟩ := h
    refine ⟨lt_of_lt_of_le hlt (commits_of_effect heffect), fun error he => ?_,
      fun hnot lockupHash swapId he => ?_, hphase.step heffect⟩
    · exact hfailed error (hin _ (fun _ _ heq => nomatch heq) he)
    · exact hlinked hnot lockupHash swapId (hin _ (fun _ _ heq => nomatch heq) he)
  · trivial

theorem HandoverInv.call_step (h : HandoverInv manager s) (heffect : s.Effect manager op s') :
    CommitRunning manager s' s'.call := by
  have hsame : s'.call = s.call →
      (s'.history = s.history ∨ ∃ id lockup, s'.history = .acted id lockup :: s.history) →
      CommitRunning manager s' s'.call := fun hcall hhistory =>
    hcall ▸ h.call.others heffect hhistory
  have hcallinv := h.call
  cases heffect with
  | restart => trivial
  | startPayment _ _ _ _ => exact hsame rfl (.inr ⟨_, _, rfl⟩)
  | sendLockup _ _ _ => exact hsame rfl (.inr ⟨_, _, rfl⟩)
  | commit hfree =>
    refine ⟨Nat.lt_succ_self _, fun error he => ?_, fun _ lockupHash swapId he => ?_, trivial⟩
    · exact Nat.lt_irrefl _ (h.failed_lt _ _ he)
    · exact Nat.lt_irrefl _ (h.linked_lt _ _ _ he)
  | throwCommit _ _ => trivial
  | moveCommit hcall hmove =>
    rw [hcall] at hcallinv
    obtain ⟨hlt, hfailed, hlinked, hphase⟩ := hcallinv
    refine ⟨hlt, hfailed, fun hnot => hlinked ?_, ?_⟩
    · cases hmove with
      | fetched => cases hnot
      | _ => rfl
    · cases hmove with
      | loaded hrow => exact ⟨_, hrow, rfl⟩
      | found _ _ => exact hphase
      | checked hcheck =>
        obtain ⟨hcommitment, hzero, -⟩ := Commitments.of_checkCommit manager hcheck
        exact ⟨hphase, eq_of_beq hzero, hcommitment⟩
      | fetched => exact hphase
  | link hcall hcreate =>
    rw [hcall] at hcallinv
    obtain ⟨hlt, hfailed, -, hphase⟩ := hcallinv
    refine ⟨hlt, fun error he => ?_, fun hnot => (nomatch hnot), hphase⟩
    exact hfailed error ((List.mem_cons.mp he).resolve_left fun heq => nomatch heq)
  | handOver _ => trivial
  | refund _ => trivial
  | endRefund _ => trivial
  | moveRefund _ _ => trivial
  | flag _ _ => trivial
  | mark _ => trivial
  | sign _ => trivial
  | _ => exact hsame rfl (.inl rfl)

theorem HandoverInv.rows_step (h : HandoverInv manager s) (heffect : s.Effect manager op s') :
    ∀ c ∈ s'.commitments, ∀ id, c.swapId = some id → ∃ row, s'.swaps id = some row := by
  intro c hc id hid
  have hkept : (∃ row, s.swaps id = some row) → ∃ row, s'.swaps id = some row := by
    rintro ⟨row, hrow⟩
    obtain ⟨row', hrow', -⟩ := row_kept heffect hrow
    exact ⟨row', hrow'⟩
  refine hkept ?_
  have hrows := commitments_of_effect heffect
  generalize s'.commitments = commitments at hrows hc
  cases hrows with
  | same => exact h.rows c hc id hid
  | create hcall hcreate =>
    obtain ⟨rfl, -, -⟩ := create_eq_some hcreate
    rcases List.mem_append.mp hc with hc | hc
    · exact h.rows c hc id hid
    · obtain rfl := List.mem_singleton.mp hc
      have hcallinv := h.call
      rw [hcall] at hcallinv
      obtain ⟨-, -, -, ⟨row, hrow, -⟩, -, rfl⟩ := hcallinv
      obtain rfl := Option.some.inj hid
      exact ⟨row, hrow⟩
  | refunded hcall =>
    rcases markRefunded_cases _ _ with heq | ⟨lockupHash, -, heq⟩ <;> rw [heq] at hc
    · exact h.rows c hc id hid
    · rcases mem_markRefunded hc with ⟨hc, -⟩ | ⟨-, -, ⟨old, hold, -, hswap, -⟩ | ⟨hnone, -⟩⟩
      · exact h.rows c hc id hid
      · exact h.rows old hold id (hswap ▸ hid)
      · exact absurd (hnone.symm.trans hid) (Option.some_ne_none _).symm

/-- A commitment that is not refunded was there before, or is of the running commit. -/
theorem unrefunded_of_effect (heffect : s.Effect manager op s') (hc : c ∈ s'.commitments)
    (hrefunded : c.refunded = false) : c ∈ s.commitments ∨ s'.linking = some c := by
  cases heffect with
  | link hcall hcreate =>
    obtain ⟨rfl, -, -⟩ := create_eq_some hcreate
    rcases List.mem_append.mp hc with hc | hc
    · exact .inl hc
    · obtain rfl := List.mem_singleton.mp hc
      exact .inr rfl
  | mark hcall =>
    simp only at hc
    rcases markRefunded_cases _ _ with heq | ⟨lockupHash, -, heq⟩ <;> rw [heq] at hc
    · exact .inl hc
    · rcases mem_markRefunded hc with ⟨hc, -⟩ | ⟨-, htrue, -⟩
      · exact .inl hc
      · exact absurd (hrefunded.symm.trans htrue) Bool.false_ne_true
  | _ => exact .inl hc

theorem HandoverInv.thrown_step (h : HandoverInv manager s) (heffect : s.Effect manager op s')
    (hadmits : s.handsOver manager op = true) (number : Nat) (error : Option CommitError)
    (lockupHash swapId : Nat) (hfailed : .commitFailed number error ∈ s'.history) :
    .linked number lockupHash swapId ∉ s'.history := by
  intro hlinked
  rcases history_of_effect heffect with heq | ⟨e, heq, hrec⟩ <;> rw [heq] at hfailed hlinked
  · exact h.allOrNothing.thrown _ _ _ _ hfailed hlinked
  have hcallinv := h.call
  rcases List.mem_cons.mp hfailed with rfl | hfailedOld
  · have hlinked := (List.mem_cons.mp hlinked).resolve_left fun heq => nomatch heq
    cases hrec with
    | commitFailed hcall hphase =>
      rw [hcall] at hcallinv
      refine hcallinv.2.2.1 ?_ _ _ hlinked
      rcases hphase with rfl | hphase
      · have hnone : s.linking = none := Option.isNone_iff_eq_none.mp hadmits
        rename_i request phase
        cases phase with
        | created _ _ => simp [linking, hcall] at hnone
        | fetched _ _ => simp [linking, hcall] at hnone
        | _ => rfl
      · exact hphase
  · rcases List.mem_cons.mp hlinked with rfl | hlinked
    · cases hrec with
      | linked hcall hcreate =>
        rw [hcall] at hcallinv
        exact hcallinv.2.1 _ hfailedOld
    · exact h.allOrNothing.thrown _ _ _ _ hfailedOld hlinked

/-- The numbers of the history are of commits that have started. -/
theorem HandoverInv.number_lt (h : HandoverInv manager s) (heffect : s.Effect manager op s')
    {e : HistoryEvent} {number : Nat} (he : e ∈ s'.history)
    (hnumber : (∃ error, e = .commitFailed number error) ∨
      ∃ lockupHash swapId, e = .linked number lockupHash swapId) : number < s'.commits := by
  have hle := commits_of_effect heffect
  have hold : e ∈ s.history → number < s'.commits := by
    intro he
    rcases hnumber with ⟨error, rfl⟩ | ⟨lockupHash, swapId, rfl⟩
    · exact lt_of_lt_of_le (h.failed_lt _ _ he) hle
    · exact lt_of_lt_of_le (h.linked_lt _ _ _ he) hle
  have hcallinv := h.call
  rcases history_of_effect heffect with heq | ⟨new, heq, hrec⟩ <;> rw [heq] at he
  · exact hold he
  rcases List.mem_cons.mp he with rfl | he
  · rcases hnumber with ⟨error, rfl⟩ | ⟨lockupHash, swapId, rfl⟩
    · cases hrec with
      | commitFailed hcall _ =>
        rw [hcall] at hcallinv
        exact lt_of_lt_of_le hcallinv.1 hle
    · cases hrec with
      | linked hcall _ =>
        rw [hcall] at hcallinv
        exact lt_of_lt_of_le hcallinv.1 hle
  · exact hold he

/-- The commitment of the running commit stays that, or its event is handed over. -/
theorem HandoverInv.linking_step (h : HandoverInv manager s) (heffect : s.Effect manager op s')
    (hadmits : s.handsOver manager op = true) (hlinking : s.linking = some c)
    (hopen : op = .restart → (c, row) ∈ s.openCommitments)
    (hid : c.swapId = some id) (hrow : s.swaps id = some row) :
    s'.handedOver manager c row.preimageHash = true ∨ s'.linking = some c := by
  have hnot : s.linking ≠ none := fun hnone => nomatch hnone.symm.trans hlinking
  have hcallinv := h.call
  cases heffect with
  | restart =>
    refine .inl ?_
    obtain ⟨entry, hevent, hin⟩ :=
      isEmitted_iff.mp (List.all_eq_true.mp hadmits _ (hopen rfl))
    refine handedOver_iff.mpr ⟨entry, hevent, .inl (List.mem_append.mpr ?_)⟩
    exact hin.imp_right mem_delivered_iff.mpr
  | commit hfree => exact absurd (linking_of_free hfree) hnot
  | throwCommit hcall hphase =>
    rcases hphase with rfl | hphase
    · exact absurd (Option.isNone_iff_eq_none.mp hadmits) hnot
    · exact absurd (linking_of_isCreated hcall hphase) hnot
  | moveCommit hcall hmove =>
    cases hmove with
    | fetched =>
      refine .inr ?_
      simp only [linking, hcall] at hlinking
      exact hlinking
    | _ => exact absurd (linking_of_isCreated hcall rfl) hnot
  | link hcall _ => exact absurd (linking_of_isCreated hcall rfl) hnot
  | handOver hcall =>
    refine .inl ?_
    rw [hcall] at hcallinv
    simp only [linking, hcall, Option.some.injEq] at hlinking
    subst hlinking
    obtain ⟨-, -, -, hphase⟩ := hcallinv
    have hswap := hphase.2.2
    rw [hswap] at hid
    obtain rfl := Option.some.inj hid
    exact handedOver_iff.mpr ⟨_, isEventOf_commitEntry hphase hrow,
      .inr (ConsolidatedEventHandler.State.holds_handleEvent h.alive rfl)⟩
  | refund hfree => exact absurd (linking_of_free hfree) hnot
  | endRefund hcall => exact absurd (linking_of_refund hcall) hnot
  | moveRefund hcall _ => exact absurd (linking_of_refund hcall) hnot
  | flag hcall _ => exact absurd (linking_of_refund hcall) hnot
  | mark hcall => exact absurd (linking_of_refund hcall) hnot
  | sign hcall => exact absurd (linking_of_refund hcall) hnot
  | _ => exact .inr hlinking

theorem HandoverInv.handed_step (h : HandoverInv manager s) (heffect : s.Effect manager op s')
    (hadmits : s.handsOver manager op = true) (hc : c ∈ s'.commitments)
    (hrefunded : c.refunded = false) (hid : c.swapId = some id) (hrow' : s'.swaps id = some row')
    (hopen' : isOpen row' = true) :
    s'.handedOver manager c row'.preimageHash = true ∨ s'.linking = some c := by
  rcases unrefunded_of_effect heffect hc hrefunded with hmem | hlinking
  swap
  · exact .inr hlinking
  obtain ⟨row, hrow⟩ := h.rows c hmem id hid
  obtain ⟨next, hnext, hstep⟩ := row_of_effect heffect hrow
  obtain rfl := Option.some.inj (hnext.symm.trans hrow')
  rw [hstep.preimageHash]
  by_cases hopen : isOpen row = true
  · have hmemOpen := mem_openCommitments hmem hrefunded hid hrow hopen
    rcases h.allOrNothing.handedOver c hmem hrefunded id row hid hrow hopen with hheld | hlinking
    · exact .inl (handedOver_of_effect heffect hadmits (.inl ⟨row, hmemOpen, rfl⟩) hheld)
    · exact h.linking_step heffect hadmits hlinking (fun _ => hmemOpen) hid hrow
  · -- the swap gets its invoice, so the event is not missing
    obtain ⟨invoice, expectedAmount, rfl⟩ := (hstep.isOpen hopen').resolve_left hopen
    simp only [handsOver, hrow, Option.all_some, Bool.or_eq_true, hopen, Bool.false_eq_true,
      false_or] at hadmits
    have hheld := List.all_eq_true.mp hadmits c hmem
    simp only [hrefunded, hid, bne_self_eq_false, Bool.false_or] at hheld
    exact .inl (handedOver_of_effect heffect (by simp [handsOver, hrow, hadmits])
      (.inr ⟨_, _, _, rfl⟩) hheld)

theorem handoverInv_step (s : State) (op : Op) (s' : State) (h : HandoverInv manager s)
    (hadmits : s.handsOver manager op = true) (hstep : s.step manager op = some s') :
    HandoverInv manager s' := by
  have heffect := effect_of_step hstep
  exact
    { alive := (destroyed_of_effect heffect).trans h.alive
      rows := h.rows_step heffect
      allOrNothing :=
        { thrown := h.thrown_step heffect hadmits
          handedOver := fun c hc hrefunded id row hid hrow hopen =>
            h.handed_step heffect hadmits hc hrefunded hid hrow hopen }
      failed_lt := fun number error he => h.number_lt heffect he (.inl ⟨error, rfl⟩)
      linked_lt := fun number lockupHash swapId he =>
        h.number_lt heffect he (.inr ⟨lockupHash, swapId, rfl⟩)
      call := h.call_step heffect }

/-- When nothing fails between the row and the event, and no event of an open commitment is lost, a
commit is all or nothing. -/
theorem commits_all_or_nothing (manager : EthereumManager) (time height : Nat)
    (receipts : Nat → Option (ConsolidatedEventHandler.Receipt SwapValues)) (ops : List Op)
    (s : State)
    (hrun : runFrom (step manager) (handsOver manager) (start time height receipts) ops =
      some s) : AllOrNothing manager s := by
  have hstart : HandoverInv manager (start time height receipts) :=
    ⟨rfl, nofun, ⟨nofun, nofun⟩, nofun, nofun, trivial⟩
  exact (invariant_of_runFrom handoverInv_step hstart hrun).allOrNothing

end Proofs

/-! ## Commits whose event is lost -/

section Examples

/-- Events are queued for a second confirmation. -/
def queueingManager : EthereumManager := { exampleManager with requiredConfirmations := 2 }

theorem committed_all_or_nothing : ∃ s,
    runFrom (step queueingManager) (handsOver queueingManager) (start 0 10 lockedIn11)
        committedRun = some s ∧ AllOrNothing queueingManager s := by
  have hrun : (runFrom (step queueingManager) (handsOver queueingManager) (start 0 10 lockedIn11)
      committedRun).isSome = true := by decide +kernel
  obtain ⟨s, hs⟩ := Option.isSome_iff_exists.mp hrun
  exact ⟨s, hs, commits_all_or_nothing queueingManager 0 10 lockedIn11 _ s hs⟩

/-- The transaction is not found after the row was stored. -/
def failingCommit : List Op :=
  [.createSwap 1 createdSwap, .setInvoice 1 70 100000, .commit commitTo11] ++
    List.replicate 4 .advance ++ [.fail]

/-- The log of the lockup is queued when the event of the commit is handed in. -/
def queuedCommit : List Op :=
  [.contractEvent 11 0, .events (.acquire 0)] ++ committedRun ++ [.events (.acquire 0)]

/-- The process stops while the event is queued, and the rescan finds the log. -/
def restartedCommit : List Op :=
  committedRun ++ [.events (.acquire 0), .restart, .contractEvent 11 0, .events (.acquire 0)]

/-- Whether a commitment of an open swap is neither handed over nor of a running commit. -/
def isForgotten (manager : EthereumManager) (s : State) : Bool :=
  s.openCommitments.any fun (c, row) =>
    !s.handedOver manager c row.preimageHash && s.linking.isNone

theorem not_allOrNothing_of_isForgotten {manager : EthereumManager} {s : State}
    (h : s.isForgotten manager = true) : ¬ AllOrNothing manager s := by
  intro hall
  obtain ⟨⟨c, row⟩, hmem, hlost⟩ := List.any_eq_true.mp h
  rw [Bool.and_eq_true, Bool.not_eq_true', Option.isNone_iff_eq_none] at hlost
  obtain ⟨c', hc, hopen⟩ := List.mem_filterMap.mp hmem
  split at hopen
  · cases hopen
  · rename_i hrefunded
    obtain ⟨row', hrow, heq⟩ := Option.map_eq_some_iff.mp hopen
    obtain ⟨rfl, rfl⟩ := Prod.mk.inj heq
    obtain ⟨hrow, hstatus⟩ := Option.filter_eq_some_iff.mp hrow
    obtain ⟨id, hid, hrow⟩ := Option.bind_eq_some_iff.mp hrow
    rcases hall.handedOver c' hc (Bool.not_eq_true _ ▸ hrefunded) id row' hid hrow hstatus with
      hheld | hlinking
    · exact absurd (hlost.1.symm.trans hheld) Bool.false_ne_true
    · exact absurd (hlost.2.symm.trans hlinking) (Option.some_ne_none _).symm

/-- The row of a commit that threw is left, and the events of two others are neither emitted nor
queued. -/
theorem commits_not_all_or_nothing :
    (∃ s, runFrom (step queueingManager) (fun _ _ => true) (start 0 10 lockedIn11)
      failingCommit = some s ∧ ¬ AllOrNothing queueingManager s) ∧
    (∃ s, runFrom (step queueingManager) (fun _ _ => true) (start 0 10 lockedIn11)
      queuedCommit = some s ∧ ¬ AllOrNothing queueingManager s) ∧
    ∃ s, runFrom (step queueingManager) (fun _ _ => true) (start 0 10 lockedIn11)
      restartedCommit = some s ∧ ¬ AllOrNothing queueingManager s := by
  have hfailing : (runFrom (step queueingManager) (fun _ _ => true) (start 0 10 lockedIn11)
      failingCommit).map (·.history) =
        some [.commitFailed 0 none, .linked 0 (10 ^ 15 + 200) 1] := by decide +kernel
  have hforgotten : ∀ ops ∈ [queuedCommit, restartedCommit],
      (runFrom (step queueingManager) (fun _ _ => true) (start 0 10 lockedIn11) ops).map
        (isForgotten queueingManager) = some true := by decide +kernel
  refine ⟨?_, ?_, ?_⟩
  · obtain ⟨s, hs, hhistory⟩ := Option.map_eq_some_iff.mp hfailing
    refine ⟨s, hs, fun h => ?_⟩
    have hnot := h.thrown 0 none (10 ^ 15 + 200) 1
    rw [hhistory] at hnot
    exact hnot List.mem_cons_self (List.mem_cons_of_mem _ List.mem_cons_self)
  · obtain ⟨s, hs, hlost⟩ := Option.map_eq_some_iff.mp (hforgotten _ List.mem_cons_self)
    exact ⟨s, hs, not_allOrNothing_of_isForgotten hlost⟩
  · obtain ⟨s, hs, hlost⟩ := Option.map_eq_some_iff.mp
      (hforgotten _ (List.mem_cons_of_mem _ List.mem_cons_self))
    exact ⟨s, hs, not_allOrNothing_of_isForgotten hlost⟩

end Examples

end State

end Boltz.Ethereum

import Boltz.Ethereum.CommitmentSteps

/-!
# Commitment lockups are used once

The lock of the refund signatures keeps commits and signatures apart, but the nurseries do not take
it: a handler that read a swap before its refund signature was stored still pays it.
-/

namespace Boltz.Ethereum

open Async SwapUpdateEvent

namespace State

variable (manager : EthereumManager) (s : State)

def statusFailed (id : Nat) : Bool :=
  (s.swaps id).any fun row => failedSwapUpdateEvents.contains row.status

/-- The server locked up, and its refund transaction is not confirmed. -/
def refundOpen (id : Nat) : Bool :=
  (s.swaps id).any (·.serverLocked) && (s.refunds id).any (· != .confirmed)

/-- A failed swap stays failed, no payment of it is started, and no refund transaction added. -/
def keepsEligible (s s' : State) (id : Nat) : Bool :=
  (!s.statusFailed id || s'.statusFailed id) && (s.paymentOpen id || !s'.paymentOpen id) &&
    (s.refundOpen id || !s'.refundOpen id)

/-- The swap whose row the running call read. -/
def signing : Option Nat :=
  match s.call with
  | some (.refund _ phase) => phase.swapId
  | _ => none

/-- The swap whose refund signature is stored next. -/
def flags : Option Nat :=
  match s.call with
  | some (.refund _ (.ready id _)) => id
  | _ => none

/-- No handler is between its read of the row and its end. -/
def idle (id : Nat) : Bool := s.handlers.all fun h => h.id != id || !h.phase.pastRead

/-- A swap stays eligible from the look of a signing call at it to the end of the call, and its
refund signature is stored when no handler is at work on it. -/
def exclusive (op : Op) : Bool :=
  (match s.signing, s.step manager op with
    | some id, some s' => s.keepsEligible s' id
    | _, _ => true) &&
  match op, s.flags with
  | .advance, some id => s.idle id
  | _, _ => true

section Proofs

variable {manager : EthereumManager} {s s' : State} {op : Op} {id : Nat} {row row' : UserSwap}

theorem keepsEligible_iff : s.keepsEligible s' id = true ↔
    (s.statusFailed id = true → s'.statusFailed id = true) ∧
      (s.paymentOpen id = false → s'.paymentOpen id = false) ∧
        (s.refundOpen id = false → s'.refundOpen id = false) := by
  unfold keepsEligible
  cases s.statusFailed id <;> cases s'.statusFailed id <;> cases s.paymentOpen id <;>
    cases s'.paymentOpen id <;> cases s.refundOpen id <;> cases s'.refundOpen id <;> decide

theorem exclusive_signing (h : s.exclusive manager op = true) (hstep : s.step manager op = some s')
    (hid : s.signing = some id) : s.keepsEligible s' id = true := by
  unfold exclusive at h
  rw [hid, hstep, Bool.and_eq_true] at h
  exact h.1

theorem exclusive_flags (h : s.exclusive manager .advance = true) (hid : s.flags = some id) :
    s.idle id = true := by
  unfold exclusive at h
  rw [hid, Bool.and_eq_true] at h
  exact h.2

theorem of_idle (h : s.idle id = true) {handler : Handler} (hmem : handler ∈ s.handlers)
    (hid : handler.id = id) : handler.phase.pastRead = false := by
  have hh := List.all_eq_true.mp h handler hmem
  simpa [hid] using hh

theorem idle_of (h : ∀ handler ∈ s.handlers, handler.id = id → handler.phase.pastRead = false) :
    s.idle id = true := by
  refine List.all_eq_true.mpr fun handler hmem => ?_
  by_cases hid : handler.id = id
  · simp [h handler hmem hid]
  · simp [hid]

/-! ## Rows -/

theorem RowStep.serverLocked (h : RowStep manager s op id row row') :
    row'.serverLocked = row.serverLocked ∨ row'.status = transactionServerMempool := by
  cases h with
  | record hget hcompeting howned =>
    obtain ⟨-, -, hserver, -⟩ := lockupWrite_keeps manager _ _ row
    exact .inl hserver
  | setStatus _ => cases row <;> exact .inl rfl
  | storeResult _ _ _ => cases row <;> exact .inl rfl
  | flag _ => cases row <;> exact .inl rfl
  | serverLockup _ _ => exact .inr rfl
  | _ => exact .inl rfl

/-! ## Swaps that are not paid any more -/

structure Quiet (s : State) (id : Nat) : Prop where
  row : ∃ row, s.swaps id = some row ∧ row.createdRefundSignature = true ∧
    row.status ≠ invoicePending ∧ row.status ≠ invoicePaid
  idle : s.idle id = true

theorem RowStep.quiet (h : RowStep manager s op id row row') (hidle : s.idle id = true)
    (hflag : row.createdRefundSignature = true)
    (hstatus : row.status ≠ invoicePending ∧ row.status ≠ invoicePaid) :
    row'.createdRefundSignature = true ∧ row'.status ≠ invoicePending ∧
      row'.status ≠ invoicePaid := by
  cases h with
  | same => exact ⟨hflag, hstatus⟩
  | setInvoice hunflagged _ => exact absurd (hunflagged.symm.trans hflag) Bool.false_ne_true
  | setStatus hforeign => cases row <;> exact ⟨hflag, ne_of_isForeign hforeign⟩
  | record hget hcompeting howned =>
    obtain ⟨-, -, -, hflag', hcases⟩ := lockupWrite_keeps manager _ _ row
    refine ⟨hflag'.trans hflag, ?_⟩
    rcases hcases with h | h | h <;> rw [h]
    · exact hstatus
    · decide
    · decide
  | pay hget hphase =>
    have hpast := of_idle hidle (List.mem_of_getElem? hget) rfl
    rw [hphase] at hpast
    exact absurd hpast.symm Bool.false_ne_true
  | storeResult hget hphase _ =>
    have hpast := of_idle hidle (List.mem_of_getElem? hget) rfl
    rw [hphase] at hpast
    exact absurd hpast.symm Bool.false_ne_true
  | serverLockup hget hphase =>
    have hpast := of_idle hidle (List.mem_of_getElem? hget) rfl
    rw [hphase] at hpast
    exact absurd hpast.symm Bool.false_ne_true
  | flag _ => cases row <;> exact ⟨rfl, hstatus⟩

/-- A handler that moves on after the refund signature was stored does not get past its read. -/
theorem Moves.not_pastRead {h : Handler} {phase : HandlerPhase} (hmove : s.Moves h phase)
    (hrow : s.swaps h.id = some row) (hflag : row.createdRefundSignature = true)
    (hstatus : row.status ≠ invoicePending ∧ row.status ≠ invoicePaid)
    (hpast : h.phase.pastRead = false) : phase.pastRead = false := by
  cases hmove with
  | approved _ _ _ => rfl
  | locked hrow' _ hlockable =>
    obtain rfl := Option.some.inj (hrow.symm.trans hrow')
    simp only [isLockable, Bool.and_eq_true, Bool.not_eq_true'] at hlockable
    exact absurd (hlockable.1.1.2.symm.trans hflag) Bool.false_ne_true
  | fetched hrow' _ hpayable =>
    obtain rfl := Option.some.inj (hrow.symm.trans hrow')
    unfold isPayable at hpayable
    split at hpayable
    · simp only [Bool.and_eq_true, Bool.not_eq_true'] at hpayable
      exact absurd (hpayable.2.symm.trans hflag) Bool.false_ne_true
    · simp only [List.contains_iff_mem, List.mem_cons, List.not_mem_nil, or_false] at hpayable
      rcases hpayable with h | h
      · exact absurd h hstatus.1
      · exact absurd h hstatus.2
  | settling _ hphase =>
    rw [hphase] at hpast
    exact absurd hpast.symm Bool.false_ne_true
  | pending _ hphase =>
    rw [hphase] at hpast
    exact absurd hpast.symm Bool.false_ne_true
  | sent _ hphase _ =>
    rw [hphase] at hpast
    exact absurd hpast.symm Bool.false_ne_true

theorem Quiet.step (h : Quiet s id) (heffect : s.Effect manager op s') : Quiet s' id := by
  obtain ⟨row, hrow, hflag, hstatus⟩ := h.row
  obtain ⟨row', hrow', hstep⟩ := row_of_effect heffect hrow
  refine ⟨⟨row', hrow', hstep.quiet h.idle hflag hstatus⟩, idle_of fun handler hmem hid => ?_⟩
  have hread : ∀ old ∈ s.handlers, old.id = id → old.phase.pastRead = false :=
    fun old hold hoid => of_idle h.idle hold hoid
  cases handler_of_effect heffect hmem with
  | kept hmem => exact hread _ hmem hid
  | waiting _ => rfl
  | settles hrow₁ _ hunflagged =>
    obtain rfl : _ = id := hid
    obtain rfl := Option.some.inj (hrow.symm.trans hrow₁)
    exact absurd (hunflagged.symm.trans hflag) Bool.false_ne_true
  | moved hold hmove =>
    obtain rfl : _ = id := hid
    exact hmove.not_pastRead hrow hflag hstatus (hread _ hold rfl)
  | pending hold hphase =>
    have hpast := hread _ hold hid
    rw [hphase] at hpast
    exact absurd hpast.symm Bool.false_ne_true
  | sent hold hpast => exact absurd ((hread _ hold hid).symm.trans hpast) Bool.false_ne_true

/-! ## Eligible swaps -/

/-- The swap of a signing call, from its check on. -/
structure Eligible (s : State) (id : Nat) : Prop where
  row : ∃ row, s.swaps id = some row ∧ row.version = .taproot ∧
    (row.type = .submarine → s.paymentOpen id = false)
  failed : s.statusFailed id = true
  refund : s.refundOpen id = false

/-- The swap of a signing call between its read and its check. -/
def Loaded (s : State) (id : Nat) (swap : UserSwap) : Prop :=
  ∃ row, s.swaps id = some row ∧ row.version = swap.version ∧ row.type = swap.type ∧
    (failedSwapUpdateEvents.contains swap.status = true →
      s.statusFailed id = true ∧ row.serverLocked = swap.serverLocked)

theorem statusFailed_of (hrow : s.swaps id = some row) :
    s.statusFailed id = failedSwapUpdateEvents.contains row.status := by
  simp [statusFailed, hrow]

theorem Eligible.reason (h : Eligible s id) : s.refundNonEligibilityReason id = none := by
  obtain ⟨row, hrow, hversion, hpayment⟩ := h.row
  have hfailed := h.failed
  have hrefund := h.refund
  rw [statusFailed_of hrow] at hfailed
  simp only [refundOpen, hrow, Option.any_some] at hrefund
  simp only [refundNonEligibilityReason, hrow, Option.bind_some,
    UserSwap.refundNonEligibilityReason, hversion, ne_eq, not_true_eq_false, if_false, hfailed,
    Bool.not_true, Bool.false_eq_true, hrefund]
  by_cases htype : row.type = .submarine
  · simp [htype, hpayment htype]
  · simp [htype]

theorem of_reason_none {swap : UserSwap} {open_ : Bool} {refund : Option RefundStatus}
    (h : swap.refundNonEligibilityReason open_ refund = none) :
    swap.version = .taproot ∧ failedSwapUpdateEvents.contains swap.status = true ∧
      (swap.type = .submarine → open_ = false) ∧
        (swap.serverLocked && refund.any (· != .confirmed)) = false := by
  unfold UserSwap.refundNonEligibilityReason at h
  split at h
  · exact absurd h (by simp)
  rename_i hversion
  split at h
  · exact absurd h (by simp)
  rename_i hfailed
  split at h
  · exact absurd h (by simp)
  rename_i hpayment
  split at h
  · exact absurd h (by simp)
  rename_i hrefund
  refine ⟨not_not.mp hversion, by simpa using hfailed, fun htype => ?_, by simpa using hrefund⟩
  simpa [htype] using hpayment

theorem Loaded.eligible {swap : UserSwap} (h : Loaded s id swap)
    (hreason : swap.refundNonEligibilityReason (s.paymentOpen id) (s.refunds id) = none) :
    Eligible s id := by
  obtain ⟨row, hrow, hversion, htype, hkept⟩ := h
  obtain ⟨htaproot, hfailed, hpayment, hrefund⟩ := of_reason_none hreason
  obtain ⟨hstatus, hserver⟩ := hkept hfailed
  refine ⟨⟨row, hrow, hversion.trans htaproot, fun h => hpayment (htype.symm.trans h)⟩, hstatus, ?_⟩
  simp only [refundOpen, hrow, Option.any_some]
  rw [hserver]
  exact hrefund

theorem Eligible.step (h : Eligible s id) (heffect : s.Effect manager op s')
    (hkeep : s.keepsEligible s' id = true) : Eligible s' id := by
  obtain ⟨hfailed, hpayment, hrefund⟩ := keepsEligible_iff.mp hkeep
  obtain ⟨row, hrow, hversion, hpaid⟩ := h.row
  obtain ⟨row', hrow', hstep⟩ := row_of_effect heffect hrow
  obtain ⟨htype, hversion'⟩ := hstep.kind
  exact ⟨⟨row', hrow', hversion'.trans hversion, fun h => hpayment (hpaid (htype.symm.trans h))⟩,
    hfailed h.failed, hrefund h.refund⟩

theorem Loaded.step {swap : UserSwap} (h : Loaded s id swap) (heffect : s.Effect manager op s')
    (hkeep : s.keepsEligible s' id = true) : Loaded s' id swap := by
  obtain ⟨hfailed, -, -⟩ := keepsEligible_iff.mp hkeep
  obtain ⟨row, hrow, hversion, htype, hkept⟩ := h
  obtain ⟨row', hrow', hstep⟩ := row_of_effect heffect hrow
  obtain ⟨htype', hversion'⟩ := hstep.kind
  refine ⟨row', hrow', hversion'.trans hversion, htype'.trans htype, fun hfail => ?_⟩
  obtain ⟨hstatus, hserver⟩ := hkept hfail
  have hstatus' := hfailed hstatus
  refine ⟨hstatus', ?_⟩
  rcases hstep.serverLocked with heq | hmempool
  · exact heq.trans hserver
  · rw [statusFailed_of hrow', hmempool] at hstatus'
    exact absurd hstatus' (by decide)

/-! ## Calls -/

/-- The row of the lockup hash that a call signs for, with its swap. -/
def Known (manager : EthereumManager) (s : State) (request : RefundRequest)
    (target : RefundTarget) : Prop :=
  ∀ hash, (s.refundedLockup manager request target).1 = some hash →
    ∃ c ∈ s.commitments, c.lockupHash = hash ∧
      c.swapId = (s.refundedLockup manager request target).2

def RefundInv (manager : EthereumManager) (s : State) (request : RefundRequest) :
    RefundPhase → Prop
  | .begun | .found _ => True
  | .loaded id swap target => Loaded s id swap ∧
      match target with
      | some target => (s.refundedLockup manager request target).2 = some id
      | none => request = .swap id
  | .eligible id _ => Eligible s id ∧ request = .swap id
  | .ready id target => (s.refundedLockup manager request target).2 = id ∧
      ∀ i, id = some i → Eligible s i
  | .flagged id target => (s.refundedLockup manager request target).2 = id ∧
      (∀ i, id = some i → Eligible s i ∧ Quiet s i)
  | .marked id target => (s.refundedLockup manager request target).2 = id ∧
      (∀ i, id = some i → Eligible s i ∧ Quiet s i) ∧ Known manager s request target

/-- The row is for the swap of the request. No refund was signed for the lockup hash of a commit that
stored its row. -/
def CommitInv (s : State) (request : CommitRequest) : CommitPhase → Prop
  | .checked _ commitment => commitment.swapId = some request.swapId
  | .created _ commitment | .fetched _ commitment =>
    ∀ swapId reason, .refundSigned (some commitment.lockupHash) swapId reason ∉ s.history
  | _ => True

def CallInv (manager : EthereumManager) (s : State) : Prop :=
  match s.call with
  | none => True
  | some (.commit _ request phase) => CommitInv s request phase
  | some (.refund request phase) => RefundInv manager s request phase

/-- Which events may come after `e`. -/
def MayFollow (later e : HistoryEvent) : Prop :=
  match e with
  | .linked _ hash _ => ∀ number id, later ≠ .linked number hash id
  | .refundSigned (some hash) swapId _ =>
    (∀ number id, later ≠ .linked number hash id ∧ later ≠ .committed number hash id) ∧
      ∀ id lockup, swapId = some id → later ≠ .acted id lockup
  | _ => True

structure UseInv (manager : EthereumManager) (s : State) : Prop where
  unique : UniqueRows s.commitments
  linked : ∀ number hash id, .linked number hash id ∈ s.history →
    ∃ c ∈ s.commitments, c.lockupHash = hash ∧ c.swapId = some id
  known : ∀ hash swapId reason, .refundSigned (some hash) swapId reason ∈ s.history →
    ∃ c ∈ s.commitments, c.lockupHash = hash ∧ c.swapId = swapId
  quiet : ∀ hash id reason, .refundSigned hash (some id) reason ∈ s.history →
    Quiet s id ∧ reason = none
  ordered : s.history.Pairwise MayFollow
  call : CallInv manager s

theorem refundedLockup_congr (manager : EthereumManager) (hcommitments : s'.commitments = s.commitments)
    (request : RefundRequest) (target : RefundTarget) :
    s'.refundedLockup manager request target = s.refundedLockup manager request target := by
  simp only [refundedLockup, hcommitments]

theorem Eligible.frame (h : Eligible s id) (hswaps : s'.swaps = s.swaps)
    (hpayments : s'.payments = s.payments) (hrefunds : s'.refunds = s.refunds) :
    Eligible s' id := by
  obtain ⟨hrow, hfailed, hrefund⟩ := h
  refine ⟨?_, ?_, ?_⟩
  · simpa only [hswaps, paymentOpen, hpayments] using hrow
  · simpa only [statusFailed, hswaps] using hfailed
  · simpa only [refundOpen, hswaps, hrefunds] using hrefund

theorem Quiet.frame (h : Quiet s id) (hswaps : s'.swaps = s.swaps)
    (hhandlers : s'.handlers = s.handlers) : Quiet s' id :=
  ⟨by simpa only [hswaps] using h.row, by simpa only [State.idle, hhandlers] using h.idle⟩

/-- What a running call knows survives the steps of the others. -/
theorem RefundInv.step {request : RefundRequest} {phase : RefundPhase}
    (h : RefundInv manager s request phase) (heffect : s.Effect manager op s')
    (hkeep : ∀ id, phase.swapId = some id → s.keepsEligible s' id = true)
    (hcommitments : s'.commitments = s.commitments) : RefundInv manager s' request phase := by
  have hcongr := refundedLockup_congr manager hcommitments request
  cases phase with
  | begun => trivial
  | found target => trivial
  | loaded id swap target =>
    refine ⟨h.1.step heffect (hkeep id rfl), ?_⟩
    cases target with
    | some target => exact (congrArg Prod.snd (hcongr target)).trans h.2
    | none => exact h.2
  | eligible id swap => exact ⟨h.1.step heffect (hkeep id rfl), h.2⟩
  | ready id target =>
    exact ⟨(congrArg Prod.snd (hcongr target)).trans h.1,
      fun i hi => (h.2 i hi).step heffect (hkeep i hi)⟩
  | flagged id target =>
    exact ⟨(congrArg Prod.snd (hcongr target)).trans h.1,
      fun i hi => ⟨(h.2 i hi).1.step heffect (hkeep i hi), (h.2 i hi).2.step heffect⟩⟩
  | marked id target =>
    refine ⟨(congrArg Prod.snd (hcongr target)).trans h.1,
      fun i hi => ⟨(h.2.1 i hi).1.step heffect (hkeep i hi), (h.2.1 i hi).2.step heffect⟩, ?_⟩
    unfold Known
    rw [hcongr target, hcommitments]
    exact h.2.2

/-- A step that leaves the call, the commitments and the signed refunds as they are. -/
theorem CallInv.others (h : CallInv manager s) (heffect : s.Effect manager op s')
    (hkeep : ∀ id, s.signing = some id → s.keepsEligible s' id = true)
    (hcall : s'.call = s.call) (hcommitments : s'.commitments = s.commitments)
    (hsigned : ∀ hash swapId reason, .refundSigned hash swapId reason ∈ s'.history →
      .refundSigned hash swapId reason ∈ s.history) : CallInv manager s' := by
  unfold CallInv at h ⊢
  rw [hcall]
  cases hc : s.call with
  | none => trivial
  | some call =>
    rw [hc] at h
    cases call with
    | commit number request phase =>
      cases phase with
      | created c commitment => exact fun swapId reason hin => h swapId reason (hsigned _ _ _ hin)
      | fetched c commitment => exact fun swapId reason hin => h swapId reason (hsigned _ _ _ hin)
      | _ => exact h
    | refund request phase =>
      refine RefundInv.step h heffect (fun id hid => hkeep id ?_) hcommitments
      simp only [signing, hc]
      exact hid

theorem RefundInv.frame {request : RefundRequest} {phase : RefundPhase}
    (h : RefundInv manager s request phase) (hswaps : s'.swaps = s.swaps)
    (hpayments : s'.payments = s.payments) (hrefunds : s'.refunds = s.refunds)
    (hhandlers : s'.handlers = s.handlers) (hcommitments : s'.commitments = s.commitments) :
    RefundInv manager s' request phase := by
  have hcongr := refundedLockup_congr manager hcommitments request
  have heligible : ∀ {i : Nat}, Eligible s i → Eligible s' i :=
    fun h => h.frame hswaps hpayments hrefunds
  have hquiet : ∀ {i : Nat}, Quiet s i → Quiet s' i := fun h => h.frame hswaps hhandlers
  cases phase with
  | begun => trivial
  | found target => trivial
  | loaded id swap target =>
    refine ⟨?_, ?_⟩
    · simpa only [Loaded, statusFailed, hswaps] using h.1
    · cases target with
      | some target => exact (congrArg Prod.snd (hcongr target)).trans h.2
      | none => exact h.2
  | eligible id swap => exact ⟨heligible h.1, h.2⟩
  | ready id target =>
    exact ⟨(congrArg Prod.snd (hcongr target)).trans h.1, fun i hi => heligible (h.2 i hi)⟩
  | flagged id target =>
    exact ⟨(congrArg Prod.snd (hcongr target)).trans h.1,
      fun i hi => ⟨heligible (h.2 i hi).1, hquiet (h.2 i hi).2⟩⟩
  | marked id target =>
    refine ⟨(congrArg Prod.snd (hcongr target)).trans h.1,
      fun i hi => ⟨heligible (h.2.1 i hi).1, hquiet (h.2.1 i hi).2⟩, ?_⟩
    unfold Known
    rw [hcongr target, hcommitments]
    exact h.2.2

/-- A call that moved on holds what its new phase says. -/
theorem refundInv_moves {request : RefundRequest} {phase phase' : RefundPhase}
    (h : RefundInv manager s request phase) (hmove : s.RefundMoves manager request phase phase') :
    RefundInv manager s request phase' := by
  cases hmove with
  | found => trivial
  | loadedSwap hrow =>
    refine ⟨⟨_, hrow, rfl, rfl, fun hfail => ⟨?_, rfl⟩⟩, rfl⟩
    rw [statusFailed_of hrow]
    exact hfail
  | loaded hid hrow =>
    refine ⟨⟨_, hrow, rfl, rfl, fun hfail => ⟨?_, rfl⟩⟩, hid⟩
    rw [statusFailed_of hrow]
    exact hfail
  | unlinked hid => exact ⟨hid, fun _ hi => absurd hi.symm (Option.some_ne_none _)⟩
  | checked hreason =>
    refine ⟨h.2, fun i hi => ?_⟩
    obtain rfl := Option.some.inj hi
    exact h.1.eligible hreason
  | checkedSwap hreason => exact ⟨h.1.eligible hreason, h.2⟩
  | queried hquery =>
    obtain ⟨heligible, rfl⟩ := h
    refine ⟨rfl, fun i hi => ?_⟩
    obtain rfl := Option.some.inj hi
    exact heligible
  | flagged hnone =>
    refine ⟨h.1, fun i hi => ?_⟩
    subst hi
    obtain ⟨row, hrow, -⟩ := (h.2 i rfl).row
    exact absurd (hnone.symm.trans hrow) (Option.some_ne_none _).symm

theorem getByLockupHash_of_mem {c : Commitment} (h : UniqueRows s.commitments)
    (hmem : c ∈ s.commitments) :
    CommitmentRepository.getByLockupHash s.commitments c.lockupHash = some c := by
  cases hfind : CommitmentRepository.getByLockupHash s.commitments c.lockupHash with
  | none => exact absurd rfl (getByLockupHash_eq_none.mp hfind c hmem)
  | some c' =>
    obtain ⟨hmem', hhash⟩ := of_getByLockupHash hfind
    rw [h.lockupHash c' hmem' c hmem hhash]

/-- The refund of a call is known once `markRefunded` ran. -/
theorem refundInv_mark {request : RefundRequest} {id : Option Nat} {target : RefundTarget}
    (h : RefundInv manager s request (.flagged id target)) (hunique : UniqueRows s.commitments) :
    RefundInv manager
      { s.inRefund request (.marked id target) with
        commitments := s.markRefunded manager request target } request (.marked id target) := by
  obtain ⟨hid, hquiet⟩ := h
  have hrows : RowsStep manager { s with call := some (.refund request (.flagged id target)) }
      (s.markRefunded manager request target) := RowsStep.refunded (s := { s with
        call := some (.refund request (.flagged id target)) }) rfl
  have hunique' := hrows.unique hunique
  have hquiet' : ∀ i, id = some i →
      Eligible { s.inRefund request (.marked id target) with
        commitments := s.markRefunded manager request target } i ∧
      Quiet { s.inRefund request (.marked id target) with
        commitments := s.markRefunded manager request target } i :=
    fun i hi => ⟨(hquiet i hi).1.frame rfl rfl rfl, (hquiet i hi).2.frame rfl rfl⟩
  cases request with
  | swap j =>
    refine ⟨hid, hquiet', fun hash hhash => ?_⟩
    obtain ⟨c, hfind, rfl⟩ := Option.map_eq_some_iff.mp hhash
    obtain ⟨hmem, hswap⟩ := of_getBySwapId hfind
    exact ⟨c, hmem, rfl, hswap⟩
  | commitment r =>
    have hmark : s.markRefunded manager (.commitment r) target =
        CommitmentRepository.markRefunded s.commitments (RefundTarget.lockupHash manager target)
          target.transactionHash := rfl
    obtain ⟨c, hmem, hhash⟩ := markRefunded_has s.commitments
      (RefundTarget.lockupHash manager target) target.transactionHash
    rw [← hmark] at hmem
    have hfind := getByLockupHash_of_mem (s := { s with
      commitments := s.markRefunded manager (.commitment r) target }) hunique' hmem
    rw [hhash] at hfind
    have hlink : (refundedLockup manager
        { s.inRefund (.commitment r) (.marked id target) with
          commitments := s.markRefunded manager (.commitment r) target } (.commitment r) target) =
        (some (RefundTarget.lockupHash manager target), c.swapId) := by
      simp only [refundedLockup]
      rw [hfind]
      rfl
    have hsame : c.swapId = id := by
      rw [← hid]
      simp only [refundedLockup]
      rcases mem_markRefunded hmem with ⟨-, hne⟩ | ⟨-, -, ⟨c₀, hmem₀, hhash₀, hswap, -⟩ | ⟨hnone, hfree⟩⟩
      · exact absurd hhash hne
      · rw [← hhash₀, getByLockupHash_of_mem hunique hmem₀]
        exact hswap
      · rw [getByLockupHash_eq_none.mpr hfree]
        exact hnone
    refine ⟨?_, hquiet', fun hash hh => ?_⟩
    · rw [hlink]
      exact hsame
    · rw [hlink] at hh ⊢
      obtain rfl := Option.some.inj hh
      exact ⟨c, hmem, hhash, rfl⟩

/-! ## Runs -/

/-- The refund signature of an idle failed swap is stored. -/
theorem quiet_of_failed (hrow : s.swaps id = some row) (hfailed : s.statusFailed id = true)
    (hidle : s.idle id = true) (hrow' : s'.swaps id = some row.setRefundSignatureCreated)
    (hhandlers : s'.handlers = s.handlers) : Quiet s' id := by
  rw [statusFailed_of hrow] at hfailed
  have hstatus : row.status ≠ invoicePending ∧ row.status ≠ invoicePaid := by
    constructor <;> intro h <;> rw [h] at hfailed <;> exact absurd hfailed (by decide)
  refine ⟨⟨_, hrow', ?_⟩, by simpa only [State.idle, hhandlers] using hidle⟩
  cases row <;> exact ⟨rfl, hstatus⟩

theorem UseInv.call_step (hinv : UseInv manager s) (heffect : s.Effect manager op s')
    (hadmits : s.exclusive manager op = true) (hstep : s.step manager op = some s') :
    CallInv manager s' := by
  have hkeep : ∀ id, s.signing = some id → s.keepsEligible s' id = true :=
    fun id hid => exclusive_signing hadmits hstep hid
  have hothers : s'.call = s.call → s'.commitments = s.commitments →
      s'.history = s.history → CallInv manager s' := fun hcall hcommitments hhistory =>
    hinv.call.others heffect hkeep hcall hcommitments fun _ _ _ hin => hhistory ▸ hin
  have hacted : ∀ e, s'.call = s.call → s'.commitments = s.commitments →
      s'.history = e :: s.history → (∃ id lockup, e = .acted id lockup) → CallInv manager s' := by
    rintro e hcall hcommitments hhistory ⟨id, lockup, rfl⟩
    refine hinv.call.others heffect hkeep hcall hcommitments fun _ _ _ hin => ?_
    rw [hhistory] at hin
    rcases List.mem_cons.mp hin with hnew | hold
    · exact absurd hnew (by simp)
    · exact hold
  have hcallinv := hinv.call
  unfold CallInv at hcallinv
  cases heffect with
  | restart => trivial
  | startPayment hget hrow hphase hopen => exact hacted _ rfl rfl rfl ⟨_, _, rfl⟩
  | sendLockup hget hrow hphase => exact hacted _ rfl rfl rfl ⟨_, _, rfl⟩
  | commit hfree => trivial
  | throwCommit hcall hphase => trivial
  | moveCommit hcall hmove =>
    rw [hcall] at hcallinv
    cases hmove with
    | loaded _ => trivial
    | found _ _ => trivial
    | checked hcheck =>
      obtain ⟨rfl, -⟩ := Commitments.of_checkCommit manager hcheck
      rfl
    | fetched => exact hcallinv
  | link hcall hcreate =>
    obtain ⟨-, hfree, -⟩ := create_eq_some hcreate
    intro swapId reason hin
    rcases List.mem_cons.mp hin with hnew | hold
    · exact absurd hnew (by simp)
    · obtain ⟨row, hmem, hhash, -⟩ := hinv.known _ _ _ hold
      exact absurd hhash (getByLockupHash_eq_none.mp hfree row hmem)
  | handOver hcall => trivial
  | refund hfree => trivial
  | endRefund hcall => trivial
  | moveRefund hcall hmove =>
    rw [hcall] at hcallinv
    exact (refundInv_moves hcallinv hmove).frame rfl rfl rfl rfl rfl
  | @flag request id target row hcall hrow =>
    rw [hcall] at hcallinv
    obtain ⟨hid, heligible⟩ := hcallinv
    have hold := heligible id rfl
    have hsigning : s.signing = some id := by
      simp only [signing, hcall]
      rfl
    refine ⟨hid, fun i hi => ?_⟩
    obtain rfl := Option.some.inj hi
    refine ⟨hold.step (effect_of_step hstep) (hkeep id hsigning), ?_⟩
    exact quiet_of_failed hrow hold.failed
      (exclusive_flags hadmits (by simp only [flags, hcall])) (if_pos rfl) rfl
  | mark hcall =>
    rw [hcall] at hcallinv
    exact refundInv_mark hcallinv hinv.unique
  | sign hcall => trivial
  | _ => exact hothers rfl rfl rfl

/-- The call that signs a refund knows its row, and that the swap is quiet and eligible. -/
theorem UseInv.marked (hinv : UseInv manager s) {request : RefundRequest} {id : Option Nat}
    {target : RefundTarget} (hcall : s.call = some (.refund request (.marked id target))) :
    (s.refundedLockup manager request target).2 = id ∧
      (∀ i, id = some i → Eligible s i ∧ Quiet s i) ∧ Known manager s request target := by
  have hmarked := hinv.call
  simp only [CallInv, hcall] at hmarked
  exact hmarked

end Proofs

/-! ## A swap that is refunded and paid -/

section Examples

/-- Lockups are hashed, and commitments signed, by adding up what they consist of. -/
def exampleManager : EthereumManager where
  symbol := 1
  address := 100
  contracts := [⟨5, 51, 52, true⟩]
  requiredConfirmations := 1
  tokenAddresses _ := none
  normalizeTokenAmount _ amount := amount
  hashValues _ values := values.amount + values.refundAddress + 10 ^ 20 * values.preimageHash
  isSignature _ := true
  checkCommitmentSignature _ preimageHash values signature :=
    signature == preimageHash + values.amount
  recoverAddress _ signature := some signature

def commitmentLog : ConsolidatedEventHandler.Log SwapValues where
  name := .ethLockup
  version := 5
  index := 0
  values :=
    { preimageHash := 0, amount := 10 ^ 15, claimAddress := 100, refundAddress := 200,
      timelock := 1000 }

def lockedIn11 (txHash : Nat) : Option (ConsolidatedEventHandler.Receipt SwapValues) :=
  if txHash = 11 then some { blockNumber := some 5, status := 1, logs := [commitmentLog] } else none

def createdSwap : UserSwap :=
  .submarine
    { preimageHash := 7, invoice := none, version := .taproot, chainCurrency := ⟨1, .ether, 0⟩
      lockupAddress := 51, timeoutBlockHeight := 900, acceptZeroConf := false
      expectedAmount := none, status := swapCreated, failureReason := none, onchainAmount := none
      lockupTransactionId := none, lockupTransactionVout := none, refundAddress := none
      rate := none, preimage := none, routingFee := none, minerFee := none
      createdRefundSignature := false }

def commitTo11 : CommitRequest :=
  { currency := 1, swapId := 1, signature := 7 + 10 ^ 15, transactionHash := 11 }

/-- The swap is created and committed to. -/
def committedRun : List Op :=
  [.createSwap 1 createdSwap, .setInvoice 1 70 100000, .commit commitTo11] ++
    List.replicate 6 .advance

end Examples

end State

end Boltz.Ethereum

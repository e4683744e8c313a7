import Boltz.Async.Alone
import Boltz.Safety.PaidSwaps

/-!
# Lockup events of submarine swaps

A lockup event is delivered with the swap as the listener found it, and may be delivered again.
When it is processed, and again when the handler of the nursery gets the lock, the row may have
moved on. The UTXO nursery looks at the status once more after it stored the lockup; the EVM
nursery does not.
-/

namespace Boltz

open Async SwapUpdateEvent

/-! ## Steps of a task that runs alone -/

section alone

variable {t : Nat} {w : World} {α β : Type}

/-- The state while task `t` has the lock. -/
def World.held (w : World) (key : Lock) (t : Nat) : World :=
  { w with locks := fun k => if k = key then some t else w.locks k }

@[simp] theorem World.held_swaps (w : World) (key : Lock) (t : Nat) :
    (w.held key t).swaps = w.swaps := rfl

instance : Inhabited Answer := ⟨.nothing⟩

theorem ends_read (f : World → β) (l : Label) : (read f l).Ends t w (.ok (f w)) w :=
  Prog.ends_call fun _ => rfl

theorem ends_write (f : World → World) (l : Label) : (write f l).Ends t w (.ok ()) (f w) :=
  Prog.ends_call fun _ => rfl

theorem mayEnd_ask_bind {decode : Answer → Option β} {l : Label} {f : β → M α}
    {Q : Except Error α → World → List (M Unit) → Prop} :
    (ask decode l >>= f).mayEnd t Q w ↔ ∃ ω b, decode ω = some b ∧ (f b).mayEnd t Q w := by
  constructor
  · rintro ⟨ω, b, w', he, hQ⟩
    obtain ⟨hd, rfl⟩ := by simpa [askAct] using he
    exact ⟨ω, b, hd, hQ⟩
  · rintro ⟨ω, b, hd, hQ⟩
    exact ⟨ω, b, w, by simp [askAct, hd], hQ⟩

theorem mayTake_read_bind {f : World → β} {l l' : Label} {k : β → M α} (hl : l' ≠ l) :
    (read f l' >>= k).mayTake t l w ↔ (k (f w)).mayTake t l w := by
  constructor
  · rintro ⟨ω, b, w', he, hlabel | htake⟩
    · exact absurd hlabel hl
    · cases he
      exact htake
  · exact fun htake => ⟨.nothing, f w, w, rfl, .inr htake⟩

theorem mayTake_ask_bind {decode : Answer → Option β} {l l' : Label} {k : β → M α} {ω : Answer}
    {b : β} (hd : decode ω = some b) (htake : (k b).mayTake t l w) :
    (ask decode l' >>= k).mayTake t l w :=
  ⟨ω, b, w, by simp [askAct, hd], .inr htake⟩

theorem mayTake_external_bind {l : Label} {k : Unit → M α} (htake : (k ()).mayTake t l w) :
    (external >>= k).mayTake t l w :=
  ⟨.flag true, true, w, rfl, .inr htake⟩

theorem not_mayTake_release {key : Lock} {l : Label} (hl : l ≠ .other) (w : World) :
    ¬(Prog.call (releaseAct key) : M Unit).mayTake t l w := by
  rintro ⟨ω, b, w', _, hlabel | htake⟩
  · exact hl hlabel.symm
  · exact htake

theorem run_acquireAct {key : Lock} (hfree : w.locks key = none) (ω : Answer) :
    (acquireAct key).run t w ω = some ((), w.held key t) := by
  simp [acquireAct, hfree, World.held]

theorem mayTake_withLock {key : Lock} {body : M α} {l : Label} (hl : l ≠ .other)
    (hfree : w.locks key = none) :
    (withLock key body).mayTake t l w ↔ body.mayTake t l (w.held key t) := by
  rw [withLock, Prog.mayTake_act_bind]
  constructor
  · rintro ⟨ω, b, w', he, hlabel | htake⟩
    · exact absurd hlabel.symm hl
    · rw [run_acquireAct hfree] at he
      cases he
      rw [Prog.mayTake_finally fun s => not_mayTake_release hl s] at htake
      exact htake
  · intro htake
    refine ⟨.nothing, (), w.held key t, run_acquireAct hfree _, .inr ?_⟩
    rw [Prog.mayTake_finally fun s => not_mayTake_release hl s]
    exact htake

/-- The lock does not matter for what the body leaves in the tables and starts. -/
theorem mayEnd_withLock {key : Lock} {body : M α} {P : Table Swap → List (M Unit) → Prop}
    (hfree : w.locks key = none) :
    (withLock key body).mayEnd t (fun _ w' cs => P w'.swaps cs) w ↔
      body.mayEnd t (fun _ w' cs => P w'.swaps cs) (w.held key t) := by
  have hrelease : ∀ (w' : World) (r : Except Error α) cs,
      (Prog.call (releaseAct key) >>= fun _ => Prog.ofExcept r : M α).mayEnd t
        (fun _ w'' cs' => P w''.swaps (cs ++ cs')) w' ↔ P w'.swaps cs := by
    intro w' r cs
    rw [Prog.mayEnd_act_bind]
    constructor
    · rintro ⟨ω, b, w'', he, hP⟩
      rw [Prog.mayEnd_ofExcept, List.append_nil] at hP
      simp only [releaseAct] at he
      split at he <;> cases he <;> exact hP
    · intro hP
      by_cases hheld : w'.locks key = some t
      · refine ⟨.nothing, (), _, by simp [releaseAct, hheld]; rfl, ?_⟩
        rw [Prog.mayEnd_ofExcept, List.append_nil]
        exact hP
      · refine ⟨.nothing, (), w', by simp [releaseAct, hheld], ?_⟩
        rw [Prog.mayEnd_ofExcept, List.append_nil]
        exact hP
  have hbody : (body.finally_ (Prog.call (releaseAct key))).mayEnd t
      (fun _ w' cs => P w'.swaps cs) (w.held key t) ↔
        body.mayEnd t (fun _ w' cs => P w'.swaps cs) (w.held key t) := by
    unfold Prog.finally_
    rw [Prog.mayEnd_bind, Prog.mayEnd_attempt]
    simp only [hrelease]
  rw [withLock, Prog.mayEnd_act_bind, ← hbody]
  constructor
  · rintro ⟨ω, b, w', he, hend⟩
    rw [run_acquireAct hfree] at he
    cases he
    exact hend
  · exact fun hend => ⟨.nothing, (), w.held key t, run_acquireAct hfree _, hend⟩

end alone

/-! ## Deliveries -/

def EvmLockup.identity (values : EvmLockup) : LockupIdentity :=
  ⟨values.transactionHash, some values.logIndex⟩

/-- The state in which the transaction of the event pays to the lockup address of the swap. -/
def World.withOutput (w : World) (values : EvmLockup) : World :=
  { w with lockupOutput := fun _ _ _ => some (values.logIndex, values.amount) }

@[simp] theorem World.withOutput_lockupOutput (w : World) (values : EvmLockup) (type : SwapType)
    (id transactionId : Nat) : (w.withOutput values).lockupOutput type id transactionId =
      some (values.logIndex, values.amount) := rfl

/-- The statuses in which the listener of the UTXO nursery finds a swap. -/
def utxoListenerStatuses : List SwapUpdateEvent :=
  [swapCreated, invoiceSet, transactionMempool, transactionZeroConfRejected, transactionConfirmed]

/-- `process`, alone in `w₁`, can start a task that takes an act labelled `l`, alone in `w₂`. -/
def mayLeadTo (t u : Nat) (process : M Unit) (l : Label) (w₁ w₂ : World) : Prop :=
  process.mayEnd t (fun _ _ cs => ∃ c ∈ cs, c.mayTake u l w₂) w₁

/-- The swap has failed or is settled, or the lockup of the event has failed. -/
def isOver (row : Swap) (values : EvmLockup) : Bool :=
  [invoiceFailedToPay, swapExpired, transactionClaimed, invoicePaid].contains row.status ||
    (row.status == transactionLockupFailed &&
      (storedLockup row.lockupTransactionId row.lockupTransactionVout).any
        (isSameLockup · values.identity))

/-- What the delivery of an EVM lockup event does: `swap` is the swap as the listener found it, the
event is processed in the state `w₁`, and the nursery handles it in the state `w₂`. -/
structure ActsAsUtxo (t u : Nat) (swap : Instance Swap) (values : EvmLockup) (w₁ w₂ : World) :
    Prop where
  pays : mayLeadTo t u (EthereumNursery.processSwapLockup swap values)
      (.payInvoice swap.id .payments) w₁ w₂ →
    swap.row.status ∈ utxoListenerStatuses ∧
      mayLeadTo t u (UtxoNursery.checkSwapTransaction swap values.transactionHash .confirmed)
        (.payInvoice swap.id .payments) (w₁.withOutput values) w₂
  notMovedBack : ∀ row, w₁.swaps.get swap.id = some row → isOver row values = true →
    ¬(EthereumNursery.processSwapLockup swap values).mayEnd t (fun _ w' _ =>
      (w'.swaps.get swap.id).any (fun s => [transactionConfirmed, invoicePending].contains s.status)
        = true) w₁
  notPaidAgain : ∀ row, w₂.swaps.get swap.id = some row → isOver row values = true →
    ¬mayLeadTo t u (EthereumNursery.processSwapLockup swap values) (.payInvoice swap.id .payments)
        w₁ w₂ ∧
      ¬mayLeadTo t u (EthereumNursery.processSwapLockup swap values) (.setInvoicePending swap.id)
        w₁ w₂

/-! ## What decides a delivery -/

/-- The checks of the EVM nursery can pass. -/
def canValidate (values : EvmLockup) (timeoutBlockHeight : Nat) (expectedAmount : Option Nat) :
    Bool :=
  values.claimAddress == EthereumNursery.serverAddress &&
    decide (timeoutBlockHeight ≤ values.timelock) &&
    expectedAmount.all fun expected => decide (expected ≤ values.amount)

/-- The EVM nursery can emit `lockup` for the swap as the listener found it and the row `stored`. -/
def evmEmits (swap stored : Swap) (values : EvmLockup) : Bool :=
  !shouldIgnoreCompetingLockup (storedLockup swap.lockupTransactionId swap.lockupTransactionVout)
      values.identity swap.status &&
    canValidate values swap.timeoutBlockHeight (swap.expectedAmount.filter (0 < ·)) &&
    (SwapRepository.lockupWrite stored values.identity values.amount transactionConfirmed).1 !=
      .rejected

/-- The handler of the EVM lockup goes on to pay the invoice. -/
def evmPays (row : Swap) (values : EvmLockup) : Bool :=
  row.status != transactionLockupFailed &&
    !lockupOwnedByAnother row values.transactionHash values.logIndex && row.invoice.isSome &&
    !row.createdRefundSignature && !isSettled row.status

theorem evmPays_iff {row : Swap} {values : EvmLockup} :
    evmPays row values = true ↔ row.status ≠ transactionLockupFailed ∧
      lockupOwnedByAnother row values.transactionHash values.logIndex = false ∧
      row.invoice.isNone = false ∧ row.createdRefundSignature = false ∧
      isSettled row.status = false := by
  simp only [evmPays, Bool.and_eq_true, bne_iff_ne, Bool.not_eq_true', and_assoc,
    Option.isNone_eq_false_iff]

/-- The lockup of the event has not failed in the row, and when the nursery goes on to pay, the
lockup could still be updated, its amount is the expected one at least, and the swap is not over. -/
def isTimely (swap stored : Swap) (handled : Option Swap) (values : EvmLockup) : Bool :=
  !evmEmits swap stored values ||
    (!(stored.status == transactionLockupFailed && isOver stored values) &&
      handled.all fun row => !evmPays row values ||
        (!SwapRepository.lockupNonUpdatableStatuses.contains stored.status &&
          decide (stored.expectedAmount.getD 0 ≤ values.amount) && !isOver row values))

theorem isTimely_iff {swap stored : Swap} {handled : Option Swap} {values : EvmLockup} :
    isTimely swap stored handled values = true ↔ (evmEmits swap stored values = true →
      ¬(stored.status = transactionLockupFailed ∧ isOver stored values = true) ∧
      ∀ row, handled = some row → evmPays row values = true →
        stored.status ∉ SwapRepository.lockupNonUpdatableStatuses ∧
        stored.expectedAmount.getD 0 ≤ values.amount ∧ isOver row values = false) := by
  simp only [isTimely, Bool.or_eq_true, Bool.not_eq_true', Bool.and_eq_true, Option.all_eq_true,
    decide_eq_true_eq, ← Bool.not_eq_true, beq_iff_eq, List.contains_iff_mem, and_assoc,
    ← imp_iff_not_or]

/-! ## Writes of a lockup -/

section lockup

variable {t : Nat} {w : World} {α : Type}

/-- What `setLockupTransaction` returns and leaves, alone. -/
theorem ends_setLockupTransaction {swap : Instance Swap} {row : Swap}
    (hrow : w.swaps.get swap.id = some row) (incoming : LockupIdentity) (amount : Nat)
    (status : SwapUpdateEvent) :
    (SwapRepository.setLockupTransaction swap incoming amount status).Ends t w
      (.ok ((SwapRepository.lockupWrite row incoming amount status).1,
        ⟨swap.id, (SwapRepository.lockupWrite row incoming amount status).2⟩))
      (setSwaps (w.swaps.modify swap.id fun _ =>
        (SwapRepository.lockupWrite row incoming amount status).2) w) := by
  have hbyId : (w.swaps.modify swap.id fun _ =>
      (SwapRepository.lockupWrite row incoming amount status).2).byId swap.id =
        some ⟨swap.id, (SwapRepository.lockupWrite row incoming amount status).2⟩ := by
    refine Table.byId_eq_some.mpr ⟨rfl, ?_⟩
    rw [Table.get_modify_self, hrow]
    rfl
  have hwrite : (Prog.call (swapLockupAct swap.id incoming amount status) :
      M LockupWriteOutcome).Ends t w (.ok (SwapRepository.lockupWrite row incoming amount status).1)
        (setSwaps (w.swaps.modify swap.id fun _ =>
          (SwapRepository.lockupWrite row incoming amount status).2) w) := by
    refine Prog.ends_call fun ω => ?_
    simp only [swapLockupAct, hrow]
  refine Prog.Ends.trans hwrite ((ends_read _ _).trans ?_)
  rw [hbyId]
  exact Prog.ends_pure _

theorem ends_setLockupTransaction_none {swap : Instance Swap}
    (hrow : w.swaps.get swap.id = none) (incoming : LockupIdentity) (amount : Nat)
    (status : SwapUpdateEvent) :
    (SwapRepository.setLockupTransaction swap incoming amount status).Ends t w
      (.ok (.rejected, swap)) w := by
  have hbyId : w.swaps.byId swap.id = none := by
    cases h : w.swaps.byId swap.id with
    | none => rfl
    | some found =>
      obtain ⟨_, hget⟩ := Table.byId_eq_some.mp h
      rw [hrow] at hget
      cases hget
  have hwrite : (Prog.call (swapLockupAct swap.id incoming amount status) :
      M LockupWriteOutcome).Ends t w (.ok .rejected) w := by
    refine Prog.ends_call fun ω => ?_
    simp only [swapLockupAct, hrow]
  refine Prog.Ends.trans hwrite ((ends_read _ _).trans ?_)
  rw [hbyId]
  exact Prog.ends_pure _

/-- The refund address is stored, and nothing else is. -/
theorem ends_setRefundAddress (swap : Instance Swap) (refundAddress : Nat) :
    ∃ (updated : Instance Swap) (w' : World), updated.id = swap.id ∧
      updated.row.status = swap.row.status ∧
      (∀ id, (w'.swaps.get id).map (·.status) = (w.swaps.get id).map (·.status)) ∧
      (SwapRepository.setRefundAddress swap refundAddress).Ends t w (.ok updated) w' := by
  refine ⟨⟨swap.id, { swap.row with refundAddress := some refundAddress }⟩, _, rfl, rfl, fun id => ?_,
    (ends_write _ _).trans (Prog.ends_pure _)⟩
  by_cases hid : id = swap.id
  · subst hid
    rw [Table.get_modify_self, Option.map_map]
    congr 1
    funext s
    exact saved_self swap.row.status s.status
  · rw [Table.get_modify_ne _ hid]

/-- An optional update of the refund address. -/
theorem ends_optionalRefundAddress (c : Prop) [Decidable c] (swap : Instance Swap)
    (refundAddress : Nat) :
    ∃ (updated : Instance Swap) (w' : World), updated.id = swap.id ∧
      updated.row.status = swap.row.status ∧
      (∀ id, (w'.swaps.get id).map (·.status) = (w.swaps.get id).map (·.status)) ∧
      (if c then SwapRepository.setRefundAddress swap refundAddress else pure swap :
        M (Instance Swap)).Ends t w (.ok updated) w' := by
  by_cases hc : c
  · simp only [if_pos hc]
    exact ends_setRefundAddress swap refundAddress
  · simp only [if_neg hc]
    exact ⟨swap, w, rfl, rfl, fun _ => rfl, Prog.ends_pure swap⟩

section refundAddress

variable {c : Prop} [Decidable c] {swap : Instance Swap} {refundAddress : Nat}
  {f : Instance Swap → M α} {Q : Except Error α → World → List (M Unit) → Prop}

/-- What follows an optional update of the refund address. -/
theorem refundAddress_returns
    (h : ((if c then SwapRepository.setRefundAddress swap refundAddress else pure swap) >>=
      f).mayEnd t Q w) :
    ∃ (updated : Instance Swap) (w' : World), updated.id = swap.id ∧
      (∀ id, (w'.swaps.get id).map (·.status) = (w.swaps.get id).map (·.status)) ∧
      (f updated).mayEnd t Q w' := by
  obtain ⟨updated, w', hid, -, hstatus, hends⟩ :=
    ends_optionalRefundAddress (t := t) (w := w) c swap refundAddress
  exact ⟨updated, w', hid, hstatus, hends.bind.mp h⟩

theorem mayEnd_refundAddress
    (hf : ∀ (updated : Instance Swap) (w' : World), updated.id = swap.id →
      (∀ id, (w'.swaps.get id).map (·.status) = (w.swaps.get id).map (·.status)) →
      (f updated).mayEnd t Q w') :
    ((if c then SwapRepository.setRefundAddress swap refundAddress else pure swap) >>=
      f).mayEnd t Q w := by
  obtain ⟨updated, w', hid, -, hstatus, hends⟩ :=
    ends_optionalRefundAddress (t := t) (w := w) c swap refundAddress
  exact hends.bind.mpr (hf updated w' hid hstatus)

end refundAddress

theorem decideLockupWrite_of_rejected {existing : Option LockupIdentity}
    {incoming : LockupIdentity} {current target : SwapUpdateEvent} {updatable : Bool}
    (hr : (decideLockupWrite existing incoming current target updatable).outcome = .rejected) :
    (decideLockupWrite existing incoming current target updatable).write = false := by
  unfold decideLockupWrite at hr ⊢
  cases existing with
  | none =>
    cases updatable
    · rfl
    · cases hr
  | some existing =>
    dsimp only at hr ⊢
    split at hr
    · cases hr
    rename_i hother
    split at hr
    · cases hr
    rename_i hclosed
    rw [if_neg hother, if_neg hclosed]

/-- A write that is rejected changes nothing. -/
theorem lockupWrite_of_rejected {row : Swap} {incoming : LockupIdentity} {amount : Nat}
    {status : SwapUpdateEvent}
    (hr : (SwapRepository.lockupWrite row incoming amount status).1 = .rejected) :
    (SwapRepository.lockupWrite row incoming amount status).2 = row := by
  unfold SwapRepository.lockupWrite at hr ⊢
  dsimp only at hr ⊢
  rw [decideLockupWrite_of_rejected hr]
  rfl

end lockup

/-! ## The EVM nursery -/

section process

variable {t : Nat} {w : World} {swap : Instance Swap} {values : EvmLockup}

/-- The checks leave the state as it is. -/
theorem validateLockup_returns {height : Nat} {expected : Option Nat}
    {Q : Except Error (Option SwapError) → World → List (M Unit) → Prop}
    (h : (EthereumNursery.validateLockup values height expected).mayEnd t Q w) :
    ∃ reason, Q (.ok reason) w [] ∧
      (reason = none → canValidate values height expected = true) := by
  unfold EthereumNursery.validateLockup at h
  split at h
  · exact ⟨_, h, fun hnone => absurd hnone (Option.some_ne_none _)⟩
  rename_i hclaim
  obtain ⟨_, otherToken, -, h⟩ := mayEnd_ask_bind.mp h
  split at h
  · exact ⟨_, h, fun hnone => absurd hnone (Option.some_ne_none _)⟩
  split at h
  · exact ⟨_, h, fun hnone => absurd hnone (Option.some_ne_none _)⟩
  rename_i htimelock
  have hfirst : values.claimAddress = EthereumNursery.serverAddress ∧ height ≤ values.timelock :=
    ⟨not_not.mp hclaim, Nat.le_of_not_lt htimelock⟩
  have hook : ∀ reason : Option SwapError, (∀ e, expected = some e → e ≤ values.amount) →
      (if reason.isSome then pure reason else do
        let reject ← ask Answer.flag?
        pure (if reject then some SwapError.blockedAddress else none) : M _).mayEnd t Q w →
      ∃ reason, Q (.ok reason) w [] ∧
        (reason = none → canValidate values height expected = true) := by
    intro reason hamount hend
    split at hend
    · rename_i hsome
      refine ⟨reason, hend, fun hnone => ?_⟩
      rw [hnone] at hsome
      cases hsome
    · obtain ⟨_, reject, -, hend⟩ := mayEnd_ask_bind.mp hend
      refine ⟨_, hend, fun _ => ?_⟩
      simp only [canValidate, Bool.and_eq_true, beq_iff_eq, decide_eq_true_eq,
        Option.all_eq_true]
      exact ⟨hfirst, hamount⟩
  cases expected with
  | none => exact hook none (fun _ hsome => absurd hsome.symm (Option.some_ne_none _)) h
  | some expected =>
    rw [Prog.mayEnd_bind] at h
    unfold EthereumNursery.checkAmount at h
    dsimp only at h
    split at h
    · exact ⟨_, h, fun hnone => absurd hnone (Option.some_ne_none _)⟩
    · rename_i hamount
      obtain ⟨_, overpaid, -, h⟩ := mayEnd_ask_bind.mp h
      refine hook _ (fun e he => ?_) h
      cases he
      exact Nat.le_of_not_lt hamount

/-- The checks can pass. -/
theorem mayEnd_validateLockup {height : Nat} {expected : Option Nat}
    {Q : Except Error (Option SwapError) → World → List (M Unit) → Prop}
    (hv : canValidate values height expected = true) (hQ : Q (.ok none) w []) :
    (EthereumNursery.validateLockup values height expected).mayEnd t Q w := by
  simp only [canValidate, Bool.and_eq_true, beq_iff_eq, decide_eq_true_eq,
    Option.all_eq_true] at hv
  obtain ⟨⟨hclaim, htimelock⟩, hamount⟩ := hv
  unfold EthereumNursery.validateLockup
  rw [if_neg (not_not.mpr hclaim)]
  refine mayEnd_ask_bind.mpr ⟨.flag false, false, rfl, ?_⟩
  rw [if_neg Bool.false_ne_true, if_neg (Nat.not_lt.mpr htimelock)]
  rw [Prog.mayEnd_bind]
  have hook : (do
      let reject ← ask Answer.flag?
      pure (if reject then some SwapError.blockedAddress else none) : M _).mayEnd t Q w :=
    mayEnd_ask_bind.mpr ⟨.flag false, false, rfl, hQ⟩
  cases expected with
  | none => exact hook
  | some expected =>
    unfold EthereumNursery.checkAmount
    dsimp only
    rw [if_neg (Nat.not_lt.mpr (hamount expected rfl))]
    exact mayEnd_ask_bind.mpr ⟨.flag false, false, rfl, hook⟩

theorem status_after_lockupWrite {id : Nat} {stored : Swap} (hrow : w.swaps.get id = some stored)
    (incoming : LockupIdentity) (amount : Nat) (status : SwapUpdateEvent) :
    ((w.swaps.modify id fun _ => (SwapRepository.lockupWrite stored incoming amount status).2).get
      id).map (·.status) =
        some (SwapRepository.lockupWrite stored incoming amount status).2.status := by
  rw [Table.get_modify_self, hrow]
  rfl

/-- What the EVM nursery does with an event, alone. -/
theorem processSwapLockup_returns (hfree : w.locks (.ethereumSwap swap.id) = none)
    {P : Table Swap → List (M Unit) → Prop}
    (h : (EthereumNursery.processSwapLockup swap values).mayEnd t (fun _ w' cs => P w'.swaps cs) w) :
    (∃ T cs, P T cs ∧ (cs = [] ∨ ∃ updated reason, cs = [swapLockupFailed updated reason]) ∧
      ((T.get swap.id).map (·.status) = (w.swaps.get swap.id).map (·.status) ∨
        (T.get swap.id).map (·.status) = some transactionLockupFailed)) ∨
    (∃ T stored, P T [evmSwapLockup swap.id values.transactionHash values.logIndex] ∧
      w.swaps.get swap.id = some stored ∧ evmEmits swap.row stored values = true ∧
      (T.get swap.id).map (·.status) = some (SwapRepository.lockupWrite stored values.identity
        values.amount transactionConfirmed).2.status) := by
  unfold EthereumNursery.processSwapLockup at h
  rw [mayEnd_withLock hfree] at h
  dsimp only at h
  split at h
  · exact .inl ⟨_, _, h, .inl rfl, .inl rfl⟩
  rename_i hignore
  rw [Prog.mayEnd_bind] at h
  obtain ⟨reason, h, hreason⟩ := validateLockup_returns h
  dsimp only at h
  cases hrow : w.swaps.get swap.id with
  | none =>
    rw [(ends_setLockupTransaction_none (w := w.held _ t) hrow _ _ _).bind] at h
    exact .inl ⟨_, _, h, .inl rfl, .inl (congrArg _ hrow)⟩
  | some stored =>
    rw [(ends_setLockupTransaction (w := w.held _ t) hrow _ _ _).bind] at h
    dsimp only at h
    cases reason with
    | some reason =>
      have hafter := status_after_lockupWrite hrow values.identity values.amount
        transactionLockupFailed
      have hkept : (some (SwapRepository.lockupWrite stored values.identity values.amount
          transactionLockupFailed).2.status = some stored.status) ∨
          some (SwapRepository.lockupWrite stored values.identity values.amount
            transactionLockupFailed).2.status = some transactionLockupFailed :=
        (SwapRepository.lockupWrite_status _ _ _ _).imp (congrArg some) fun h => congrArg some h.2
      simp only [Option.isNone_some, Bool.false_eq_true, ↓reduceIte] at h
      split at h
      · exact .inl ⟨_, _, h, .inl rfl, hafter ▸ hkept⟩
      obtain ⟨updated, w', -, hstatus, h⟩ := refundAddress_returns h
      rw [← (hstatus swap.id).trans hafter] at hkept
      unfold Prog.when at h
      split at h
      · exact .inl ⟨_, _, h, .inr ⟨_, _, rfl⟩, hkept⟩
      · exact .inl ⟨_, _, h, .inl rfl, hkept⟩
    | none =>
      have hafter := status_after_lockupWrite hrow values.identity values.amount
        transactionConfirmed
      simp only [Option.isNone_none, ↓reduceIte] at h
      split at h
      · rename_i hr
        have hsame : (SwapRepository.lockupWrite stored values.identity values.amount
          transactionConfirmed).2 = stored := lockupWrite_of_rejected hr
        exact .inl ⟨_, _, h, .inl rfl, .inl (hafter.trans (congrArg (some ·.status) hsame))⟩
      rename_i hr
      obtain ⟨first, w₁, hfirst, hstatus₁, h⟩ := refundAddress_returns h
      obtain ⟨second, w₂, hsecond, hstatus₂, h⟩ := refundAddress_returns h
      rw [hsecond.trans hfirst] at h
      refine .inr ⟨_, stored, h, rfl, ?_,
        (hstatus₂ swap.id).trans ((hstatus₁ swap.id).trans hafter)⟩
      simp only [evmEmits, Bool.and_eq_true, bne_iff_ne, Bool.not_eq_true']
      exact ⟨⟨eq_false_of_ne_true hignore, hreason rfl⟩, hr⟩

/-- The EVM nursery can emit `lockup`. -/
theorem mayEnd_processSwapLockup (hfree : w.locks (.ethereumSwap swap.id) = none) {stored : Swap}
    (hrow : w.swaps.get swap.id = some stored) (hemits : evmEmits swap.row stored values = true)
    {P : Table Swap → List (M Unit) → Prop}
    (hP : ∀ T : Table Swap, (T.get swap.id).map (·.status) = some (SwapRepository.lockupWrite
      stored values.identity values.amount transactionConfirmed).2.status →
        P T [evmSwapLockup swap.id values.transactionHash values.logIndex]) :
    (EthereumNursery.processSwapLockup swap values).mayEnd t (fun _ w' cs => P w'.swaps cs) w := by
  simp only [evmEmits, EvmLockup.identity, Bool.and_eq_true, bne_iff_ne, Bool.not_eq_true']
    at hemits
  obtain ⟨⟨hignore, hv⟩, hr⟩ := hemits
  unfold EthereumNursery.processSwapLockup
  rw [mayEnd_withLock hfree]
  dsimp only
  rw [if_neg (ne_true_of_eq_false hignore), Prog.mayEnd_bind]
  refine mayEnd_validateLockup hv ?_
  dsimp only
  rw [(ends_setLockupTransaction (w := w.held _ t) hrow _ _ _).bind]
  simp only [Option.isNone_none, ↓reduceIte]
  rw [if_neg hr]
  refine mayEnd_refundAddress fun first w₁ hfirst hstatus₁ => ?_
  refine mayEnd_refundAddress fun second w₂ hsecond hstatus₂ => ?_
  rw [hsecond.trans hfirst]
  exact hP _ ((hstatus₂ swap.id).trans ((hstatus₁ swap.id).trans
    (status_after_lockupWrite hrow values.identity values.amount transactionConfirmed)))

end process

/-! ## The UTXO nursery -/

section utxo

variable {t : Nat} {w : World} {swap : Instance Swap} {values : EvmLockup}

theorem checkExpectedAmount_returns {expected : Option Nat} {amount : Nat}
    {Q : Except Error (Option SwapError) → World → List (M Unit) → Prop}
    (h : (checkExpectedAmount expected amount).mayEnd t Q w) :
    ∃ reason, Q (.ok reason) w [] ∧ (reason = none → expected.getD 0 ≤ amount) := by
  unfold checkExpectedAmount at h
  dsimp only at h
  split at h
  · rename_i hzero
    refine ⟨_, h, fun _ => ?_⟩
    rw [hzero]
    exact Nat.zero_le amount
  split at h
  · exact ⟨_, h, nofun⟩
  rename_i hamount
  obtain ⟨_, overpaid, -, h⟩ := mayEnd_ask_bind.mp h
  exact ⟨_, h, fun _ => Nat.le_of_not_lt hamount⟩

theorem mayEnd_checkExpectedAmount {expected : Option Nat} {amount : Nat}
    {Q : Except Error (Option SwapError) → World → List (M Unit) → Prop}
    (hamount : expected.getD 0 ≤ amount) (hQ : Q (.ok none) w []) :
    (checkExpectedAmount expected amount).mayEnd t Q w := by
  unfold checkExpectedAmount
  dsimp only
  split
  · exact hQ
  · rw [if_neg (Nat.not_lt.mpr hamount)]
    exact mayEnd_ask_bind.mpr ⟨.flag false, false, rfl, hQ⟩

theorem lockupWrite_expectedAmount (row : Swap) (incoming : LockupIdentity) (amount : Nat)
    (status : SwapUpdateEvent) :
    (SwapRepository.lockupWrite row incoming amount status).2.expectedAmount =
      row.expectedAmount := by
  unfold SwapRepository.lockupWrite
  dsimp only
  split <;> rfl

/-- When the UTXO nursery emits `lockup` for a confirmed transaction, the swap can still be updated
and the amount is the expected one at least. -/
theorem checkSwapTransaction_returns {P : List (M Unit) → Prop}
    (h : (UtxoNursery.checkSwapTransaction swap values.transactionHash .confirmed).mayEnd t
      (fun _ _ cs => P cs) (w.withOutput values)) :
    (∃ cs, P cs ∧ (cs = [] ∨ ∃ updated reason, cs = [swapLockupFailed updated reason])) ∨
    (∃ stored, P [utxoSwapLockup swap.id values.transactionHash values.logIndex] ∧
      w.swaps.get swap.id = some stored ∧
      stored.status ∉ SwapRepository.lockupNonUpdatableStatuses ∧
      stored.expectedAmount.getD 0 ≤ values.amount) := by
  unfold UtxoNursery.checkSwapTransaction at h
  rw [(ends_read _ _).bind] at h
  dsimp only [World.withOutput_lockupOutput] at h
  split at h
  · exact .inl ⟨_, h, .inl rfl⟩
  cases hrow : w.swaps.get swap.id with
  | none =>
    rw [(ends_setLockupTransaction_none (w := w.withOutput values) hrow _ _ _).bind] at h
    exact .inl ⟨_, h, .inl rfl⟩
  | some stored =>
    rw [(ends_setLockupTransaction (w := w.withOutput values) hrow _ _ _).bind] at h
    simp only [↓reduceIte] at h
    split at h
    · exact .inl ⟨_, h, .inl rfl⟩
    split at h
    · exact .inl ⟨_, h, .inl rfl⟩
    rename_i hopen
    rw [Prog.mayEnd_bind] at h
    obtain ⟨reason, h, hamount⟩ := checkExpectedAmount_returns h
    cases reason with
    | some reason => exact .inl ⟨_, h, .inr ⟨_, _, rfl⟩⟩
    | none =>
      obtain ⟨_, reject, -, h⟩ := mayEnd_ask_bind.mp h
      cases reject with
      | true => exact .inl ⟨_, h, .inr ⟨_, _, rfl⟩⟩
      | false =>
        refine .inr ⟨stored, h, rfl, fun hclosed => hopen ?_, ?_⟩
        · rw [List.contains_iff_mem]
          rcases SwapRepository.lockupWrite_status stored ⟨values.transactionHash,
            some values.logIndex⟩ values.amount transactionConfirmed with hsame | ⟨hnot, -⟩
          · exact hsame ▸ hclosed
          · exact absurd hclosed hnot
        · rw [← lockupWrite_expectedAmount stored]
          exact hamount rfl

/-- The UTXO nursery can emit `lockup` for a lockup that the EVM nursery emits it for. -/
theorem mayEnd_checkSwapTransaction {stored : Swap} (hrow : w.swaps.get swap.id = some stored)
    (hemits : evmEmits swap.row stored values = true)
    (hopen : stored.status ∉ SwapRepository.lockupNonUpdatableStatuses)
    (hamount : stored.expectedAmount.getD 0 ≤ values.amount) {P : List (M Unit) → Prop}
    (hP : P [utxoSwapLockup swap.id values.transactionHash values.logIndex]) :
    (UtxoNursery.checkSwapTransaction swap values.transactionHash .confirmed).mayEnd t
      (fun _ _ cs => P cs) (w.withOutput values) := by
  simp only [evmEmits, EvmLockup.identity, Bool.and_eq_true, bne_iff_ne, Bool.not_eq_true']
    at hemits
  obtain ⟨⟨hignore, -⟩, hr⟩ := hemits
  have hupdated : (SwapRepository.lockupWrite stored ⟨values.transactionHash,
      some values.logIndex⟩ values.amount transactionConfirmed).2.status ∉
        SwapRepository.lockupNonUpdatableStatuses := by
    rcases SwapRepository.lockupWrite_status stored ⟨values.transactionHash,
      some values.logIndex⟩ values.amount transactionConfirmed with hsame | ⟨-, hconfirmed⟩
    · rw [hsame]
      exact hopen
    · rw [hconfirmed]
      decide
  unfold UtxoNursery.checkSwapTransaction
  rw [(ends_read _ _).bind]
  dsimp only [World.withOutput_lockupOutput]
  rw [if_neg (ne_true_of_eq_false hignore)]
  rw [(ends_setLockupTransaction (w := w.withOutput values) hrow _ _ _).bind]
  simp only [↓reduceIte]
  rw [if_neg hr, if_neg (mt List.contains_iff_mem.mp hupdated), Prog.mayEnd_bind]
  refine mayEnd_checkExpectedAmount ?_ ?_
  · rw [lockupWrite_expectedAmount]
    exact hamount
  · refine mayEnd_ask_bind.mpr ⟨.flag false, false, rfl, ?_⟩
    exact hP

end utxo

/-! ## The handlers of the nursery -/

section handlers

variable {u : Nat} {w : World} {l : Label}

/-- A failed lockup is only stored. -/
theorem not_mayTake_swapLockupFailed {swap : Instance Swap} {reason : SwapError}
    (hl : l ≠ .other) (hfailed : l ≠ .lockupFailed swap.id) :
    ¬(swapLockupFailed swap reason).mayTake u l w := by
  refine Prog.not_mayTake_of_uses (C := fun _ => True) ?_
  exact uses_swapLockupFailed ⟨hl.symm, hl.symm⟩ (fun _ => hfailed.symm) hl.symm

theorem not_mayTake_setSwapRate {swap : Instance Swap} (hl : l ≠ .other) :
    ¬(setSwapRate swap).mayTake u l w := by
  refine Prog.not_mayTake_of_uses (C := fun _ => True) ?_
  refine .when _ (.bind (uses_ask hl.symm) fun _ => ?_)
  exact .bind (uses_update_swap hl.symm) fun _ => trivial

/-- `payInvoice` can come to look up the payments. -/
theorem mayTake_payInvoice (swap : Instance Swap) :
    (PaymentHandler.payInvoice swap).mayTake u (.payInvoice swap.id .payments) w := by
  have hpending : ∃ (updated : Instance Swap) (w' : World), updated.id = swap.id ∧
      (PaymentHandler.setInvoicePending swap).Ends u w (.ok updated) w' := by
    unfold PaymentHandler.setInvoicePending
    split
    · exact ⟨swap, w, rfl, Prog.ends_pure swap⟩
    · exact ⟨⟨swap.id, swap.row.withStatus invoicePending none⟩, _, rfl,
        (ends_write _ _).trans (Prog.ends_pure _)⟩
  obtain ⟨updated, w', hid, hends⟩ := hpending
  refine hends.mayTake_bind (mayTake_external_bind ?_)
  refine mayTake_ask_bind (ω := .number 0) rfl ?_
  refine mayTake_ask_bind (ω := .flag false) rfl ?_
  refine mayTake_ask_bind (ω := .flag false) rfl ?_
  refine mayTake_ask_bind (ω := .number 0) rfl ?_
  rw [hid]
  exact ⟨.nothing, _, _, rfl, .inl rfl⟩

theorem ends_fetchSwapForSettlement {swap fetched : Instance Swap}
    (hswap : w.swaps.byId swap.id = some fetched) :
    (fetchSwapForSettlement (.submarine swap)).Ends u w
      (.ok (if isSettled fetched.row.status then none else some (.submarine fetched))) w := by
  refine (ends_read _ _).trans ?_
  rw [hswap]
  cases hsettled : isSettled fetched.row.status with
  | true =>
    simp only [Option.filter_some, hsettled]
    exact Prog.ends_pure none
  | false =>
    simp only [Option.filter_some, hsettled]
    exact Prog.ends_pure (some (ClaimSwap.submarine fetched))

/-- A settled swap is not settled again. -/
theorem not_isSettled_of_mayTake {swap fetched : Instance Swap} {preimage : Option Nat}
    (hswap : w.swaps.byId swap.id = some fetched) (hl : l ≠ .fetchForPayment swap.id)
    (h : (attemptSettleSwap (.submarine swap) preimage).mayTake u l w) :
    isSettled fetched.row.status = false := by
  by_contra hsettled
  rw [Bool.not_eq_false] at hsettled
  have hread : ¬(fetchSwapForSettlement (.submarine swap)).mayTake u l w := by
    rintro ⟨_, _, _, _, hlabel | h⟩
    · exact hl hlabel.symm
    · exact h
  rw [attemptSettleSwap, Prog.mayTake_bind, ends_fetchSwapForSettlement hswap, if_pos hsettled] at h
  rcases h with h | ⟨_, hr, h⟩
  · exact hread h
  · cases hr
    exact h

theorem mayTake_attemptSettleSwap {swap : Instance Swap} (fetched : Instance Swap)
    {preimage : Option Nat} (hswap : w.swaps.byId swap.id = some fetched)
    (hopen : isSettled fetched.row.status = false) :
    (attemptSettleSwap (.submarine swap) preimage).mayTake u (.payInvoice fetched.id .payments)
      w := by
  refine (ends_fetchSwapForSettlement hswap).mayTake_bind ?_
  rw [if_neg (ne_true_of_eq_false hopen)]
  refine (Prog.mayTake_bind _ _).mpr (.inl ?_)
  exact (Prog.mayTake_bind _ _).mpr (.inl (mayTake_payInvoice fetched))

variable {id : Nat} {values : EvmLockup}

/-- When the handler of an EVM lockup comes to `payInvoice`. -/
theorem evmPays_of_mayTake (hfree : w.locks .swap = none) (hl : l ≠ .other)
    (hfetch : l ≠ .fetchForPayment id)
    (h : (evmSwapLockup id values.transactionHash values.logIndex).mayTake u l w) :
    ∃ row, w.swaps.get id = some row ∧ evmPays row values = true := by
  unfold evmSwapLockup at h
  rw [mayTake_withLock hl hfree] at h
  replace h := (mayTake_read_bind hl.symm).mp h
  rw [World.held_swaps] at h
  cases hswap : w.swaps.byId id with
  | none =>
    rw [hswap] at h
    exact h.elim
  | some swap =>
    rw [hswap] at h
    obtain ⟨hid, hrow⟩ := Table.byId_eq_some.mp hswap
    refine ⟨swap.row, hrow, ?_⟩
    dsimp only at h
    split at h
    · exact h.elim
    rename_i hfailed
    split at h
    · exact h.elim
    rename_i howned
    split at h
    · exact absurd h (not_mayTake_setSwapRate hl)
    rename_i hinvoice
    split at h
    · exact h.elim
    rename_i hrefund
    subst hid
    have hopen : isSettled swap.row.status = false :=
      not_isSettled_of_mayTake (w := w.held .swap u) hswap hfetch h
    exact evmPays_iff.mpr ⟨hfailed, eq_false_of_ne_true howned, eq_false_of_ne_true hinvoice,
      eq_false_of_ne_true hrefund, hopen⟩

/-- The handler of an EVM lockup can come to pay the invoice. -/
theorem mayTake_evmSwapLockup (hfree : w.locks .swap = none) {row : Swap}
    (hrow : w.swaps.get id = some row) (hpays : evmPays row values = true) :
    (evmSwapLockup id values.transactionHash values.logIndex).mayTake u
      (.payInvoice id .payments) w := by
  have hswap : w.swaps.byId id = some ⟨id, row⟩ := Table.byId_eq_some.mpr ⟨rfl, hrow⟩
  obtain ⟨hfailed, howned, hinvoice, hrefund, hsettled⟩ := evmPays_iff.mp hpays
  unfold evmSwapLockup
  rw [mayTake_withLock (l := .payInvoice id .payments) nofun hfree]
  refine (ends_read _ _).mayTake_bind ?_
  rw [World.held_swaps, hswap]
  dsimp only
  rw [if_neg hfailed, if_neg (ne_true_of_eq_false howned),
    if_neg (ne_true_of_eq_false hinvoice), if_neg (ne_true_of_eq_false hrefund)]
  exact mayTake_attemptSettleSwap (w := w.held .swap u) ⟨id, row⟩ hswap hsettled

/-- The handler of a UTXO lockup can come to pay the invoice when that of an EVM lockup can. -/
theorem mayTake_utxoSwapLockup (hfree : w.locks .swap = none) {row : Swap}
    (hrow : w.swaps.get id = some row) (hpays : evmPays row values = true) :
    (utxoSwapLockup id values.transactionHash values.logIndex).mayTake u
      (.payInvoice id .payments) w := by
  have hswap : w.swaps.byId id = some ⟨id, row⟩ := Table.byId_eq_some.mpr ⟨rfl, hrow⟩
  obtain ⟨hfailed, howned, hinvoice, hrefund, hsettled⟩ := evmPays_iff.mp hpays
  unfold utxoSwapLockup nurserySwapLockup
  rw [mayTake_withLock (l := .payInvoice id .payments) nofun hfree]
  refine (ends_read _ _).mayTake_bind ?_
  rw [World.held_swaps, hswap]
  dsimp only
  rw [if_neg (ne_true_of_eq_false howned), if_neg (ne_true_of_eq_false hrefund),
    if_neg (ne_true_of_eq_false hsettled), if_neg (ne_true_of_eq_false hinvoice)]
  exact (Prog.mayTake_bind _ _).mpr (.inl (mayTake_payInvoice ⟨id, row⟩))

end handlers

/-! ## EVM lockups act as UTXO lockups -/

section deliveries

variable {t u : Nat} {swap : Instance Swap} {values : EvmLockup} {w₁ w₂ : World}

/-- What an EVM lockup leads to: the event is emitted, and the handler pays. -/
theorem evm_mayLeadTo (hfree : w₁.locks (.ethereumSwap swap.id) = none)
    (hfree' : w₂.locks .swap = none) {l : Label} (hl : l ≠ .other)
    (hfetch : l ≠ .fetchForPayment swap.id) (hfailed : ∀ id, l ≠ .lockupFailed id)
    (h : mayLeadTo t u (EthereumNursery.processSwapLockup swap values) l w₁ w₂) :
    ∃ stored row, w₁.swaps.get swap.id = some stored ∧ evmEmits swap.row stored values = true ∧
      w₂.swaps.get swap.id = some row ∧ evmPays row values = true := by
  rcases processSwapLockup_returns (P := fun _ cs => ∃ c ∈ cs, c.mayTake u l w₂) hfree h with
    ⟨_, cs, ⟨c, hc, htake⟩, hcs, -⟩ | ⟨_, stored, ⟨c, hc, htake⟩, hrow, hemits, -⟩
  · rcases hcs with rfl | ⟨updated, reason, rfl⟩
    · cases hc
    · rw [List.mem_singleton] at hc
      subst hc
      exact absurd htake (not_mayTake_swapLockupFailed hl (hfailed _))
  · rw [List.mem_singleton] at hc
    subst hc
    obtain ⟨row, hhandled, hpays⟩ := evmPays_of_mayTake hfree' hl hfetch htake
    exact ⟨stored, row, hrow, hemits, hhandled, hpays⟩

theorem mayLeadTo_evm (hfree : w₁.locks (.ethereumSwap swap.id) = none)
    (hfree' : w₂.locks .swap = none) {stored row : Swap}
    (hrow : w₁.swaps.get swap.id = some stored) (hemits : evmEmits swap.row stored values = true)
    (hhandled : w₂.swaps.get swap.id = some row) (hpays : evmPays row values = true) :
    mayLeadTo t u (EthereumNursery.processSwapLockup swap values) (.payInvoice swap.id .payments)
      w₁ w₂ :=
  mayEnd_processSwapLockup
    (P := fun _ cs => ∃ c ∈ cs, c.mayTake u (Label.payInvoice swap.id .payments) w₂) hfree hrow
    hemits fun _ _ => ⟨_, List.mem_singleton_self _, mayTake_evmSwapLockup hfree' hhandled hpays⟩

theorem utxo_mayLeadTo
    (h : mayLeadTo t u (UtxoNursery.checkSwapTransaction swap values.transactionHash .confirmed)
      (.payInvoice swap.id .payments) (w₁.withOutput values) w₂) :
    ∃ stored, w₁.swaps.get swap.id = some stored ∧
      stored.status ∉ SwapRepository.lockupNonUpdatableStatuses ∧
      stored.expectedAmount.getD 0 ≤ values.amount := by
  rcases checkSwapTransaction_returns h with ⟨cs, ⟨c, hc, htake⟩, hcs⟩ | ⟨stored, -, hrow⟩
  · rcases hcs with rfl | ⟨updated, reason, rfl⟩
    · cases hc
    · rw [List.mem_singleton] at hc
      subst hc
      exact absurd htake (not_mayTake_swapLockupFailed nofun nofun)
  · exact ⟨stored, hrow⟩

theorem mayLeadTo_utxo (hfree : w₂.locks .swap = none) {stored row : Swap}
    (hrow : w₁.swaps.get swap.id = some stored) (hemits : evmEmits swap.row stored values = true)
    (hopen : stored.status ∉ SwapRepository.lockupNonUpdatableStatuses)
    (hamount : stored.expectedAmount.getD 0 ≤ values.amount)
    (hhandled : w₂.swaps.get swap.id = some row) (hpays : evmPays row values = true) :
    mayLeadTo t u (UtxoNursery.checkSwapTransaction swap values.transactionHash .confirmed)
      (.payInvoice swap.id .payments) (w₁.withOutput values) w₂ :=
  mayEnd_checkSwapTransaction hrow hemits hopen hamount
    ⟨_, List.mem_singleton_self _, mayTake_utxoSwapLockup hfree hhandled hpays⟩

/-- The statuses of a swap that is over. -/
theorem status_of_isOver {row : Swap} (hover : isOver row values = true) :
    (row.status ∈ SwapRepository.lockupNonUpdatableStatuses ∧ row.status ≠ invoicePending) ∨
      (row.status = transactionLockupFailed ∧ ∃ e,
        storedLockup row.lockupTransactionId row.lockupTransactionVout = some e ∧
          isSameLockup e values.identity = true) := by
  simp only [isOver, Bool.or_eq_true, Bool.and_eq_true, beq_iff_eq, List.contains_iff_mem,
    Option.any_eq_true] at hover
  rcases hover with hmem | ⟨hfailed, hsame⟩
  · refine .inl ?_
    generalize row.status = status at hmem ⊢
    revert hmem
    revert status
    decide
  · exact .inr ⟨hfailed, hsame⟩

/-- A lockup that failed is stored as confirmed when it comes again. -/
theorem lockupWrite_of_failed {row : Swap} {incoming e : LockupIdentity} {amount : Nat}
    (hfailed : row.status = transactionLockupFailed)
    (hstored : storedLockup row.lockupTransactionId row.lockupTransactionVout = some e)
    (hsame : isSameLockup e incoming = true) :
    (SwapRepository.lockupWrite row incoming amount transactionConfirmed).2.status =
      transactionConfirmed := by
  unfold SwapRepository.lockupWrite decideLockupWrite
  simp only [hstored, hsame, hfailed, ↓reduceIte]
  rfl

/-- The lockup of a swap that is over moves it back only when the lockup had failed. -/
theorem movesBack_iff (hfree : w₁.locks (.ethereumSwap swap.id) = none) {stored : Swap}
    (hrow : w₁.swaps.get swap.id = some stored) (hover : isOver stored values = true) :
    (EthereumNursery.processSwapLockup swap values).mayEnd t (fun _ w' _ =>
      (w'.swaps.get swap.id).any (fun s => [transactionConfirmed, invoicePending].contains s.status)
        = true) w₁ ↔
      evmEmits swap.row stored values = true ∧ stored.status = transactionLockupFailed := by
  have hback : stored.status ∉ [transactionConfirmed, invoicePending] := by
    rcases status_of_isOver hover with ⟨hclosed, hpending⟩ | ⟨hfailed, -⟩
    · simp only [List.mem_cons, List.not_mem_nil, or_false, not_or]
      refine ⟨fun hconfirmed => ?_, hpending⟩
      rw [hconfirmed] at hclosed
      exact absurd hclosed (by decide)
    · rw [hfailed]
      decide
  constructor
  · intro h
    rcases processSwapLockup_returns (P := fun T _ => (T.get swap.id).any (fun s =>
      [transactionConfirmed, invoicePending].contains s.status) = true) hfree h with
      ⟨T, _, hT, -, hstatus⟩ | ⟨T, stored', hT, hrow', hemits, hstatus⟩
    · rw [← Option.any_map] at hT
      rcases hstatus with hstatus | hstatus
      · rw [hstatus, hrow] at hT
        exact absurd (List.contains_iff_mem.mp hT) hback
      · rw [hstatus] at hT
        exact absurd hT (by decide)
    · cases hrow.symm.trans hrow'
      refine ⟨hemits, ?_⟩
      rcases status_of_isOver hover with ⟨hclosed, -⟩ | ⟨hfailed, -⟩
      · rw [← Option.any_map, hstatus] at hT
        rcases SwapRepository.lockupWrite_status stored values.identity values.amount
          transactionConfirmed with hsame | ⟨hopen, -⟩
        · rw [hsame] at hT
          exact absurd (List.contains_iff_mem.mp hT) hback
        · exact absurd hclosed hopen
      · exact hfailed
  · rintro ⟨hemits, hfailed⟩
    refine mayEnd_processSwapLockup (P := fun T _ => (T.get swap.id).any (fun s =>
      [transactionConfirmed, invoicePending].contains s.status) = true) hfree hrow hemits
      fun T hstatus => ?_
    rcases status_of_isOver hover with ⟨hclosed, -⟩ | ⟨-, e, hstored, hsame⟩
    · rw [hfailed] at hclosed
      exact absurd hclosed (by decide)
    · rw [← Option.any_map, hstatus, lockupWrite_of_failed hfailed hstored hsame]
      rfl

/-- A delivery acts as one of a UTXO swap would exactly when it is timely. -/
theorem actsAsUtxo_iff (hstatus : swap.row.status ∈ [swapCreated, invoiceSet])
    (hfree : w₁.locks (.ethereumSwap swap.id) = none) (hfree' : w₂.locks .swap = none) :
    ActsAsUtxo t u swap values w₁ w₂ ↔ (w₁.swaps.get swap.id).all (fun stored =>
      isTimely swap.row stored (w₂.swaps.get swap.id) values) = true := by
  simp only [Option.all_eq_true, isTimely_iff]
  constructor
  · intro hacts stored hrow hemits
    refine ⟨?_, fun row hhandled hpays => ?_⟩
    · rintro ⟨hfailed, hover⟩
      exact hacts.notMovedBack stored hrow hover ((movesBack_iff hfree hrow hover).mpr
        ⟨hemits, hfailed⟩)
    · have hleads := mayLeadTo_evm (t := t) (u := u) hfree hfree' hrow hemits hhandled hpays
      obtain ⟨-, hutxo⟩ := hacts.pays hleads
      obtain ⟨stored', hrow', hopen, hamount⟩ := utxo_mayLeadTo hutxo
      cases hrow.symm.trans hrow'
      refine ⟨hopen, hamount, ?_⟩
      by_contra hover
      rw [Bool.not_eq_false] at hover
      exact (hacts.notPaidAgain row hhandled hover).1 hleads
  · intro htimely
    refine ⟨fun hleads => ?_, fun stored hrow hover hmoved => ?_, fun row hhandled hover => ?_⟩
    · obtain ⟨stored, row, hrow, hemits, hhandled, hpays⟩ :=
        evm_mayLeadTo (l := .payInvoice swap.id .payments) hfree hfree' nofun nofun nofun hleads
      obtain ⟨hopen, hamount, -⟩ := (htimely stored hrow hemits).2 row hhandled hpays
      refine ⟨?_, mayLeadTo_utxo hfree' hrow hemits hopen hamount hhandled hpays⟩
      revert hstatus
      generalize swap.row.status = status
      revert status
      decide
    · obtain ⟨hemits, hfailed⟩ := (movesBack_iff hfree hrow hover).mp hmoved
      exact (htimely stored hrow hemits).1 ⟨hfailed, hover⟩
    · have hnever : ∀ {l : Label}, l ≠ .other → l ≠ .fetchForPayment swap.id →
          (∀ id, l ≠ .lockupFailed id) →
          ¬mayLeadTo t u (EthereumNursery.processSwapLockup swap values) l w₁ w₂ := by
        intro l hl hfetch hfailed hleads
        obtain ⟨stored, row', hrow, hemits, hhandled', hpays⟩ :=
          evm_mayLeadTo hfree hfree' hl hfetch hfailed hleads
        cases hhandled.symm.trans hhandled'
        obtain ⟨-, -, hnot⟩ := (htimely stored hrow hemits).2 row hhandled hpays
        rw [hover] at hnot
        cases hnot
      exact ⟨hnever nofun nofun nofun, hnever nofun nofun nofun⟩

end deliveries

/-! ## Deliveries of one event -/

def ether : Currency := { symbol := 1, type := .ether }

/-- A submarine swap that waits for its lockup in a contract. -/
def contractSwap : Swap :=
  { pendingSwap with
    chainCurrency := ether
    status := invoiceSet
    onchainAmount := none
    lockupTransactionId := none
    lockupTransactionVout := none }

def contractLockup : EvmLockup := ⟨5, 0, 1000, EthereumNursery.serverAddress, 4, 0, 10⟩

def contractWorld : World where
  swaps := Table.empty.put 1 contractSwap

/-- The state after the lockup was stored. -/
def lockedContractWorld : World where
  swaps := Table.empty.put 1 { pendingSwap with
    chainCurrency := ether, status := transactionConfirmed }

/-- The first delivery is timely. -/
theorem actsAsUtxo_first : contractSwap.status ∈ [swapCreated, invoiceSet] ∧
    evmEmits contractSwap contractSwap contractLockup = true ∧
    ActsAsUtxo 1 4 ⟨1, contractSwap⟩ contractLockup contractWorld lockedContractWorld :=
  ⟨by decide, by decide, (actsAsUtxo_iff (by decide) rfl rfl).mpr (by decide)⟩

/-- The moves until the payment of the first delivery (tasks 1 and 4) has failed. The second
delivery (task 3) queried the swap before. -/
def firstDelivery : List (Move Entry Answer) :=
  List.flatten [[.spawn (.evmLockup 0 contractLockup)], steps 0 [.nothing],
    [.spawn (.evmLockup 0 contractLockup)], steps 2 [.nothing],
    steps 1 [.nothing], steps 3 [.nothing],
    steps 1 [.nothing, .flag false, .flag false, .flag false, .nothing, .nothing, .nothing,
      .nothing, .nothing],
    steps 4 [.nothing, .nothing, .nothing, .nothing, .flag true, .number 100, .flag false,
      .flag false, .number 0, .nothing, .flag true, .nothing, .nothing, .nothing, .nothing,
      .nothing]]

/-- The second delivery goes on with the swap whose payment failed, and its handler (task 5) sets
the invoice pending again. -/
theorem failed_payment_repeated :
    (∃ h, Reaches Policy.free start contractWorld h ∧
      ¬ActsAsUtxo 3 5 ⟨1, contractSwap⟩ contractLockup h.world h.world) ∧
    ∃ h, Reaches Policy.free start contractWorld h ∧ h.trace.any (fun e =>
      e.label == .setInvoicePending 1 &&
        (e.before.swaps.get 1).any (·.status == invoiceFailedToPay)) = true := by
  constructor
  · obtain ⟨h, hr, hstate⟩ := Reaches.of_run Policy.free start contractWorld firstDelivery
      (fun h => h.world.locks (.ethereumSwap 1) == none && h.world.locks .swap == none &&
        (h.world.swaps.get 1).any fun row => evmEmits contractSwap row contractLockup &&
          evmPays row contractLockup && isOver row contractLockup) (by decide +kernel)
    simp only [Bool.and_eq_true, beq_iff_eq, Option.any_eq_true] at hstate
    obtain ⟨⟨hfree, hfree'⟩, row, hrow, ⟨hemits, hpays⟩, hover⟩ := hstate
    refine ⟨h, hr, fun hacts => ?_⟩
    exact (hacts.notPaidAgain row hrow hover).1 (mayLeadTo_evm hfree hfree' hrow hemits hrow hpays)
  · exact Reaches.of_run Policy.free start contractWorld (firstDelivery ++ List.flatten
      [steps 3 [.nothing, .flag false, .flag false, .flag false, .nothing, .nothing, .nothing,
        .nothing], steps 5 [.nothing, .nothing, .nothing, .nothing]]) _ (by decide +kernel)

end Boltz

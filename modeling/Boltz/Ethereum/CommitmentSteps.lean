import Boltz.Ethereum.CommitmentSwaps

/-!
# Steps of swaps with commitments

`Effect` lists what a step can do. From it follow the changes of the rows, of the handlers, of the
history and of the commitments, each on its own.
-/

namespace Boltz.Ethereum

open Async SwapUpdateEvent
open ConsolidatedEventHandler (LockupName Log Receipt LockupEventEntry)

namespace State

variable (manager : EthereumManager) (s : State)

/-! ## What a step does -/

/-- What a handler reads before its next phase. -/
inductive Moves (h : Handler) : HandlerPhase → Prop where
  | approved {row : ChainSwap} (hrow : s.swaps h.id = some (.chain row))
      (hphase : h.phase = .waiting) (hlockable : isLockable row h.owner = true) : Moves h .approved
  | locked {row : ChainSwap} (hrow : s.swaps h.id = some (.chain row))
      (hphase : h.phase = .approved) (hlockable : isLockable row h.owner = true) :
      Moves h (.fetched (UserSwap.chain row).lockup)
  | fetched {row : Swap} (hrow : s.swaps h.id = some (.submarine row))
      (hphase : h.phase = .waiting) (hpayable : isPayable row h.owner = true) :
      Moves h (.fetched (UserSwap.submarine row).lockup)
  | settling {row : Swap} {lockup : Option LockupIdentity}
      (hrow : s.swaps h.id = some (.submarine row)) (hphase : h.phase = .fetched lockup) :
      Moves h (.settling row.status (UserSwap.submarine row).lockup)
  | pending {row : Swap} {lockup : Option LockupIdentity}
      (hrow : s.swaps h.id = some (.submarine row))
      (hphase : h.phase = .settling invoicePending lockup) : Moves h (.pending lockup)
  | sent {row : Swap} {lockup : Option LockupIdentity}
      (hrow : s.swaps h.id = some (.submarine row)) (hphase : h.phase = .pending lockup)
      (hopen : s.paymentOpen h.id = true) : Moves h .sent

/-- The next phase of a commit that writes nothing. -/
inductive CommitMoves (request : CommitRequest) : CommitPhase → CommitPhase → Prop where
  | loaded {swap : UserSwap} (hrow : s.swaps request.swapId = some swap) :
      CommitMoves request .begun (.loaded swap)
  | found {c : CommitLockup}
      (hcontract : Commitments.findContractForAddress manager c.swap.lockupAddress = .ok c.contract)
      (hlockup : Commitments.findLockupEvent (s.events.receipts request.transactionHash) c.contract
        request.logIndex = .ok c.lockup) :
      CommitMoves request (.loaded c.swap) (.found c)
  | checked {c : CommitLockup} {commitment : Commitment}
      (hcheck : Commitments.checkCommit manager s.commitments request c.swap c.contract
        c.lockup.values = .ok commitment) :
      CommitMoves request (.found c) (.checked c commitment)
  | fetched {c : CommitLockup} {commitment : Commitment} :
      CommitMoves request (.created c commitment) (.fetched c commitment)

def CommitPhase.isCreated : CommitPhase → Bool
  | .created _ _ | .fetched _ _ => true
  | _ => false

/-- The next phase of a refund that writes nothing. -/
inductive RefundMoves : RefundRequest → RefundPhase → RefundPhase → Prop where
  | found {r : CommitmentRefundRequest} {target : RefundTarget} :
      RefundMoves (.commitment r) .begun (.found target)
  | loadedSwap {id : Nat} {swap : UserSwap} (hrow : s.swaps id = some swap) :
      RefundMoves (.swap id) .begun (.loaded id swap none)
  | loaded {request : RefundRequest} {id : Nat} {swap : UserSwap} {target : RefundTarget}
      (hid : (s.refundedLockup manager request target).2 = some id)
      (hrow : s.swaps id = some swap) :
      RefundMoves request (.found target) (.loaded id swap (some target))
  | unlinked {request : RefundRequest} {target : RefundTarget}
      (hid : (s.refundedLockup manager request target).2 = none) :
      RefundMoves request (.found target) (.ready none target)
  | checked {request : RefundRequest} {id : Nat} {swap : UserSwap} {target : RefundTarget}
      (hreason : swap.refundNonEligibilityReason (s.paymentOpen id) (s.refunds id) = none) :
      RefundMoves request (.loaded id swap (some target)) (.ready (some id) target)
  | checkedSwap {request : RefundRequest} {id : Nat} {swap : UserSwap}
      (hreason : swap.refundNonEligibilityReason (s.paymentOpen id) (s.refunds id) = none) :
      RefundMoves request (.loaded id swap none) (.eligible id swap)
  | queried {request : RefundRequest} {id : Nat} {swap : UserSwap} {target : RefundTarget}
      (hquery : s.queryLockup manager id swap = some target) :
      RefundMoves request (.eligible id swap) (.ready (some id) target)
  | flagged {request : RefundRequest} {id : Option Nat} {target : RefundTarget}
      (hnone : id.bind s.swaps = none) :
      RefundMoves request (.ready id target) (.flagged id target)

/-- Everything that a step can do, with the checks that it made. -/
inductive Effect : Op → State → Prop where
  | events {op : ConsolidatedEventHandler.Op SwapValues}
      {events : ConsolidatedEventHandler.State SwapValues}
      (hop : ∀ e, op ≠ .handleEvent e) (hlive : op ≠ .destroy)
      (hstep : s.events.step manager.requiredConfirmations op = some events) :
      Effect (.events op) { s with events }
  | contractEvent {txHash logIndex : Nat} {receipt : Receipt SwapValues} {log : Log SwapValues}
      (hreceipt : s.events.receipts txHash = some receipt)
      (hlog : receipt.logs.find? (·.index == logIndex) = some log) :
      Effect (.contractEvent txHash logIndex) (s.handleEvent manager (logEntry txHash log))
  | restart : Effect .restart s.restart
  | createSwap {id : Nat} {swap : UserSwap} (hnone : s.swaps id = none) (hnew : isNew swap = true) :
      Effect (.createSwap id swap) (s.setRow id swap)
  | setInvoice {id invoice expectedAmount : Nat} {row : Swap}
      (hrow : s.swaps id = some (.submarine row)) (hflag : row.createdRefundSignature = false)
      (hinvoice : row.invoice = none) :
      Effect (.setInvoice id invoice expectedAmount)
        (s.setRow id (.submarine (withInvoice row invoice expectedAmount)))
  | settleInvoice {id invoice expectedAmount : Nat} {row : Swap}
      (hrow : s.swaps id = some (.submarine row)) (hflag : row.createdRefundSignature = false)
      (hinvoice : row.invoice = none) (hlocked : (UserSwap.submarine row).lockup.isSome = true) :
      Effect (.setInvoice id invoice expectedAmount)
        ((s.setRow id (.submarine (withInvoice row invoice expectedAmount))).push
          { id, owner := none, phase := .fetched (UserSwap.submarine row).lockup })
  | setStatus {id : Nat} {status : SwapUpdateEvent} {row : UserSwap}
      (hrow : s.swaps id = some row) (hforeign : isForeign status = true) :
      Effect (.setStatus id status) (s.setRow id (row.setStatus status))
  | refundTransaction {id : Nat} {status : RefundStatus} :
      Effect (.refundTransaction id status)
        { s with refunds := Function.update s.refunds id (some status) }
  | paymentResult {id : Nat} {status : LightningPaymentStatus}
      (hpending : s.payments id = some .pending) :
      Effect (.paymentResult id status)
        { s with payments := Function.update s.payments id (some status) }
  | ignored {i id : Nat} {swap : UserSwap} :
      Effect (.listen i id) { s with listened := s.listened ++ [(i, swap.type)] }
  | listen {i id : Nat} {entry : LockupEventEntry SwapValues} {swap : UserSwap}
      (hentry : s.delivered[i]? = some entry) (hrow : s.swaps id = some swap)
      (hlistened : isListened swap entry = true) :
      Effect (.listen i id)
        { s with
          listened := s.listened ++ [(i, swap.type)]
          lockups := s.lockups ++ [{ id, row := swap, entry }] }
  | skip {i : Nat} {valid : Bool} {task : LockupTask} (hget : s.lockups[i]? = some task) :
      Effect (.record i valid) { s with lockups := s.lockups.eraseIdx i }
  | record {i : Nat} {valid : Bool} {task : LockupTask} {row : UserSwap}
      (hget : s.lockups[i]? = some task) (hrow : s.swaps task.id = some row)
      (hcompeting : shouldIgnoreCompetingLockup task.row.lockup (incomingLockup task.entry)
        task.row.status = false)
      (howned : (lockupWrite manager task valid row).1 ≠ .rejected) :
      Effect (.record i valid)
        (({ s with lockups := s.lockups.eraseIdx i }.setRow task.id
          (lockupWrite manager task valid row).2).addTransaction
            (incomingLockup task.entry).transactionId)
  | recordHandled {i : Nat} {valid : Bool} {task : LockupTask} {row : UserSwap}
      (hget : s.lockups[i]? = some task) (hrow : s.swaps task.id = some row)
      (hcompeting : shouldIgnoreCompetingLockup task.row.lockup (incomingLockup task.entry)
        task.row.status = false)
      (howned : (lockupWrite manager task valid row).1 ≠ .rejected) :
      Effect (.record i valid)
        ((({ s with lockups := s.lockups.eraseIdx i }.setRow task.id
          (lockupWrite manager task valid row).2).addTransaction
            (incomingLockup task.entry).transactionId).push
              { id := task.id, owner := some (incomingLockup task.entry) })
  | retry {id : Nat} {row : UserSwap} (hrow : s.swaps id = some row)
      (hheld : row.type = .chain → id ∈ s.holds) :
      Effect (.retry id) (s.push { id, owner := none })
  | endHandler {i : Nat} {h : Handler} {step : HandlerStep} (hget : s.handlers[i]? = some h) :
      Effect (.handler i step) (s.endHandler i)
  | moveHandler {i : Nat} {h : Handler} {step : HandlerStep} {phase : HandlerPhase}
      (hget : s.handlers[i]? = some h) (hmove : s.Moves h phase) :
      Effect (.handler i step) (s.setHandler i { h with phase })
  | hold {i : Nat} {h : Handler} {lockup : Option LockupIdentity}
      (hget : s.handlers[i]? = some h) (hphase : h.phase = .fetched lockup) :
      Effect (.handler i .hold) { s.endHandler i with holds := h.id :: s.holds }
  | pay {i : Nat} {h : Handler} {row : Swap} {status : SwapUpdateEvent}
      {lockup : Option LockupIdentity} (hget : s.handlers[i]? = some h)
      (hrow : s.swaps h.id = some (.submarine row)) (hphase : h.phase = .settling status lockup) :
      Effect (.handler i .pay)
        ((s.setHandler i { h with phase := .pending lockup }).setRow h.id
          (.submarine { row with status := invoicePending }))
  | startPayment {i : Nat} {h : Handler} {row : Swap} {lockup : Option LockupIdentity}
      (hget : s.handlers[i]? = some h) (hrow : s.swaps h.id = some (.submarine row))
      (hphase : h.phase = .pending lockup) (hopen : s.paymentOpen h.id = false) :
      Effect (.handler i .send)
        { (s.setHandler i { h with phase := .sent }).act h.id lockup with
          payments := Function.update s.payments h.id (some .pending) }
  | sendLockup {i : Nat} {h : Handler} {row : ChainSwap} {lockup : Option LockupIdentity}
      (hget : s.handlers[i]? = some h) (hrow : s.swaps h.id = some (.chain row))
      (hphase : h.phase = .fetched lockup) :
      Effect (.handler i .send) ((s.setHandler i { h with phase := .sent }).act h.id lockup)
  | storeResult {i txHash : Nat} {h : Handler} {row : UserSwap} {status : SwapUpdateEvent}
      (hget : s.handlers[i]? = some h) (hrow : s.swaps h.id = some row)
      (hphase : h.phase = .sent) (hstatus : status = invoicePaid ∨ status = invoiceFailedToPay) :
      Effect (.handler i (.finish txHash)) ((s.endHandler i).setRow h.id (row.setStatus status))
  | serverLockup {i txHash : Nat} {h : Handler} {row : ChainSwap}
      (hget : s.handlers[i]? = some h) (hrow : s.swaps h.id = some (.chain row))
      (hphase : h.phase = .sent) :
      Effect (.handler i (.finish txHash))
        ((s.endHandler i).setRow h.id ((UserSwap.chain row).setServerLockup txHash))
  | commit {request : CommitRequest} (hfree : s.call = none) :
      Effect (.commit request)
        { s.inCommit s.commits request .begun with commits := s.commits + 1 }
  | throwCommit {op : Op} {number : Nat} {request : CommitRequest} {phase : CommitPhase}
      {error : Option CommitError} (hcall : s.call = some (.commit number request phase))
      (hphase : op = .fail ∨ CommitPhase.isCreated phase = false) :
      Effect op (s.throwCommit number error)
  | moveCommit {number : Nat} {request : CommitRequest} {phase phase' : CommitPhase}
      (hcall : s.call = some (.commit number request phase))
      (hmove : s.CommitMoves manager request phase phase') :
      Effect .advance (s.inCommit number request phase')
  | link {number : Nat} {request : CommitRequest} {c : CommitLockup} {commitment : Commitment}
      {commitments : List Commitment}
      (hcall : s.call = some (.commit number request (.checked c commitment)))
      (hcreate : CommitmentRepository.create s.commitments commitment = some commitments) :
      Effect .advance
        { s.inCommit number request (.created c commitment) with
          commitments
          history := .linked number commitment.lockupHash request.swapId :: s.history }
  | handOver {number : Nat} {request : CommitRequest} {c : CommitLockup} {commitment : Commitment}
      (hcall : s.call = some (.commit number request (.fetched c commitment))) :
      Effect .advance
        { s.handleEvent manager (commitEntry request c) with
          call := none
          history := .committed number commitment.lockupHash request.swapId :: s.history }
  | refund {request : RefundRequest} (hfree : s.call = none) :
      Effect (.refund request) (s.inRefund request .begun)
  | endRefund {op : Op} {request : RefundRequest} {phase : RefundPhase}
      (hcall : s.call = some (.refund request phase)) : Effect op s.endCall
  | moveRefund {request : RefundRequest} {phase phase' : RefundPhase}
      (hcall : s.call = some (.refund request phase))
      (hmove : s.RefundMoves manager request phase phase') :
      Effect .advance (s.inRefund request phase')
  | flag {request : RefundRequest} {id : Nat} {target : RefundTarget} {row : UserSwap}
      (hcall : s.call = some (.refund request (.ready (some id) target)))
      (hrow : s.swaps id = some row) :
      Effect .advance
        ((s.setRow id row.setRefundSignatureCreated).inRefund request (.flagged (some id) target))
  | mark {request : RefundRequest} {id : Option Nat} {target : RefundTarget}
      (hcall : s.call = some (.refund request (.flagged id target))) :
      Effect .advance
        { s.inRefund request (.marked id target) with
          commitments := s.markRefunded manager request target }
  | sign {request : RefundRequest} {id : Option Nat} {target : RefundTarget}
      (hcall : s.call = some (.refund request (.marked id target))) :
      Effect .advance (s.signed (s.refundedLockup manager request target))

section Inversion

variable {manager : EthereumManager} {s s' : State}

theorem effect_eventsStep {op : ConsolidatedEventHandler.Op SwapValues}
    (h : s.eventsStep manager op = some s') : s.Effect manager (.events op) s' := by
  unfold eventsStep at h
  split at h
  · exact absurd h (Option.some_ne_none _).symm
  · exact absurd h (Option.some_ne_none _).symm
  · rename_i hevent hdestroy
    obtain ⟨events, hstep, rfl⟩ := Option.map_eq_some_iff.mp h
    exact .events hevent hdestroy hstep

theorem effect_contractEvent {txHash logIndex : Nat}
    (h : s.contractEvent manager txHash logIndex = some s') :
    s.Effect manager (.contractEvent txHash logIndex) s' := by
  unfold contractEvent at h
  obtain ⟨log, hfind, rfl⟩ := Option.map_eq_some_iff.mp h
  obtain ⟨receipt, hreceipt, hlog⟩ := Option.bind_eq_some_iff.mp hfind
  exact .contractEvent hreceipt hlog

theorem effect_createSwap {id : Nat} {swap : UserSwap} (h : s.createSwap id swap = some s') :
    s.Effect manager (.createSwap id swap) s' := by
  unfold createSwap at h
  split at h
  · rename_i hnew
    simp only [Bool.and_eq_true, Option.isNone_iff_eq_none] at hnew
    obtain rfl := Option.some.inj h
    exact .createSwap hnew.1 hnew.2
  · exact absurd h (Option.some_ne_none _).symm

theorem effect_setInvoice {id invoice expectedAmount : Nat}
    (h : s.setInvoice id invoice expectedAmount = some s') :
    s.Effect manager (.setInvoice id invoice expectedAmount) s' := by
  unfold setInvoice at h
  split at h
  · rename_i row hrow
    split at h
    · exact absurd h (Option.some_ne_none _).symm
    · rename_i hguard
      simp only [Bool.or_eq_true, not_or, Bool.not_eq_true, Option.isSome_eq_false_iff,
        Option.isNone_iff_eq_none] at hguard
      obtain ⟨⟨hflag, hinvoice⟩, -⟩ := hguard
      dsimp only at h
      split at h
      · rename_i hsettles
        simp only [Bool.and_eq_true] at hsettles
        obtain rfl := Option.some.inj h
        refine .settleInvoice hrow hflag hinvoice ?_
        simp only [UserSwap.lockup, storedLockup, Option.isSome_map]
        exact hsettles.1.1
      · obtain rfl := Option.some.inj h
        exact .setInvoice hrow hflag hinvoice
  · exact absurd h (Option.some_ne_none _).symm

theorem effect_setStatus {id : Nat} {status : SwapUpdateEvent}
    (h : s.setStatus id status = some s') : s.Effect manager (.setStatus id status) s' := by
  unfold setStatus at h
  split at h
  · rename_i row hrow
    split at h
    · rename_i hforeign
      obtain rfl := Option.some.inj h
      exact .setStatus hrow hforeign
    · exact absurd h (Option.some_ne_none _).symm
  · exact absurd h (Option.some_ne_none _).symm

theorem effect_paymentResult {id : Nat} {status : LightningPaymentStatus}
    (h : s.paymentResult id status = some s') :
    s.Effect manager (.paymentResult id status) s' := by
  unfold paymentResult at h
  split at h
  · rename_i hpending
    obtain rfl := Option.some.inj h
    exact .paymentResult hpending
  · exact absurd h (Option.some_ne_none _).symm

theorem effect_listen {i id : Nat} (h : s.listen manager i id = some s') :
    s.Effect manager (.listen i id) s' := by
  unfold listen at h
  split at h
  · rename_i entry swap hentry hrow
    split at h
    · rename_i hguard
      simp only [Bool.and_eq_true] at hguard
      dsimp only at h
      split at h
      · obtain rfl := Option.some.inj h
        exact .listen hentry hrow hguard.1
      · obtain rfl := Option.some.inj h
        exact .ignored
    · exact absurd h (Option.some_ne_none _).symm
  · exact absurd h (Option.some_ne_none _).symm

theorem effect_record {i : Nat} {valid : Bool} (h : s.record manager i valid = some s') :
    s.Effect manager (.record i valid) s' := by
  unfold record at h
  obtain ⟨task, hget, rfl⟩ := Option.map_eq_some_iff.mp h
  dsimp only
  split
  · exact .skip hget
  · rename_i hcompeting
    have hcompeting := Bool.not_eq_true _ ▸ hcompeting
    unfold storeLockup
    split
    · exact .skip hget
    · rename_i row hrow
      dsimp only
      split
      · exact .skip hget
      · rename_i howned
        split
        · exact .recordHandled hget hrow hcompeting howned
        · exact .record hget hrow hcompeting howned

theorem effect_submarineStep {i : Nat} {h : Handler} {row : Swap} {step : HandlerStep}
    (hget : s.handlers[i]? = some h) (hrow : s.swaps h.id = some (.submarine row))
    (hstep : s.submarineStep i h row step = some s') :
    s.Effect manager (.handler i step) s' := by
  cases step with
  | approve => exact absurd hstep (Option.some_ne_none _).symm
  | hold => exact absurd hstep (Option.some_ne_none _).symm
  | fetch =>
    simp only [submarineStep] at hstep
    split at hstep
    · rename_i hphase
      split at hstep
      · rename_i hpayable
        obtain rfl := Option.some.inj hstep
        exact .moveHandler hget (.fetched hrow hphase hpayable)
      · obtain rfl := Option.some.inj hstep
        exact .endHandler hget
    · exact absurd hstep (Option.some_ne_none _).symm
  | settle =>
    simp only [submarineStep] at hstep
    split at hstep
    · rename_i lockup hphase
      split at hstep
      · obtain rfl := Option.some.inj hstep
        exact .endHandler hget
      · obtain rfl := Option.some.inj hstep
        exact .moveHandler hget (.settling hrow hphase)
    · exact absurd hstep (Option.some_ne_none _).symm
  | pay =>
    simp only [submarineStep] at hstep
    split at hstep
    · rename_i status lockup hphase
      split at hstep
      · rename_i hpending
        subst hpending
        obtain rfl := Option.some.inj hstep
        exact .moveHandler hget (.pending hrow hphase)
      · obtain rfl := Option.some.inj hstep
        exact .pay hget hrow hphase
    · exact absurd hstep (Option.some_ne_none _).symm
  | send =>
    simp only [submarineStep] at hstep
    split at hstep
    · rename_i lockup hphase
      obtain rfl := Option.some.inj hstep
      unfold startPayment
      split
      · rename_i hopen
        exact .moveHandler hget (.sent hrow hphase hopen)
      · rename_i hopen
        exact .startPayment hget hrow hphase (Bool.not_eq_true _ ▸ hopen)
    · exact absurd hstep (Option.some_ne_none _).symm
  | finish txHash =>
    simp only [submarineStep] at hstep
    split at hstep
    · rename_i hphase
      obtain rfl := Option.some.inj hstep
      unfold storeResult
      split
      · exact .storeResult hget hrow hphase (.inl rfl)
      · exact .storeResult hget hrow hphase (.inr rfl)
      · exact .endHandler hget
    · exact absurd hstep (Option.some_ne_none _).symm
  | giveUp =>
    obtain rfl := Option.some.inj hstep
    exact .endHandler hget

theorem effect_chainStep {i : Nat} {h : Handler} {row : ChainSwap} {step : HandlerStep}
    (hget : s.handlers[i]? = some h) (hrow : s.swaps h.id = some (.chain row))
    (hstep : s.chainStep i h row step = some s') : s.Effect manager (.handler i step) s' := by
  cases step with
  | approve =>
    simp only [chainStep] at hstep
    split at hstep
    · rename_i hphase
      split at hstep
      · rename_i hlockable
        obtain rfl := Option.some.inj hstep
        exact .moveHandler hget (.approved hrow hphase hlockable)
      · obtain rfl := Option.some.inj hstep
        exact .endHandler hget
    · exact absurd hstep (Option.some_ne_none _).symm
  | fetch =>
    simp only [chainStep] at hstep
    split at hstep
    · rename_i hphase
      split at hstep
      · rename_i hlockable
        obtain rfl := Option.some.inj hstep
        exact .moveHandler hget (.locked hrow hphase hlockable)
      · obtain rfl := Option.some.inj hstep
        exact .endHandler hget
    · exact absurd hstep (Option.some_ne_none _).symm
  | send =>
    simp only [chainStep] at hstep
    split at hstep
    · rename_i lockup hphase
      obtain rfl := Option.some.inj hstep
      exact .sendLockup hget hrow hphase
    · exact absurd hstep (Option.some_ne_none _).symm
  | finish txHash =>
    simp only [chainStep] at hstep
    split at hstep
    · rename_i hphase
      obtain rfl := Option.some.inj hstep
      exact .serverLockup hget hrow hphase
    · exact absurd hstep (Option.some_ne_none _).symm
  | hold =>
    simp only [chainStep] at hstep
    split at hstep
    · rename_i lockup hphase
      obtain rfl := Option.some.inj hstep
      exact .hold hget hphase
    · exact absurd hstep (Option.some_ne_none _).symm
  | giveUp =>
    obtain rfl := Option.some.inj hstep
    exact .endHandler hget
  | settle => exact absurd hstep (Option.some_ne_none _).symm
  | pay => exact absurd hstep (Option.some_ne_none _).symm

theorem effect_handlerStep {i : Nat} {step : HandlerStep}
    (h : s.handlerStep i step = some s') : s.Effect manager (.handler i step) s' := by
  unfold handlerStep at h
  split at h
  · exact absurd h (Option.some_ne_none _).symm
  · rename_i handler hget
    split at h
    · rename_i row hrow
      exact effect_submarineStep hget hrow h
    · rename_i row hrow
      exact effect_chainStep hget hrow h
    · exact absurd h (Option.some_ne_none _).symm

theorem effect_advanceCommit {number : Nat} {request : CommitRequest} {phase : CommitPhase}
    (hcall : s.call = some (.commit number request phase)) :
    s.Effect manager .advance (s.advanceCommit manager number request phase) := by
  cases phase with
  | begun =>
    simp only [advanceCommit]
    split
    · exact .throwCommit hcall (.inr rfl)
    · rename_i swap hrow
      exact .moveCommit hcall (.loaded hrow)
  | loaded swap =>
    simp only [advanceCommit]
    split
    · exact .throwCommit hcall (.inr rfl)
    · rename_i contract hcontract
      split
      · exact .throwCommit hcall (.inr rfl)
      · rename_i lockup hlockup
        exact .moveCommit hcall (CommitMoves.found (c := ⟨swap, contract, lockup⟩) hcontract hlockup)
  | found c =>
    simp only [advanceCommit]
    split
    · exact .throwCommit hcall (.inr rfl)
    · rename_i commitment hcheck
      exact .moveCommit hcall (.checked hcheck)
  | checked c commitment =>
    simp only [advanceCommit]
    split
    · exact .throwCommit hcall (.inr rfl)
    · rename_i commitments hcreate
      exact .link hcall hcreate
  | created c commitment => exact .moveCommit hcall .fetched
  | fetched c commitment => exact .handOver hcall

theorem effect_loadSwap {request : RefundRequest} {phase : RefundPhase} {id : Nat}
    {target : Option RefundTarget} (hcall : s.call = some (.refund request phase))
    (hmove : ∀ swap, s.swaps id = some swap →
      s.RefundMoves manager request phase (.loaded id swap target)) :
    s.Effect manager .advance (s.loadSwap request id target) := by
  unfold loadSwap
  split
  · exact .endRefund hcall
  · rename_i swap hrow
    exact .moveRefund hcall (hmove swap hrow)

theorem effect_advanceRefund {request : RefundRequest} {phase : RefundPhase}
    (hcall : s.call = some (.refund request phase)) :
    s.Effect manager .advance (s.advanceRefund manager request phase) := by
  cases phase with
  | begun =>
    simp only [advanceRefund]
    cases request with
    | swap id => exact effect_loadSwap hcall fun swap hrow => .loadedSwap hrow
    | commitment r =>
      dsimp only
      split
      · exact .endRefund hcall
      · exact .moveRefund hcall .found
  | found target =>
    simp only [advanceRefund]
    split
    · rename_i id hid
      exact effect_loadSwap hcall fun swap hrow => .loaded hid hrow
    · rename_i hid
      exact .moveRefund hcall (.unlinked hid)
  | loaded id swap target =>
    simp only [advanceRefund]
    split
    · exact .endRefund hcall
    · rename_i hreason
      cases target with
      | some target => exact .moveRefund hcall (.checked hreason)
      | none => exact .moveRefund hcall (.checkedSwap hreason)
  | eligible id swap =>
    simp only [advanceRefund]
    split
    · exact .endRefund hcall
    · rename_i target hquery
      exact .moveRefund hcall (.queried hquery)
  | ready id target =>
    simp only [advanceRefund, setRefundSignatureCreated]
    cases hrow : id.bind s.swaps with
    | none =>
      have hnone : (id.bind fun id => (s.swaps id).map fun row => (id, row)) = none := by
        cases id with
        | none => rfl
        | some id =>
          have hnone : s.swaps id = none := hrow
          simp [hnone]
      rw [hnone]
      exact .moveRefund hcall (.flagged hrow)
    | some row =>
      obtain ⟨i, rfl, hi⟩ := Option.bind_eq_some_iff.mp hrow
      have hsome : ((some i).bind fun id => (s.swaps id).map fun row => (id, row)) =
          some (i, row) := by simp [hi]
      rw [hsome]
      exact .flag hcall hi
  | flagged id target => exact .mark hcall
  | marked id target => exact .sign hcall

theorem effect_retry {id : Nat} (h : s.retry id = some s') :
    s.Effect manager (.retry id) s' := by
  unfold retry at h
  split at h
  · rename_i row hrow
    obtain rfl := Option.some.inj h
    exact .retry hrow nofun
  · rename_i row hrow
    split at h
    · rename_i hheld
      obtain rfl := Option.some.inj h
      exact .retry hrow fun _ => List.contains_iff_mem.mp hheld
    · exact absurd h (Option.some_ne_none _).symm
  · exact absurd h (Option.some_ne_none _).symm

theorem effect_of_step {op : Op} (h : s.step manager op = some s') :
    s.Effect manager op s' := by
  cases op with
  | events op => exact effect_eventsStep h
  | contractEvent txHash logIndex => exact effect_contractEvent h
  | restart =>
    obtain rfl := Option.some.inj h
    exact .restart
  | createSwap id swap => exact effect_createSwap h
  | setInvoice id invoice expectedAmount => exact effect_setInvoice h
  | setStatus id status => exact effect_setStatus h
  | refundTransaction id status =>
    obtain rfl := Option.some.inj h
    exact .refundTransaction
  | paymentResult id status => exact effect_paymentResult h
  | listen i id => exact effect_listen h
  | record i valid => exact effect_record h
  | retry id => exact effect_retry h
  | handler i step => exact effect_handlerStep h
  | commit request =>
    simp only [step] at h
    split at h
    · rename_i hfree
      obtain rfl := Option.some.inj h
      exact .commit (Option.isNone_iff_eq_none.mp hfree)
    · exact absurd h (Option.some_ne_none _).symm
  | refund request =>
    simp only [step] at h
    split at h
    · rename_i hfree
      obtain rfl := Option.some.inj h
      exact .refund (Option.isNone_iff_eq_none.mp hfree)
    · exact absurd h (Option.some_ne_none _).symm
  | advance =>
    simp only [step, advance] at h
    split at h
    · exact absurd h (Option.some_ne_none _).symm
    · rename_i number request phase hcall
      obtain rfl := Option.some.inj h
      exact effect_advanceCommit hcall
    · rename_i request phase hcall
      obtain rfl := Option.some.inj h
      exact effect_advanceRefund hcall
  | fail =>
    simp only [step, fail] at h
    split at h
    · exact absurd h (Option.some_ne_none _).symm
    · rename_i number request phase hcall
      obtain rfl := Option.some.inj h
      exact .throwCommit hcall (.inl rfl)
    · rename_i request phase hcall
      obtain rfl := Option.some.inj h
      exact .endRefund hcall

end Inversion

/-! ## What changes in a step -/

section Changes

variable {manager : EthereumManager} {s s' : State} {op : Op} {id : Nat} {row row' : UserSwap}

theorem swaps_setRow (id j : Nat) (row : UserSwap) :
    (s.setRow id row).swaps j = if j = id then some row else s.swaps j := by
  simp [setRow, Function.update_apply]

/-- How a row changes. -/
inductive RowStep (manager : EthereumManager) (s : State) :
    Op → Nat → UserSwap → UserSwap → Prop where
  | same {op : Op} {id : Nat} {row : UserSwap} : RowStep manager s op id row row
  | setInvoice {id invoice expectedAmount : Nat} {row : Swap}
      (hflag : row.createdRefundSignature = false) (hinvoice : row.invoice = none) :
      RowStep manager s (.setInvoice id invoice expectedAmount) id (.submarine row)
        (.submarine (withInvoice row invoice expectedAmount))
  | setStatus {id : Nat} {status : SwapUpdateEvent} {row : UserSwap}
      (hforeign : isForeign status = true) :
      RowStep manager s (.setStatus id status) id row (row.setStatus status)
  | record {i : Nat} {valid : Bool} {task : LockupTask} {row : UserSwap}
      (hget : s.lockups[i]? = some task)
      (hcompeting : shouldIgnoreCompetingLockup task.row.lockup (incomingLockup task.entry)
        task.row.status = false)
      (howned : (lockupWrite manager task valid row).1 ≠ .rejected) :
      RowStep manager s (.record i valid) task.id row (lockupWrite manager task valid row).2
  | pay {i : Nat} {h : Handler} {row : Swap} {status : SwapUpdateEvent}
      {lockup : Option LockupIdentity} (hget : s.handlers[i]? = some h)
      (hphase : h.phase = .settling status lockup) :
      RowStep manager s (.handler i .pay) h.id (.submarine row)
        (.submarine { row with status := invoicePending })
  | storeResult {i txHash : Nat} {h : Handler} {row : UserSwap} {status : SwapUpdateEvent}
      (hget : s.handlers[i]? = some h) (hphase : h.phase = .sent)
      (hstatus : status = invoicePaid ∨ status = invoiceFailedToPay) :
      RowStep manager s (.handler i (.finish txHash)) h.id row (row.setStatus status)
  | serverLockup {i txHash : Nat} {h : Handler} {row : ChainSwap}
      (hget : s.handlers[i]? = some h) (hphase : h.phase = .sent) :
      RowStep manager s (.handler i (.finish txHash)) h.id (.chain row)
        ((UserSwap.chain row).setServerLockup txHash)
  | flag {request : RefundRequest} {id : Nat} {target : RefundTarget} {row : UserSwap}
      (hcall : s.call = some (.refund request (.ready (some id) target))) :
      RowStep manager s .advance id row row.setRefundSignatureCreated

/-- A row that is stored leaves the others as they are. -/
theorem row_setRow {j : Nat} {stored new : UserSwap} (hrow : s.swaps id = some row)
    (hj : s.swaps j = some stored) (hswaps : s'.swaps = (s.setRow j new).swaps)
    (hnew : RowStep manager s op j stored new) :
    ∃ row', s'.swaps id = some row' ∧ RowStep manager s op id row row' := by
  rw [hswaps, swaps_setRow]
  by_cases hid : id = j
  · subst hid
    obtain rfl := Option.some.inj (hj.symm.trans hrow)
    exact ⟨new, if_pos rfl, hnew⟩
  · exact ⟨row, by rw [if_neg hid]; exact hrow, .same⟩

theorem row_of_effect (h : s.Effect manager op s') (hrow : s.swaps id = some row) :
    ∃ row', s'.swaps id = some row' ∧ RowStep manager s op id row row' := by
  cases h with
  | createSwap hnone hnew =>
    refine ⟨row, ?_, .same⟩
    rw [swaps_setRow, if_neg, hrow]
    rintro rfl
    exact absurd (hrow.symm.trans hnone) (Option.some_ne_none _)
  | setInvoice hj hflag hinvoice => exact row_setRow hrow hj rfl (.setInvoice hflag hinvoice)
  | settleInvoice hj hflag hinvoice _ => exact row_setRow hrow hj rfl (.setInvoice hflag hinvoice)
  | setStatus hj hforeign => exact row_setRow hrow hj rfl (.setStatus hforeign)
  | record hget hj hcompeting howned =>
    exact row_setRow hrow hj rfl (.record hget hcompeting howned)
  | recordHandled hget hj hcompeting howned =>
    exact row_setRow hrow hj rfl (.record hget hcompeting howned)
  | pay hget hj hphase => exact row_setRow hrow hj rfl (.pay hget hphase)
  | storeResult hget hj hphase hstatus =>
    exact row_setRow hrow hj rfl (.storeResult hget hphase hstatus)
  | serverLockup hget hj hphase => exact row_setRow hrow hj rfl (.serverLockup hget hphase)
  | flag hcall hj => exact row_setRow hrow hj rfl (.flag hcall)
  | _ => exact ⟨row, hrow, .same⟩

/-- A row that was not there before is new. -/
theorem new_of_effect (h : s.Effect manager op s') (hnone : s.swaps id = none)
    (hrow : s'.swaps id = some row) : op = .createSwap id row ∧ isNew row = true := by
  have hother : ∀ {j : Nat} {stored new : UserSwap}, s.swaps j = some stored →
      (s.setRow j new).swaps id = some row → False := by
    intro j stored new hj hset
    rw [swaps_setRow] at hset
    by_cases hid : id = j
    · subst hid
      exact absurd (hj.symm.trans hnone) (Option.some_ne_none _)
    · rw [if_neg hid] at hset
      exact absurd (hset.symm.trans hnone) (Option.some_ne_none _)
  cases h with
  | createSwap hfree hnew =>
    rw [swaps_setRow] at hrow
    split at hrow
    · rename_i hid
      subst hid
      obtain rfl := Option.some.inj hrow
      exact ⟨rfl, hnew⟩
    · exact absurd (hrow.symm.trans hnone) (Option.some_ne_none _)
  | setInvoice hj _ _ => exact (hother hj hrow).elim
  | settleInvoice hj _ _ _ => exact (hother hj hrow).elim
  | setStatus hj _ => exact (hother hj hrow).elim
  | record _ hj _ _ => exact (hother hj hrow).elim
  | recordHandled _ hj _ _ => exact (hother hj hrow).elim
  | pay _ hj _ => exact (hother hj hrow).elim
  | storeResult _ hj _ _ => exact (hother hj hrow).elim
  | serverLockup _ hj _ => exact (hother hj hrow).elim
  | flag _ hj => exact (hother hj hrow).elim
  | _ => exact absurd (hrow.symm.trans hnone) (Option.some_ne_none _)

/-- Where a handler after a step comes from. -/
inductive HandlerOrigin (s : State) : Handler → Prop where
  | kept {h : Handler} (hmem : h ∈ s.handlers) : HandlerOrigin s h
  | waiting {id : Nat} {owner : Option LockupIdentity}
      (hheld : owner = none → ∃ row, s.swaps id = some row ∧
        (row.type = .chain → id ∈ s.holds)) : HandlerOrigin s { id, owner }
  | settles {id : Nat} {row : Swap} (hrow : s.swaps id = some (.submarine row))
      (hlocked : (UserSwap.submarine row).lockup.isSome = true)
      (hflag : row.createdRefundSignature = false) :
      HandlerOrigin s { id, owner := none, phase := .fetched (UserSwap.submarine row).lockup }
  | moved {h : Handler} {phase : HandlerPhase} (hmem : h ∈ s.handlers) (hmove : s.Moves h phase) :
      HandlerOrigin s { h with phase }
  | pending {h : Handler} {status : SwapUpdateEvent} {lockup : Option LockupIdentity}
      (hmem : h ∈ s.handlers) (hphase : h.phase = .settling status lockup) :
      HandlerOrigin s { h with phase := .pending lockup }
  | sent {h : Handler} (hmem : h ∈ s.handlers) (hpast : h.phase.pastRead = true) :
      HandlerOrigin s { h with phase := .sent }

theorem handler_of_effect (h : s.Effect manager op s') {handler : Handler}
    (hmem : handler ∈ s'.handlers) : HandlerOrigin s handler := by
  have hset : ∀ {i : Nat} {old new : Handler}, s.handlers[i]? = some old → HandlerOrigin s new →
      handler ∈ s.handlers.set i new → HandlerOrigin s handler := by
    intro i old new hget hnew hin
    rcases List.mem_or_eq_of_mem_set hin with hin | rfl
    · exact .kept hin
    · exact hnew
  have hpush : ∀ {new : Handler}, HandlerOrigin s new →
      handler ∈ s.handlers ++ [new] → HandlerOrigin s handler := by
    intro new hnew hin
    rcases List.mem_append.mp hin with hin | hin
    · exact .kept hin
    · rw [List.mem_singleton.mp hin]
      exact hnew
  cases h with
  | restart => exact absurd hmem List.not_mem_nil
  | settleInvoice hrow hflag _ hlocked => exact hpush (.settles hrow hlocked hflag) hmem
  | recordHandled _ _ _ _ => exact hpush (.waiting fun h => absurd h (Option.some_ne_none _)) hmem
  | retry hrow hheld => exact hpush (.waiting fun _ => ⟨_, hrow, hheld⟩) hmem
  | endHandler hget => exact .kept (List.mem_of_mem_eraseIdx hmem)
  | hold hget _ => exact .kept (List.mem_of_mem_eraseIdx hmem)
  | moveHandler hget hmove => exact hset hget (.moved (List.mem_of_getElem? hget) hmove) hmem
  | pay hget _ hphase => exact hset hget (.pending (List.mem_of_getElem? hget) hphase) hmem
  | startPayment hget _ hphase _ =>
    exact hset hget (.sent (List.mem_of_getElem? hget) (by rw [hphase]; rfl)) hmem
  | sendLockup hget _ hphase =>
    exact hset hget (.sent (List.mem_of_getElem? hget) (by rw [hphase]; rfl)) hmem
  | storeResult hget _ _ _ => exact .kept (List.mem_of_mem_eraseIdx hmem)
  | serverLockup hget _ _ => exact .kept (List.mem_of_mem_eraseIdx hmem)
  | _ => exact .kept hmem

/-- What a step adds to the history. -/
inductive Recorded (manager : EthereumManager) (s : State) (op : Op) : HistoryEvent → Prop where
  | linked {number : Nat} {request : CommitRequest} {c : CommitLockup} {commitment : Commitment}
      {commitments : List Commitment}
      (hcall : s.call = some (.commit number request (.checked c commitment)))
      (hcreate : CommitmentRepository.create s.commitments commitment = some commitments) :
      Recorded manager s op (.linked number commitment.lockupHash request.swapId)
  | committed {number : Nat} {request : CommitRequest} {c : CommitLockup} {commitment : Commitment}
      (hcall : s.call = some (.commit number request (.fetched c commitment))) :
      Recorded manager s op (.committed number commitment.lockupHash request.swapId)
  | commitFailed {number : Nat} {request : CommitRequest} {phase : CommitPhase}
      {error : Option CommitError} (hcall : s.call = some (.commit number request phase))
      (hphase : op = .fail ∨ CommitPhase.isCreated phase = false) :
      Recorded manager s op (.commitFailed number error)
  | refundSigned {request : RefundRequest} {id : Option Nat} {target : RefundTarget}
      (hcall : s.call = some (.refund request (.marked id target))) :
      Recorded manager s op
        (.refundSigned (s.refundedLockup manager request target).1
          (s.refundedLockup manager request target).2
          ((s.refundedLockup manager request target).2.bind s.refundNonEligibilityReason))
  | acted {h : Handler} {lockup : Option LockupIdentity} (hmem : h ∈ s.handlers)
      (hphase : h.phase = .pending lockup ∨ h.phase = .fetched lockup) :
      Recorded manager s op (.acted h.id lockup)

theorem history_of_effect (h : s.Effect manager op s') : s'.history = s.history ∨
    ∃ e, s'.history = e :: s.history ∧ Recorded manager s op e := by
  cases h with
  | startPayment hget _ hphase _ =>
    exact .inr ⟨_, rfl, .acted (List.mem_of_getElem? hget) (.inl hphase)⟩
  | sendLockup hget _ hphase =>
    exact .inr ⟨_, rfl, .acted (List.mem_of_getElem? hget) (.inr hphase)⟩
  | throwCommit hcall hphase => exact .inr ⟨_, rfl, .commitFailed hcall hphase⟩
  | link hcall hcreate => exact .inr ⟨_, rfl, .linked hcall hcreate⟩
  | handOver hcall => exact .inr ⟨_, rfl, .committed hcall⟩
  | sign hcall => exact .inr ⟨_, rfl, .refundSigned hcall⟩
  | _ => exact .inl rfl

/-- How the table of the commitments changes. -/
inductive RowsStep (manager : EthereumManager) (s : State) : List Commitment → Prop where
  | same : RowsStep manager s s.commitments
  | create {number : Nat} {request : CommitRequest} {c : CommitLockup} {commitment : Commitment}
      {commitments : List Commitment}
      (hcall : s.call = some (.commit number request (.checked c commitment)))
      (hcreate : CommitmentRepository.create s.commitments commitment = some commitments) :
      RowsStep manager s commitments
  | refunded {request : RefundRequest} {id : Option Nat} {target : RefundTarget}
      (hcall : s.call = some (.refund request (.flagged id target))) :
      RowsStep manager s (s.markRefunded manager request target)

theorem commitments_of_effect (h : s.Effect manager op s') :
    RowsStep manager s s'.commitments := by
  cases h with
  | link hcall hcreate => exact .create hcall hcreate
  | mark hcall => exact .refunded hcall
  | _ => exact .same

theorem markRefunded_cases (request : RefundRequest) (target : RefundTarget) :
    s.markRefunded manager request target = s.commitments ∨
      ∃ hash, (s.refundedLockup manager request target).1 = some hash ∧
        s.markRefunded manager request target =
          CommitmentRepository.markRefunded s.commitments hash target.transactionHash := by
  unfold markRefunded
  split
  · rename_i hash hhash
    exact .inr ⟨hash, hhash, rfl⟩
  · exact .inl rfl

theorem RowsStep.unique {commitments : List Commitment} (h : RowsStep manager s commitments)
    (hunique : UniqueRows s.commitments) : UniqueRows commitments := by
  cases h with
  | same => exact hunique
  | create hcall hcreate => exact hunique.create hcreate
  | refunded hcall =>
    rcases markRefunded_cases _ _ with heq | ⟨hash, _, heq⟩ <;> rw [heq]
    · exact hunique
    · exact hunique.markRefunded hash _

/-- No row is lost, and none is linked to another swap. -/
theorem RowsStep.keeps {commitments : List Commitment} {c : Commitment}
    (h : RowsStep manager s commitments) (hmem : c ∈ s.commitments) :
    ∃ c' ∈ commitments, c'.lockupHash = c.lockupHash ∧ c'.swapId = c.swapId ∧
      c'.signature = c.signature ∧ (c'.refunded = false → c' = c) := by
  cases h with
  | same => exact ⟨c, hmem, rfl, rfl, rfl, fun _ => rfl⟩
  | create hcall hcreate =>
    obtain ⟨rfl, -, -⟩ := create_eq_some hcreate
    exact ⟨c, List.mem_append_left _ hmem, rfl, rfl, rfl, fun _ => rfl⟩
  | refunded hcall =>
    rcases markRefunded_cases _ _ with heq | ⟨hash, _, heq⟩ <;> rw [heq]
    · exact ⟨c, hmem, rfl, rfl, rfl, fun _ => rfl⟩
    · exact markRefunded_keeps hash _ hmem

theorem setLockup_keeps (incoming : LockupIdentity) (amount : Nat) (status : SwapUpdateEvent)
    (row : UserSwap) :
    let row' := (row.setLockup incoming amount status).2
    row'.type = row.type ∧ row'.version = row.version ∧ row'.serverLocked = row.serverLocked ∧
      row'.createdRefundSignature = row.createdRefundSignature ∧
        (row'.status = row.status ∨ row'.status = status) := by
  cases row with
  | submarine row =>
    simp only [UserSwap.setLockup, SwapRepository.lockupWrite]
    split
    · exact ⟨rfl, rfl, rfl, rfl, .inr rfl⟩
    · exact ⟨rfl, rfl, rfl, rfl, .inl rfl⟩
  | chain row =>
    simp only [UserSwap.setLockup, ChainSwapRepository.userLockupWrite]
    split
    · exact ⟨rfl, rfl, rfl, rfl, .inr rfl⟩
    · exact ⟨rfl, rfl, rfl, rfl, .inl rfl⟩

theorem lockupWrite_keeps (manager : EthereumManager) (task : LockupTask) (valid : Bool)
    (row : UserSwap) :
    let row' := (lockupWrite manager task valid row).2
    row'.type = row.type ∧ row'.version = row.version ∧ row'.serverLocked = row.serverLocked ∧
      row'.createdRefundSignature = row.createdRefundSignature ∧
        (row'.status = row.status ∨ row'.status = transactionConfirmed ∨
          row'.status = transactionLockupFailed) := by
  obtain ⟨htype, hversion, hserver, hflag, hstatus⟩ := setLockup_keeps (incomingLockup task.entry)
    (manager.lockupAmount task.row.chainSymbol task.entry.values)
    (if valid then transactionConfirmed else transactionLockupFailed) row
  refine ⟨htype, hversion, hserver, hflag, hstatus.imp_right fun h => ?_⟩
  cases valid with
  | true => exact .inl h
  | false => exact .inr h

theorem RowStep.kind (h : RowStep manager s op id row row') :
    row'.type = row.type ∧ row'.version = row.version := by
  cases h with
  | record hget hcompeting howned =>
    obtain ⟨htype, hversion, -⟩ := lockupWrite_keeps manager _ _ row
    exact ⟨htype, hversion⟩
  | setStatus _ => cases row <;> exact ⟨rfl, rfl⟩
  | storeResult _ _ _ => cases row <;> exact ⟨rfl, rfl⟩
  | flag _ => cases row <;> exact ⟨rfl, rfl⟩
  | _ => exact ⟨rfl, rfl⟩

theorem ne_of_isForeign {status : SwapUpdateEvent} (h : isForeign status = true) :
    status ≠ invoicePending ∧ status ≠ invoicePaid := by
  constructor <;> rintro rfl <;> exact absurd h (by decide)

/-- Only the node changes the receipts. -/
theorem receipts_of_effect (h : s.Effect manager op s') :
    s'.events.receipts = s.events.receipts ∨
      ∃ height receipts, op = .events (.chain height receipts) ∧
        s'.events.receipts = receipts := by
  cases h with
  | events hop hlive hstep =>
    rcases ConsolidatedEventHandler.State.receipts_of_step hstep with heq | ⟨height, _, rfl, heq⟩
    · exact .inl heq
    · exact .inr ⟨height, _, rfl, heq⟩
  | contractEvent _ _ => exact .inl (ConsolidatedEventHandler.State.receipts_handleEvent _ _)
  | handOver _ => exact .inl (ConsolidatedEventHandler.State.receipts_handleEvent _ _)
  | _ => exact .inl rfl

end Changes

end State

end Boltz.Ethereum

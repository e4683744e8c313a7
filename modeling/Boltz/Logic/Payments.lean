import Boltz.Logic.Kinds

/-!
# Payments of invoices under a lock

What a statement about submarine swaps has to say about the acts of a payment, and the rules for
`payInvoice` and for the handlers that call it.
-/

namespace Boltz

open Async SwapUpdateEvent

/-- The row after `setInvoicePaid`. -/
def Swap.paid (routingFee preimage : Nat) (s : Swap) : Swap :=
  { s with
    preimage := some preimage
    routingFee := some routingFee
    failureReason := none
    status := invoicePaid }

/-- The write of `abandonSwap`. -/
def abandonAct (swap : Instance Swap) (l : Label) : Act Label World Answer Unit :=
  swapUpdateAct swap (swap.row.withStatus invoiceFailedToPay (some .invoiceCouldNotBePaid)) l

namespace Table

variable {α : Type} {t : Table α} {id : Nat}

theorem modify_of_none {f : α → α} (h : t.get id = none) : t.modify id f = t := by
  unfold modify
  congr 1
  funext j
  by_cases hj : j = id
  · subst hj
    rw [if_pos rfl, h]
    rfl
  · rw [if_neg hj]

/-- Only the row that is stored matters. -/
theorem modify_of_some {f : α → α} {a : α} (h : t.get id = some a) :
    t.modify id (fun _ => f a) = t.modify id f := by
  unfold modify
  congr 1
  funext j
  by_cases hj : j = id
  · subst hj
    rw [if_pos rfl, if_pos rfl, h]
    rfl
  · rw [if_neg hj, if_neg hj]

end Table

/-- The swap in memory after `payInvoice` stored `InvoicePending`. -/
def Instance.pendingInvoice (swap : Instance Swap) : Instance Swap :=
  if swap.row.status = invoicePending then swap
  else ⟨swap.id, swap.row.withStatus invoicePending none⟩

namespace Rules

variable {K V α : Type} {𝓡 : Rules K V} {k : K} {ks : List K} {B : Seen V → Prop}

/-! ## Quiet steps in triples -/

theorem triple_quiet_bind {β : Type} {m : M β} {f : β → M α} {X : Except Error α → Seen V → Prop}
    (hm : 𝓡.QuietProg m) (hB : 𝓡.Steady ks B) (hf : ∀ b, 𝓡.Triple ks B (f b) X)
    (he : ∀ e o, B o → X (.error e) o) : 𝓡.Triple ks B (m >>= f) X :=
  Guarded.Triple.uses_bind (hm.mono (fun _ ha => ha.does) fun _ hc => hc) hB hf he

/-- The locks of the nurseries around a program. -/
theorem triple_helperLock {key : Lock} {body : M α} {X : Except Error α → Seen V → Prop}
    (hk : key.isHelper = true) (hB : 𝓡.Steady ks B) (hX : ∀ r, 𝓡.Steady ks (X r))
    (hbody : 𝓡.Triple ks B body X) : 𝓡.Triple ks B (withLock key body) X := by
  refine Guarded.Triple.act_bind (quiet_plain.acquire key hk).does hB fun _ t h hA => ?_
  rw [Logic.wp_finally]
  refine Logic.wp_mono (hbody t h hA) fun r h' hr => ?_
  rw [Logic.wp_call]
  intro h₁ hrely hi ω b s hallow he
  obtain ⟨hst, hr'⟩ := (quiet_plain.release key hk).does t h₁ ω b s hi
    (hr.rely (hX r) hrely hi) hallow he
  refine ⟨hst, ?_⟩
  rw [Logic.andThen_ok, Logic.wp_ofExcept]
  exact hr'

theorem triple_update {swap : Instance Swap} {values : Swap → Swap} {l : Label}
    {R : Seen V → Prop} {f : Instance Swap → M α} {X : Except Error α → Seen V → Prop}
    (hw : 𝓡.Does ks B (swapUpdateAct swap (values swap.row) l) fun _ => R) (hB : 𝓡.Steady ks B)
    (hf : 𝓡.Triple ks R (f ⟨swap.id, values swap.row⟩) X) :
    𝓡.Triple ks B (SwapRepository.update swap values l >>= f) X :=
  Guarded.Triple.act_bind hw hB fun _ => hf

theorem quiet_payments
    (hp : ∀ w lightningPayments, 𝓡.view { w with lightningPayments } = 𝓡.view w) :
    Payments fun a => 𝓡.Quiet a :=
  quiet_within fun x w => ⟨hp w x, rfl⟩

theorem free_payments (hp : Payments fun a => 𝓡.Quiet a) : Payments 𝓡.FreeAct :=
  fun a hl hrun => (hp a hl hrun).free

/-- The transaction of `setLockupTransaction`, as a write of the row. -/
theorem does_swapLockup {j : Nat} {incoming : LockupIdentity} {amount : Nat}
    {status : SwapUpdateEvent}
    (hw : 𝓡.Does ks B (writeAct .other fun w => setSwaps (w.swaps.modify j fun s =>
      (SwapRepository.lockupWrite s incoming amount status).2) w) fun _ => B) :
    𝓡.Does ks B (swapLockupAct j incoming amount status) fun _ => B := by
  intro t h ω b w hi hA ha he
  have hdone := hw t h ω () _ hi hA ha rfl
  have hw' : w = setSwaps (h.world.swaps.modify j fun s =>
      (SwapRepository.lockupWrite s incoming amount status).2) h.world := by
    simp only [swapLockupAct] at he
    split at he
    · rename_i hnone
      cases he
      rw [Table.modify_of_none hnone]
    · rename_i r hr
      cases he
      exact congrArg (setSwaps · h.world) (Table.modify_of_some (f := fun s =>
        (SwapRepository.lockupWrite s incoming amount status).2) hr)
  rw [hw']
  exact hdone

/-! ## Self payments -/

/-- `paying` while the invoice is paid, `found` when the reverse swap with the preimage hash was
found, `refused` when the payment to it fails. -/
structure SelfPaymentSpec (𝓡 : Rules K V) (k : K) (swap : Instance Swap)
    (paying refused : Seen V → Prop) (found : Instance ReverseSwap → Seen V → Prop)
    (missing : Prop) : Prop where
  find : 𝓡.Does [k] paying (readAct (.payInvoice swap.id .reverseSwap) fun w =>
      w.reverseSwaps.find fun s => s.preimageHash == swap.row.preimageHash)
    fun r o => match r with
      | none => paying o ∧ missing
      | some reverse => found reverse o
  back : ∀ reverse o, found reverse o → paying o
  mismatch : ∀ reverse o, swap.row.invoice ≠ some reverse.row.invoice → found reverse o →
    refused o
  reject : ∀ reverse, reverse.row.status = swapCreated → 𝓡.Does [k] (found reverse)
    (writeAct (.rejectSelfPayment swap.id reverse.id) fun w => w) fun _ => refused
  refunded : ∀ reverse, reverse.row.status = transactionRefunded → reverse.row.preimage = none →
    𝓡.Does [k] (found reverse) (readAct .other fun w => w.refundTransactions.get reverse.id)
      fun tx o => if tx.any (·.isFinal) then refused o else paying o
  failed : ∀ reverse o, reverse.row.status = transactionFailed → reverse.row.preimage = none →
    found reverse o → refused o
  accepted : ∀ invoice, 𝓡.logic.Safe (LightningNursery.htlcAccepted invoice)
  steady_paying : 𝓡.Steady [k] paying
  steady_refused : 𝓡.Steady [k] refused
  steady_found : ∀ reverse, 𝓡.Steady [k] (found reverse)

section self

variable {swap : Instance Swap} {paying refused : Seen V → Prop}
  {found : Instance ReverseSwap → Seen V → Prop} {missing : Prop}

/-- How `handleSelfPayment` ends. -/
def selfPaid (paying refused : Seen V → Prop) (missing : Prop) (payments : List LightningPayment) :
    Except Error (Option (Option PaymentResponse)) → Seen V → Prop
  | .ok none, o => paying o ∧ (payments = [] → missing)
  | .ok (some _), o => paying o
  | .error _, o => refused o

theorem steady_selfPaid (hp : 𝓡.Steady [k] paying) (hr : 𝓡.Steady [k] refused)
    (payments : List LightningPayment) (r : Except Error (Option (Option PaymentResponse))) :
    𝓡.Steady [k] (selfPaid paying refused missing payments r) := by
  match r with
  | .ok none => exact hp.and fun _ _ _ _ _ h => h
  | .ok (some _) => exact hp
  | .error _ => exact hr

theorem triple_getPreimage (hs : 𝓡.SelfPaymentSpec k swap paying refused found missing)
    (reverse : Instance ReverseSwap) :
    𝓡.Triple [k] (found reverse) (SelfPaymentClient.getPreimage reverse) fun r o =>
      match r with
      | .ok _ => paying o
      | .error _ => refused o := by
  unfold SelfPaymentClient.getPreimage
  split
  · exact .pure (hs.back reverse)
  rename_i hnone
  split
  · rename_i hstatus
    refine Guarded.Triple.act_bind (hs.refunded reverse hstatus hnone) (hs.steady_found reverse)
      fun tx => ?_
    refine .throwIf_bind (fun hf o ho => ?_) fun hf => .pure fun o ho => ?_
    · rwa [if_pos hf] at ho
    · simpa [hf] using ho
  · refine .throwIf_bind (fun hf o ho => ?_) fun _ => .pure (hs.back reverse)
    exact hs.failed reverse o (by simpa using hf) hnone ho

theorem triple_checkSelfPayment (hs : 𝓡.SelfPaymentSpec k swap paying refused found missing)
    {reverse : Instance ReverseSwap} (hstatus : reverse.row.status = swapCreated)
    (cltvLimit : Nat) (isExpired : Bool) :
    𝓡.Triple [k] (found reverse)
      (SelfPaymentClient.checkSelfPayment swap.id reverse cltvLimit isExpired) fun r o =>
        match r with
        | .ok _ => found reverse o
        | .error _ => refused o := by
  have hsteady := hs.steady_found reverse
  refine Guarded.Triple.act_bind (quiet_plain.ask _).does hsteady fun disabled => ?_
  refine Guarded.Triple.act_bind (quiet_plain.read _).does hsteady fun minFinalCltv => ?_
  split
  · exact .pure fun _ ho => ho
  · refine Guarded.Triple.act_bind (hs.reject reverse hstatus) hsteady fun _ => ?_
    exact .throw fun _ ho => ho

theorem triple_handleSelfPayment (hs : 𝓡.SelfPaymentSpec k swap paying refused found missing)
    (cltvLimit : Nat) (isExpired : Bool) (payments : List LightningPayment) :
    𝓡.Triple [k] paying
      (SelfPaymentClient.handleSelfPayment swap cltvLimit isExpired payments)
      (selfPaid paying refused missing payments) := by
  unfold SelfPaymentClient.handleSelfPayment
  split
  · rename_i hne
    refine .pure fun o ho => ⟨ho, fun he => ?_⟩
    rw [he] at hne
    cases hne
  refine triple_helperLock rfl hs.steady_paying
    (steady_selfPaid hs.steady_paying hs.steady_refused payments) ?_
  refine Guarded.Triple.act_bind hs.find hs.steady_paying fun r => ?_
  cases r with
  | none => exact .pure fun o ho => ⟨ho.1, fun _ => ho.2⟩
  | some reverse =>
    dsimp only
    split
    · rename_i hne
      exact .throw fun o ho => hs.mismatch reverse o hne ho
    split
    · rename_i hstatus
      refine (triple_checkSelfPayment hs hstatus cltvLimit isExpired).bind (fun _ => ?_)
        fun _ _ ho => ho
      refine .spawn_bind (hs.accepted _) (hs.steady_found reverse) ?_
      refine Guarded.Triple.conseq (B := paying) ?_ (hs.back reverse) fun _ _ ho => ho
      -- neither the cancellation nor the wait throws
      intro t h hA
      rw [Logic.wp_bind, Logic.wp_catching]
      refine Logic.wp_mono (wp_quiet (.bind (uses_external quiet_plain) fun _ =>
        uses_cancelReverseInvoices quiet_plain) hs.steady_paying hA) fun r h₁ h₁A => ?_
      have hquiet : 𝓡.QuietProg (SelfPaymentClient.waitForPreimage reverse.id) :=
        uses_waitForPreimage quiet_plain reverse.id
      have hwait : 𝓡.Triple [k] paying (do
          let res ← SelfPaymentClient.waitForPreimage reverse.id
          pure (some res)) (selfPaid paying refused missing payments) :=
        Guarded.Triple.act_bind hquiet.1.does hs.steady_paying fun _ => .pure fun _ ho => ho
      cases r <;> exact hwait t h₁ h₁A
    · refine (triple_getPreimage hs reverse).bind (fun _ => .pure fun _ ho => ho) fun _ _ ho => ho

end self

/-! ## Payments with a node -/

/-- What is known about the answers of a payment, and when the swap may be given up. -/
structure PaymentFacts where
  known : List LightningPayment → Prop
  missing : Prop
  answered : PaymentResult → Prop
  giveUp : Prop

namespace PaymentFacts

/-- The answers that end a payment are those for which the swap may be given up. -/
structure Complete (F : PaymentFacts) : Prop where
  fresh : ∀ payments, F.known payments →
    PendingPaymentTracker.existingRelevantAction payments = none → (payments = [] → F.missing) →
      F.giveUp
  recorded : ∀ payments p, F.known payments →
    payments.any (fun p => p.status == .pending) = false →
    payments.any (fun p => p.status == .success) = false →
    payments.find? (fun p => p.status == .permanentFailure) = some p →
    PaymentHandler.isAbandoned (p.error.getD .other) = true → F.giveUp
  failed : ∀ e permanent, F.answered (.failed e permanent) → F.giveUp

/-- Nothing is known about the answers of a payment, and every swap may be given up. -/
def unknown : PaymentFacts where
  known _ := True
  missing := True
  answered _ := True
  giveUp := True

theorem Complete.unknown : unknown.Complete where
  fresh _ _ _ _ := trivial
  recorded _ _ _ _ _ _ _ := trivial
  failed _ _ _ := trivial

end PaymentFacts

/-- The acts of a payment of `swap`, whose status in memory is `InvoicePending`. -/
structure PaymentSpec (𝓡 : Rules K V) (k : K) (swap : Instance Swap)
    (paying refused ended : Seen V → Prop) (found : Instance ReverseSwap → Seen V → Prop)
    (F : PaymentFacts) : Prop extends
    SelfPaymentSpec 𝓡 k swap paying refused found F.missing where
  complete : F.Complete
  quiet : ∀ q, 𝓡.relevant (.payInvoice swap.id q) = false
  payments : 𝓡.Does [k] paying (readAct (.payInvoice swap.id .payments) fun w =>
      w.lightningPayments.filter fun p => p.preimageHash == swap.row.preimageHash)
    fun payments o => paying o ∧ F.known payments
  result : 𝓡.Does [k] paying (askAct (.payInvoice swap.id .result) Answer.payment?)
    fun r o => paying o ∧ F.answered r
  send : 𝓡.Does [k] paying (writeAct (.sendPayment swap.id) fun w => w) fun _ => paying
  settle : ∀ routingFee preimage, 𝓡.Does [k] paying
    (swapUpdateAct swap (swap.row.paid routingFee preimage) .other) fun _ => ended
  abandon : F.giveUp → 𝓡.Does [k] paying (abandonAct swap (.abandonSwap swap.id)) fun _ => ended
  abandonSelf : 𝓡.Does [k] refused (abandonAct swap (.abandonSelfPayment swap.id)) fun _ => ended
  done : ∀ o, paying o → ended o
  holds : Holds fun a => 𝓡.Quiet a
  rows : Payments fun a => 𝓡.Quiet a

section pay

variable {swap : Instance Swap} {paying refused ended : Seen V → Prop}
  {found : Instance ReverseSwap → Seen V → Prop} {F : PaymentFacts}

/-- How an attempt to pay ends: an error that gives the swap up has its reason. -/
def attempted (paying : Seen V → Prop) (F : PaymentFacts) :
    Except Error (Option PaymentResponse) → Seen V → Prop
  | .ok _, o => paying o
  | .error e, o => paying o ∧
    (PaymentHandler.isAbandoned (PaymentHandler.paymentErrorOf e) = true → F.giveUp)

theorem quiet_setPaymentStatus
    (hs : 𝓡.PaymentSpec k swap paying refused ended found F) (paymentHash nodeId : Nat)
    (status : LightningPaymentStatus) (error : Option PaymentError) :
    𝓡.QuietProg (LightningPaymentRepository.setStatus paymentHash nodeId status error) :=
  uses_setPaymentStatus hs.rows _ _ _ _

theorem triple_getSuccessfulPaymentDetails
    (hs : 𝓡.PaymentSpec k swap paying refused ended found F) :
    𝓡.Triple [k] paying (PendingPaymentTracker.getSuccessfulPaymentDetails swap.id)
      (attempted paying F) := by
  refine Guarded.Triple.act_bind (quiet_plain.ask _).does hs.steady_paying fun available => ?_
  split
  · exact .pure fun _ ho => ho
  refine Guarded.Triple.act_bind hs.result hs.steady_paying fun r => ?_
  cases r with
  | paid feeMsat preimage => exact .pure fun _ ho => ho.1
  | failed e permanent => exact .throw fun _ ho => ⟨ho.1, fun _ => hs.complete.failed e _ ho.2⟩
  | pending => exact .pure fun _ ho => ho.1

theorem triple_sendPaymentWithNode (hs : 𝓡.PaymentSpec k swap paying refused ended found F)
    (hnew : F.giveUp) (paymentHash nodeId : Nat) :
    𝓡.Triple [k] paying (PendingPaymentTracker.sendPaymentWithNode swap.id paymentHash nodeId)
      (attempted paying F) := by
  refine triple_quiet_bind (uses_createPayment hs.rows _ _) hs.steady_paying (fun _ => ?_)
    fun _ _ ho => ⟨ho, fun _ => hnew⟩
  refine Guarded.Triple.act_bind hs.result hs.steady_paying fun r => ?_
  refine Guarded.Triple.conseq (B := paying) ?_ (fun _ ho => ho.1) fun _ _ ho => ho
  cases r with
  | paid feeMsat preimage =>
    exact triple_quiet_bind (quiet_setPaymentStatus hs _ _ _ _) hs.steady_paying
      (fun _ => .pure fun _ ho => ho) fun _ _ ho => ⟨ho, fun _ => hnew⟩
  | pending => exact .pure fun _ ho => ho
  | failed e permanent =>
    refine Guarded.Triple.act_bind (quiet_plain.read _).does hs.steady_paying fun isCln => ?_
    split
    · exact .pure fun _ ho => ho
    · exact triple_quiet_bind (quiet_setPaymentStatus hs _ _ _ _) hs.steady_paying
        (fun _ => .throw fun _ ho => ⟨ho, fun _ => hnew⟩) fun _ _ ho => ⟨ho, fun _ => hnew⟩

theorem triple_checkInvoiceTimeout (hs : 𝓡.PaymentSpec k swap paying refused ended found F)
    (paymentHash nodeId : Nat) (payments : List LightningPayment) :
    𝓡.Triple [k] paying
      (PendingPaymentTracker.checkInvoiceTimeout swap.id paymentHash nodeId payments)
      fun _ => paying := by
  unfold PendingPaymentTracker.checkInvoiceTimeout
  split
  · refine Guarded.Triple.act_bind (quiet_ask (hs.quiet _) _).does hs.steady_paying fun _ => ?_
    refine .when (fun _ => ?_) fun _ _ ho => ho
    exact triple_quiet_bind (quiet_setPaymentStatus hs _ _ _ _) hs.steady_paying
      (fun _ => .throw fun _ ho => ho) fun _ _ ho => ho
  · exact .pure fun _ ho => ho

/-- A payment that is neither recorded as pending, successful nor failed for good is new. -/
theorem existingRelevantAction_eq_none {payments : List LightningPayment}
    (hp : payments.any (fun p => p.status == .pending) = false)
    (hs : payments.any (fun p => p.status == .success) = false)
    (hf : payments.find? (fun p => p.status == .permanentFailure) = none) :
    PendingPaymentTracker.existingRelevantAction payments = none := by
  rw [PendingPaymentTracker.existingRelevantAction, List.find?_eq_none]
  rw [List.find?_eq_none] at hf
  intro p hmem
  have h₁ := List.any_eq_false.mp hp p hmem
  have h₂ := List.any_eq_false.mp hs p hmem
  have h₃ := hf p hmem
  cases hst : p.status <;> simp_all

theorem triple_sendPayment (hs : 𝓡.PaymentSpec k swap paying refused ended found F)
    (nodeId paymentHash : Nat) {payments : List LightningPayment} (hk : F.known payments)
    (hself : payments = [] → F.missing) :
    𝓡.Triple [k] paying (PendingPaymentTracker.sendPayment swap nodeId paymentHash payments)
      (attempted paying F) := by
  refine Guarded.Triple.act_bind hs.send hs.steady_paying fun _ => ?_
  split
  · exact .pure fun _ ho => ho
  rename_i hpending
  split
  · exact triple_getSuccessfulPaymentDetails hs
  rename_i hsuccess
  rw [Bool.not_eq_true] at hpending hsuccess
  split
  · rename_i p hp
    exact .throw fun o ho =>
      ⟨ho, fun ha => hs.complete.recorded payments p hk hpending hsuccess hp ha⟩
  · rename_i hp
    have hnew := hs.complete.fresh payments hk
      (existingRelevantAction_eq_none hpending hsuccess hp) hself
    refine (triple_checkInvoiceTimeout hs paymentHash nodeId payments).bind (fun _ => ?_)
      fun _ _ ho => ⟨ho, fun _ => hnew⟩
    exact triple_sendPaymentWithNode hs hnew paymentHash nodeId

theorem triple_settleInvoice (hs : 𝓡.PaymentSpec k swap paying refused ended found F)
    (response : PaymentResponse) :
    𝓡.Triple [k] paying (PaymentHandler.settleInvoice swap response) fun _ => ended :=
  triple_update (hs.settle response.feeMsat response.preimage) hs.steady_paying
    (.pure fun _ ho => ho)

theorem triple_abandonSwap (hs : 𝓡.PaymentSpec k swap paying refused ended found F)
    (hg : F.giveUp) : 𝓡.Triple [k] paying (do
      let swap ← PaymentHandler.abandonSwap swap (.abandonSwap swap.id)
      pure (swap, none) : M (Instance Swap × Option Nat)) fun _ => ended :=
  triple_update (hs.abandon hg) hs.steady_paying (.pure fun _ ho => ho)

theorem triple_handlePaymentFailure (hs : 𝓡.PaymentSpec k swap paying refused ended found F)
    (nodeId : Nat) {e : PaymentError} (hg : PaymentHandler.isAbandoned e = true → F.giveUp) :
    𝓡.Triple [k] paying (PaymentHandler.handlePaymentFailure swap nodeId e) fun _ => ended := by
  refine Guarded.Triple.act_bind (quiet_plain.read _).does hs.steady_paying fun isCln => ?_
  refine triple_quiet_bind ?_ hs.steady_paying (fun r => ?_) fun _ => hs.done
  · unfold PaymentHandler.trackFailedPayment
    split
    · exact uses_ask (quiet_ask (hs.quiet _) _)
    · trivial
  cases r with
  | paid feeMsat preimage => exact triple_settleInvoice hs ⟨feeMsat, preimage⟩
  | pending => exact .pure hs.done
  | failed _ _ =>
    dsimp only
    split
    · rename_i ha
      exact triple_abandonSwap hs (hg ha)
    · exact .pure hs.done

theorem triple_pay (hs : 𝓡.PaymentSpec k swap paying refused ended found F)
    (nodeId paymentHash cltvLimit : Nat) {payments : List LightningPayment}
    (hk : F.known payments) (hself : payments = [] → F.missing) :
    𝓡.Triple [k] paying (PaymentHandler.pay swap nodeId paymentHash cltvLimit payments)
      fun _ => ended := by
  refine Guarded.Triple.attempt_bind (Y := attempted paying F) ?_ fun r => ?_
  · exact .throwIf_bind (fun _ o ho => ⟨ho, fun ha => by cases ha⟩) fun _ =>
      triple_sendPayment hs nodeId paymentHash hk hself
  match r with
  | .ok (some response) => exact triple_settleInvoice hs response
  | .ok none => exact .pure hs.done
  | .error e =>
    intro t h hA
    exact triple_handlePaymentFailure hs nodeId hA.2.2 t h (hA.mono fun _ ho => ho.1)

theorem triple_payWithNode (hs : 𝓡.PaymentSpec k swap paying refused ended found F)
    (nodeId cltvLimit : Nat) (signerDisabled : Bool) {payments : List LightningPayment}
    (hk : F.known payments) (hself : payments = [] → F.missing) :
    𝓡.Triple [k] paying
      (PaymentHandler.payWithNode swap nodeId cltvLimit signerDisabled payments)
      fun _ => ended := by
  unfold PaymentHandler.payWithNode
  dsimp only
  split
  · exact triple_pay hs nodeId _ cltvLimit hk hself
  rename_i hex
  have hnew : F.giveUp := hs.complete.fresh payments hk (by simpa using hex) hself
  split
  · exact triple_abandonSwap hs hnew
  refine triple_quiet_bind (uses_resolveSendApprovalDecision quiet_plain
    (quiet_ask (hs.quiet _) _) (quiet_read (hs.quiet _) _) _) hs.steady_paying (fun approval => ?_)
    fun _ => hs.done
  refine triple_quiet_bind (uses_persistSendApprovalDecision hs.holds _ _ _) hs.steady_paying
    (fun mayProceed => ?_) fun _ => hs.done
  split
  · exact .pure hs.done
  split
  · exact triple_abandonSwap hs hnew
  · exact triple_pay hs nodeId _ cltvLimit hk hself

/-! ## Invoices -/

/-- The acts of `payInvoice` for a swap as it was fetched. -/
structure PayerSpec (𝓡 : Rules K V) (k : K) (swap : Instance Swap)
    (ready paying refused ended : Seen V → Prop) (found : Instance ReverseSwap → Seen V → Prop)
    (F : PaymentFacts) : Prop extends
    PaymentSpec 𝓡 k swap.pendingInvoice paying refused ended found F where
  pend : swap.row.status ≠ invoicePending → 𝓡.Does [k] ready
    (swapUpdateAct swap (swap.row.withStatus invoicePending none) (.setInvoicePending swap.id))
    fun _ => paying
  pended : swap.row.status = invoicePending → ∀ o, ready o → paying o
  steady_ready : 𝓡.Steady [k] ready

theorem triple_setInvoicePending {ready : Seen V → Prop} {f : Instance Swap → M α}
    {X : Except Error α → Seen V → Prop}
    (hs : 𝓡.PayerSpec k swap ready paying refused ended found F)
    (hf : 𝓡.Triple [k] paying (f swap.pendingInvoice) X) :
    𝓡.Triple [k] ready (PaymentHandler.setInvoicePending swap >>= f) X := by
  unfold PaymentHandler.setInvoicePending
  unfold Instance.pendingInvoice at hf
  split
  · rename_i hst
    rw [if_pos hst] at hf
    exact hf.conseq (hs.pended hst) fun _ _ ho => ho
  · rename_i hst
    rw [if_neg hst] at hf
    exact triple_update (hs.pend hst) hs.steady_ready hf

theorem triple_payInvoice {ready : Seen V → Prop}
    (hs : 𝓡.PayerSpec k swap ready paying refused ended found F) :
    𝓡.Triple [k] ready (PaymentHandler.payInvoice swap) fun _ => ended := by
  have hp := hs.toPaymentSpec
  have hquiet : ∀ {β : Type} {m : M β} {f : β → M (Instance Swap × Option Nat)},
      𝓡.QuietProg m → (∀ b, 𝓡.Triple [k] paying (f b) fun _ => ended) →
        𝓡.Triple [k] paying (m >>= f) fun _ => ended := fun hm hf =>
    triple_quiet_bind hm hp.steady_paying hf fun _ => hp.done
  refine triple_setInvoicePending hs ?_
  refine hquiet (uses_external quiet_plain) fun _ => ?_
  refine hquiet (uses_ask (quiet_plain.ask _)) fun cltvLimit => ?_
  refine hquiet (uses_ask (quiet_plain.ask _)) fun isExpired => ?_
  refine hquiet (uses_ask (quiet_plain.ask _)) fun held => ?_
  split
  · exact .pure hp.done
  refine hquiet (uses_ask (quiet_plain.ask _)) fun preferredNode => ?_
  refine Guarded.Triple.act_bind hp.payments hp.steady_paying fun payments => ?_
  -- what the stored payments say does not depend on the state any more
  intro t h hA
  have hknown : F.known payments := hA.2.2
  refine hquiet (uses_ask (quiet_ask (hp.quiet _) _)) (fun signerDisabled => ?_) t h
    (hA.mono fun _ ho => ho.1)
  refine Guarded.Triple.attempt_bind
    (triple_handleSelfPayment hp.toSelfPaymentSpec cltvLimit isExpired payments) fun r => ?_
  match r with
  | .error _ => exact triple_update hp.abandonSelf hp.steady_refused (.pure fun _ ho => ho)
  | .ok (some (some response)) => exact triple_settleInvoice hp response
  | .ok (some none) => exact .pure hp.done
  | .ok none =>
    intro t h hA
    exact triple_payWithNode hp _ cltvLimit signerDisabled hknown hA.2.2 t h
      (hA.mono fun _ ho => ho.1)

end pay

/-! ## Handlers that pay -/

/-- What the handlers of a lockup need: `fetched` is what is known of a swap that was fetched. -/
structure PayerTasks (𝓡 : Rules K V) (k : K) (fetched : Instance Swap → Seen V → Prop) :
    Prop where
  lock : 𝓡.lock k = .swap
  fetch : ∀ id, 𝓡.Does [k] (𝓡.Res k)
    (readAct (.fetchForPayment id) fun w => w.swaps.byId id)
    fun r o => 𝓡.Res k o ∧ ∀ swap, r = some swap → fetched swap o
  back : ∀ swap o, fetched swap o → 𝓡.Res k o
  pay : ∀ swap, 𝓡.Triple [k] (fetched swap) (PaymentHandler.payInvoice swap) fun _ => 𝓡.Res k
  rate : ∀ (swap : Instance Swap) rate,
    𝓡.KeepsRes k (swapUpdateAct swap { swap.row with rate := some rate } .other)
  claim : ClaimActs (𝓡.KeepsRes k)

section payers

variable {fetched : Instance Swap → Seen V → Prop}

theorem triple_setSwapRate (ht : 𝓡.PayerTasks k fetched) (swap : Instance Swap) :
    𝓡.Triple [k] (fetched swap) (setSwapRate swap) fun _ => 𝓡.Res k :=
  (Guarded.Triple.of_uses (uses_setSwapRate plain_keepsRes ht.rate swap) steady_own).conseq
    (ht.back swap) fun _ _ ho => ho

/-- The body of a handler: the swap is fetched, and the rest knows what was fetched. -/
theorem triple_fetch (ht : 𝓡.PayerTasks k fetched) {id : Nat}
    {f : Option (Instance Swap) → M α} (hnone : 𝓡.Triple [k] (𝓡.Res k) (f none) fun _ => 𝓡.Res k)
    (hsome : ∀ swap, 𝓡.Triple [k] (fetched swap) (f (some swap)) fun _ => 𝓡.Res k) :
    𝓡.Triple [k] (𝓡.Res k) (SwapRepository.getSwap id (.fetchForPayment id) >>= f)
      fun _ => 𝓡.Res k := by
  refine Guarded.Triple.act_bind (ht.fetch id) steady_own fun r => ?_
  cases r with
  | none => exact hnone.conseq (fun _ ho => ho.1) fun _ _ ho => ho
  | some swap => exact (hsome swap).conseq (fun _ ho => ho.2 swap rfl) fun _ _ ho => ho

/-- The invoice is paid and the lockup claimed. -/
theorem triple_payAndClaim (ht : 𝓡.PayerTasks k fetched) (swap : Instance Swap)
    {f : Instance Swap × Option Nat → M Unit}
    (hf : ∀ r, (f r).Uses (𝓡.KeepsRes k) 𝓡.SafeTask) :
    𝓡.Triple [k] (fetched swap) (PaymentHandler.payInvoice swap >>= f) fun _ => 𝓡.Res k :=
  (ht.pay swap).bind (fun r => Guarded.Triple.of_uses (hf r) steady_own) fun _ _ ho => ho

theorem safe_nurserySwapLockup (ht : 𝓡.PayerTasks k fetched) {stops : SwapUpdateEvent → Bool}
    {claim : ClaimSwap → Nat → M Unit}
    (hclaim : ∀ swap preimage, (claim swap preimage).Uses (𝓡.KeepsRes k) 𝓡.SafeTask)
    (id transactionId vout : Nat) :
    𝓡.logic.Safe (nurserySwapLockup stops claim id transactionId vout) := by
  refine Locked.safe (k := k) ?_ ht.lock
  refine triple_fetch ht (.pure fun _ ho => ho) fun swap => ?_
  dsimp only
  split
  · exact .pure (ht.back swap)
  split
  · exact .pure (ht.back swap)
  split
  · exact .pure (ht.back swap)
  split
  · exact triple_setSwapRate ht swap
  refine triple_payAndClaim ht swap fun r => ?_
  obtain ⟨swap, preimage⟩ := r
  cases preimage with
  | none => trivial
  | some preimage => exact hclaim _ _

theorem triple_settleSubmarine (ht : 𝓡.PayerTasks k fetched) (swap : Instance Swap) :
    𝓡.Triple [k] (𝓡.Res k) (attemptSettleSwap (.submarine swap) none) fun _ => 𝓡.Res k := by
  rw [attemptSettleSwap_eq]
  change 𝓡.Triple [k] _ (SwapRepository.getSwap swap.id (.fetchForPayment swap.id) >>= fun found =>
    settleFetched none ((found.filter fun f => !isSettled f.row.status).map .submarine)) _
  refine triple_fetch ht (.pure fun _ ho => ho) fun found => ?_
  rw [Option.filter_some]
  split
  swap
  · exact .pure (ht.back found)
  have hpay : 𝓡.Triple [k] (fetched found) (preimageForSettlement (.submarine found) none)
      fun _ => 𝓡.Res k := (ht.pay found).bind (fun _ => .pure fun _ ho => ho) fun _ _ ho => ho
  refine hpay.bind (fun r => ?_) fun _ _ ho => ho
  obtain ⟨swap, preimage⟩ := r
  refine Guarded.Triple.of_uses ?_ steady_own
  cases preimage with
  | none => trivial
  | some preimage =>
    refine .bind (uses_deferClaim ht.claim.plain ht.claim.claims ht.claim.locks ht.claim.claimed
      (ht.claim.pending _ _)) fun deferred => ?_
    split
    · trivial
    · exact uses_claim ht.claim swap preimage

theorem safe_evmSwapLockup (ht : 𝓡.PayerTasks k fetched) (id transactionHash logIndex : Nat) :
    𝓡.logic.Safe (evmSwapLockup id transactionHash logIndex) := by
  refine Locked.safe (k := k) ?_ ht.lock
  refine Guarded.Triple.act_bind (quiet_plain.read _).does steady_own fun r => ?_
  cases r with
  | none => exact .pure fun _ ho => ho
  | some swap =>
    dsimp only
    split
    · exact .pure fun _ ho => ho
    split
    · exact .pure fun _ ho => ho
    split
    · exact .of_uses (uses_setSwapRate plain_keepsRes ht.rate swap) steady_own
    split
    · exact .pure fun _ ho => ho
    · exact triple_settleSubmarine ht swap

theorem safe_retryPendingInvoices (ht : 𝓡.PayerTasks k fetched) :
    𝓡.logic.Safe retryPendingInvoices := by
  refine Locked.safe (k := k) ?_ ht.lock
  refine Guarded.Triple.act_bind (quiet_plain.read _).does steady_own fun swaps => ?_
  exact .forEach fun swap => triple_settleSubmarine ht swap

theorem submarineTasks_of_payers (ht : 𝓡.PayerTasks k fetched)
    (hh : Holds fun a => 𝓡.Quiet a) (hpay : Payments 𝓡.FreeAct)
    (hlockup : ∀ id incoming amount status,
      status ∈ [transactionConfirmed, transactionMempool, transactionLockupFailed] →
        𝓡.FreeAct (swapLockupAct id incoming amount status))
    (hzero : ∀ id incoming, 𝓡.FreeAct (swapZeroConfRejectedAct id incoming))
    (haddress : ∀ (swap : Instance Swap) address,
      𝓡.FreeAct (swapUpdateAct swap { swap.row with refundAddress := some address } .other))
    (hfailed : ∀ swap reason, 𝓡.logic.Safe (swapLockupFailed swap reason))
    (hexpired : ∀ swap, 𝓡.logic.Safe (swapExpiredHandler swap))
    (hsign : ∀ id, 𝓡.logic.Safe (MusigSigner.signRefund id))
    (hsignArk : ∀ id, 𝓡.logic.Safe (MusigSigner.signRefundArk id)) :
    SubmarineTasks 𝓡.SafeTask := by
  have hcheck : SwapCheckActs 𝓡.FreeAct 𝓡.SafeTask :=
    { plain := free_plain
      lockup := hlockup
      zeroConfRejected := hzero
      refundAddress := haddress
      failed := hfailed
      rejected := fun swap => by
        refine Locked.safe (k := k) (.of_uses (.when _ ?_)) ht.lock
        exact uses_setSwapRate plain_keepsRes ht.rate swap
      utxo := safe_nurserySwapLockup ht (uses_claimUtxo ht.claim)
      ark := safe_nurserySwapLockup ht (uses_claimVtxo ht.claim)
      evm := safe_evmSwapLockup ht }
  refine ⟨fun _ _ _ => ?_, fun _ _ => ?_, fun _ => ?_, hexpired, safe_retryPendingInvoices ht,
    fun swapId => ?_, hsign, hsignArk, fun _ _ _ _ => ?_⟩
  · exact closed (uses_checkSwap hcheck _ _ _)
  · exact closed (uses_swapLockupEvent hcheck _ _)
  · exact closed (uses_checkSubmarineLockup hcheck _)
  · refine Locked.safe (k := k) (.of_uses ?_) ht.lock
    exact uses_pruneStaleSubmarineHolds plain_keepsRes (within_keepsRes hh) swapId
  · exact closed (uses_setPaymentStatus hpay _ _ _ _)

end payers

end Rules

end Boltz

import Boltz.Logic.Statuses
import Boltz.Safety.FailedSwaps

/-!
# Invoices that are set after the lockup

`setSwapInvoice` stores `InvoiceSet` whatever the status of the swap is, and settles the swap only
if its row was in `TransactionConfirmed` with exactly the expected amount. Neither lockup handlers
nor the retry loop come back to a swap in `InvoiceSet`.
-/

namespace Boltz

open Async SwapUpdateEvent

/-- The row has a confirmed lockup, or an accepted one in the mempool, whose amount is acceptable. -/
def settleable (protector : OverpaymentProtector) (row : Swap) (expectedAmount : Nat)
    (acceptZeroConf : Bool) : Bool :=
  row.lockupTransactionId.isSome &&
    (row.status == transactionConfirmed || (row.status == transactionMempool && acceptZeroConf)) &&
    row.onchainAmount.any fun amount =>
      expectedAmount ≤ amount && !protector.isUnacceptableOverpay .submarine expectedAmount amount

/-- The settlement ended, with a claim or because the payment was given up, or the retry loop
comes back to it. -/
def accountedStatuses : List SwapUpdateEvent :=
  [invoicePending, invoicePaid, transactionClaimPending, transactionClaimed, invoiceFailedToPay]

/-- The step replaces a failed status with `InvoiceSet`. -/
def revives (e : Event Label World Answer) (id : Nat) : Prop :=
  ∃ before after, e.before.swaps.get id = some before ∧ e.after.swaps.get id = some after ∧
    before.status ∈ failedSwapUpdateEvents ∧ after.status = invoiceSet

/-- What a step of `setSwapInvoice` keeps of the swap. -/
structure InvoiceKept (protector : OverpaymentProtector) (id : Nat)
    (e : Event Label World Answer) : Prop where
  notRevived : ∀ swap expectedAmount acceptZeroConf,
    e.label = .setInvoice swap expectedAmount acceptZeroConf → swap.id = id → ¬revives e id
  notForgotten : ∀ stored expectedAmount acceptZeroConf,
    e.label = .invoiceSet id (some stored) expectedAmount acceptZeroConf →
      settleable protector stored expectedAmount acceptZeroConf = true →
        ∃ row, e.before.swaps.get id = some row ∧ row.status ∈ accountedStatuses

def InvoicesKept (protector : OverpaymentProtector) (h : History) : Prop :=
  ∀ e ∈ h.trace, ∀ id, InvoiceKept protector id e

def isFailed (status : SwapUpdateEvent) : Bool := failedSwapUpdateEvents.contains status

/-- `setSwapInvoice` does not query a failed swap, no other task fails the swap before the invoice
is stored, and a lockup that could be settled is confirmed with exactly the expected amount in the
row that was queried. -/
def invoicePolicy (protector : OverpaymentProtector) : Policy Request Label World Answer where
  spawn _ := true
  allow l _ h _ := match l with
    | .fetchForInvoice id => (h.world.swaps.get id).all fun s => !isFailed s.status
    | .setInvoice carried expectedAmount acceptZeroConf =>
      (h.world.swaps.get carried.id).all fun stored =>
        (!isFailed stored.status || isFailed carried.row.status) &&
          (!settleable protector stored expectedAmount acceptZeroConf ||
            settlesDirectly carried.row expectedAmount)
    | _ => true

/-! ## Rows -/

def Accounted (o : RowObs Swap) : Prop := ∃ s, o.now = some s ∧ s.status ∈ accountedStatuses

/-- The row exists, with a status that a submarine swap can have. -/
def Known (o : RowObs Swap) : Prop := ∃ s, o.now = some s ∧ s.status ≠ invoiceSettled

/-- With the lock, a swap that is accounted for stays so. -/
def invoiceLogic (protector : OverpaymentProtector) (id : Nat) :
    RowLogic (Option Swap) Label.isSubmarine where
  relevant
    | .setInvoice swap _ _ => swap.id == id
    | .invoiceSet j _ _ _ => j == id
    | _ => false
  allow := (invoicePolicy protector).allow
  Inv o := ∀ e ∈ o.past, InvoiceKept protector id e
  Res _ := True
  Keep o o' := Accounted o → Accounted o'
  Any o o' := (o.now.isSome = true → o'.now.isSome = true) ∧ (Known o → Known o')
  keep_refl _ h := h
  keep_trans h₁ h₂ h := h₂ (h₁ h)
  any_refl _ := ⟨fun h => h, fun h => h⟩
  any_trans h₁ h₂ := ⟨fun h => h₂.1 (h₁.1 h), fun h => h₂.2 (h₁.2 h)⟩
  res_keep _ _ := trivial
  kind l hl := by
    cases l <;> first | rfl | cases hl
  other := rfl

abbrev invoiceRules (protector : OverpaymentProtector) (id : Nat) : Rules Unit (Option Swap) :=
  submarineRules (invoiceLogic protector id) id

namespace invoiceRules

variable {protector : OverpaymentProtector} {id : Nat} {ks : List Unit} {B C : RowObs Swap → Prop}

/-- What a write of a row changes for everybody. -/
theorem any_write (protector : OverpaymentProtector) (id : Nat) {o : RowObs Swap} {s s' : Swap}
    (past : List (Event Label World Answer)) (hnow : o.now = some s)
    (hst : s'.status = invoiceSettled → s.status = invoiceSettled) :
    (invoiceRules protector id).Any o ⟨some s', past⟩ := by
  refine ⟨fun _ => rfl, fun ⟨x, hx, hne⟩ => ⟨s', rfl, fun hs' => hne ?_⟩⟩
  cases hnow.symm.trans hx
  exact hst hs'

/-- A write with the lock. -/
theorem does_locked {j : Nat} {f : Swap → Swap} {l : Label}
    (hl : (invoiceRules protector id).relevant l = false)
    (hst : ∀ s, (f s).status = invoiceSettled → s.status = invoiceSettled) :
    (invoiceRules protector id).Does [()] B (writeAct l fun w => setSwaps (w.swaps.modify j f) w)
      fun _ _ => True := by
  refine Rules.does_modify submarineRules.row hl (fun _ _ _ => trivial)
    fun _ t h ω r hi _ _ hr => ?_
  exact ⟨hi, any_write protector id _ hr (hst r), fun k hk => absurd (by simp) hk, trivial⟩

/-- A write that everybody may do. -/
theorem does_keep {j : Nat} {f : Swap → Swap} {l : Label}
    (hB : (invoiceRules protector id).Steady [()] B)
    (hl : (invoiceRules protector id).relevant l = false)
    (hst : ∀ s, (f s).status = invoiceSettled → s.status = invoiceSettled)
    (hacc : ∀ s, s.status ∈ accountedStatuses → (f s).status ∈ accountedStatuses) :
    (invoiceRules protector id).Does ks B (writeAct l fun w => setSwaps (w.swaps.modify j f) w)
      fun _ => B := by
  refine Rules.does_modify submarineRules.row hl (fun _ _ hb => hb)
    fun _ t h ω r hi hb _ hr => ?_
  have hany := any_write protector id ((invoiceRules protector id).obs h).past hr (hst r)
  have hkeep : ∀ k, (invoiceRules protector id).Keep k ((invoiceRules protector id).obs h)
      ⟨some (f r), ((invoiceRules protector id).obs h).past⟩ := by
    rintro k ⟨s, hs, hmem⟩
    cases hr.symm.trans hs
    exact ⟨f r, rfl, hacc r hmem⟩
  exact ⟨hi, hany, fun k _ => hkeep k, hB _ _ hany (fun k _ => hkeep k) hi hb⟩

theorem steady_true : (invoiceRules protector id).Steady [()] fun _ => True := Guarded.steady_true

theorem statusSpec : (invoiceRules protector id).StatusSpec () invoiceSettled accountedStatuses where
  chain := submarineRules.ignoresChain
  claims := submarineRules.ignoresClaims
  lock := rfl
  not_stored := by decide
  closed := by decide
  claimed := by decide
  claimPending := by decide
  free hB hl hpasses hkept := does_keep hB hl (fun s => (hpasses s).status) hkept
  locked hl hpasses := does_locked hl fun s => (hpasses s).status

theorem refundActs (j : Nat) : RefundActs (invoiceRules protector id).FreeAct .submarine j where
  read f := (Rules.quiet_read rfl f).free
  eligible := (Rules.quiet_write rfl fun _ => ⟨rfl, rfl⟩).free
  signed := (Rules.quiet_write rfl fun _ => ⟨rfl, rfl⟩).free

/-! ## Payments -/

/-- What is known while the invoice of the swap is paid, and afterwards. -/
def Settling (id : Nat) (swap : Instance Swap) (o : RowObs Swap) : Prop :=
  swap.id = id → Accounted o

/-- What is known of a swap that was fetched with the lock. -/
def Fetched (id : Nat) (swap : Instance Swap) (o : RowObs Swap) : Prop :=
  swap.id = id → o.now.isSome = true ∧ (swap.row.status = invoicePending → Accounted o)

theorem steady_settling (swap : Instance Swap) :
    (invoiceRules protector id).Steady [()] (Settling id swap) := by
  intro o o' _ hkeep _ hB hid
  exact hkeep () (by simp) (hB hid)

theorem steady_fetched (swap : Instance Swap) :
    (invoiceRules protector id).Steady [()] (Fetched id swap) := by
  intro o o' hany hkeep _ hB hid
  obtain ⟨hsome, hpending⟩ := hB hid
  exact ⟨hany.1 hsome, fun hst => hkeep () (by simp) (hpending hst)⟩

theorem quiet_payments : Payments fun a => (invoiceRules protector id).Quiet a :=
  Rules.quiet_payments fun _ _ => rfl

theorem paymentSpec (swap : Instance Swap) (hacc : ∀ invoice,
    (invoiceRules protector id).logic.Safe (LightningNursery.htlcAccepted invoice)) :
    (invoiceRules protector id).PaymentSpec () swap.pendingInvoice (Settling id swap)
      (Settling id swap) (Settling id swap) (fun _ => Settling id swap) .unknown where
  toSelfPaymentSpec :=
    Rules.selfPaymentSpec_of_steady (steady_settling swap) rfl (fun _ => rfl) hacc
  complete := .unknown
  quiet _ := rfl
  payments := Rules.does_read rfl fun _ _ _ _ hA _ => ⟨hA.2, trivial⟩
  result := by
    refine (Rules.quiet_ask rfl _).does_of fun t h ω r s _ hA _ _ => ?_
    exact ⟨hA.2, trivial⟩
  send := (Rules.quiet_write rfl fun _ => ⟨rfl, rfl⟩).does
  settle _ _ := statusSpec.update (steady_settling swap) rfl
    (.inr (by simp [Swap.paid, accountedStatuses, storedStatuses]))
  abandon _ := statusSpec.update (steady_settling swap) rfl
    (.inr (by simp [Swap.withStatus, accountedStatuses, storedStatuses]))
  abandonSelf := statusSpec.update (steady_settling swap) rfl
    (.inr (by simp [Swap.withStatus, accountedStatuses, storedStatuses]))
  done _ ho := ho
  holds := Rules.quiet_holds fun _ _ => rfl
  rows := quiet_payments

theorem does_pend (swap : Instance Swap) (hst : swap.row.status ≠ invoicePending) :
    (invoiceRules protector id).Does [()] (Fetched id swap)
      (swapUpdateAct swap (swap.row.withStatus invoicePending none) (.setInvoicePending swap.id))
      fun _ => Settling id swap := by
  refine Rules.does_modify submarineRules.row rfl (fun o hrow hB hid => ?_)
    fun hid t h ω r hi _ ha hr => ?_
  · have hsome := (hB hid).1
    rw [hrow hid] at hsome
    cases hsome
  · have hstatus : (swap.row.save (swap.row.withStatus invoicePending none) r).status =
        invoicePending := saved_of_ne (Ne.symm hst) r.status
    refine ⟨hi, any_write protector id _ hr fun hs => ?_, fun k hk => absurd (by simp) hk,
      fun _ => ⟨_, rfl, ?_⟩⟩
    · rw [hstatus] at hs
      cases hs
    · rw [hstatus]
      decide

theorem payerSpec (swap : Instance Swap) (hacc : ∀ invoice,
    (invoiceRules protector id).logic.Safe (LightningNursery.htlcAccepted invoice)) :
    (invoiceRules protector id).PayerSpec () swap (Fetched id swap) (Settling id swap)
      (Settling id swap) (Settling id swap) (fun _ => Settling id swap) .unknown where
  toPaymentSpec := paymentSpec swap hacc
  pend := does_pend swap
  pended hst _ ho hid := (ho hid).2 hst
  steady_ready := steady_fetched swap

/-- What the row says that was fetched with the lock. -/
theorem fetched_of_byId (protector : OverpaymentProtector) {h : History} {j : Nat}
    {swap : Instance Swap} (hswap : h.world.swaps.byId j = some swap) :
    swap.id = j ∧ (swap.id = id → ((invoiceRules protector id).obs h).now = some swap.row) := by
  obtain ⟨hid, hrow⟩ := Table.byId_eq_some.mp hswap
  refine ⟨hid, fun hown => ?_⟩
  change h.world.swaps.get id = some swap.row
  rw [← hown, hid]
  exact hrow

theorem payerTasks (hacc : ∀ invoice,
    (invoiceRules protector id).logic.Safe (LightningNursery.htlcAccepted invoice)) :
    (invoiceRules protector id).PayerTasks () (Fetched id) where
  lock := rfl
  fetch swapId := by
    refine Rules.does_read rfl fun t h ω hi _ _ => ⟨trivial, fun swap hswap hown => ?_⟩
    have hnow := (fetched_of_byId protector hswap).2 hown
    refine ⟨by rw [hnow]; rfl, fun hst => ⟨swap.row, hnow, ?_⟩⟩
    rw [hst]
    decide
  back _ _ _ := trivial
  pay swap := (Rules.triple_payInvoice (payerSpec swap hacc)).conseq (fun _ ho => ho)
    fun _ _ _ => trivial
  rate _ _ := statusSpec.update steady_true rfl (.inl rfl)
  claim := statusSpec.claimActs steady_true

theorem tasks (hacc : ∀ invoice,
    (invoiceRules protector id).logic.Safe (LightningNursery.htlcAccepted invoice)) :
    SubmarineTasks (invoiceRules protector id).SafeTask :=
  statusSpec.submarineTasks (payerTasks hacc) (Rules.quiet_holds fun _ _ => rfl)
    (Rules.free_payments quiet_payments) (fun _ => rfl) (fun _ => rfl)
    (fun j => Rules.closed (uses_signRefund Rules.free_plain (refundActs j)
      (statusSpec.free_refundSigned rfl)))
    fun j => Rules.closed (uses_signRefundArk Rules.free_plain (refundActs j)
      (statusSpec.free_refundSigned rfl))

theorem safe_start (e : Entry) : (invoiceRules protector id).logic.Safe (start e) :=
  submarineRules.safe_start statusSpec.free_claimActs tasks e

/-! ## Settlements -/

theorem steady_known : (invoiceRules protector id).Steady [()] Known :=
  fun _ _ hany _ _ hB => hany.2 hB

theorem accounted_of_isSettled {status : SwapUpdateEvent} (hne : status ≠ invoiceSettled)
    (h : isSettled status = true) : status ∈ accountedStatuses := by
  cases status <;> first | decide | exact absurd rfl hne | cases h

/-- A swap that is settled is accounted for afterwards. -/
theorem triple_settle (swap : Instance Swap) (hid : swap.id = id) :
    (invoiceRules protector id).Triple [()] Known (attemptSettleSwap (.submarine swap) none)
      fun _ => Accounted := by
  have hacc : ∀ invoice,
      (invoiceRules protector id).logic.Safe (LightningNursery.htlcAccepted invoice) :=
    fun invoice => safe_start (.htlcAccepted invoice)
  rw [attemptSettleSwap_eq]
  change (invoiceRules protector id).Triple [()] _
    (SwapRepository.getSwap swap.id (.fetchForPayment swap.id) >>= fun found =>
      settleFetched none ((found.filter fun f => !isSettled f.row.status).map .submarine)) _
  have hread : (invoiceRules protector id).Does [()] Known
      (readAct (.fetchForPayment swap.id) fun w => w.swaps.byId swap.id)
      fun found o => ∃ f, found = some f ∧ f.id = id ∧ Fetched id f o ∧
        (isSettled f.row.status = true → Accounted o) := by
    refine Rules.does_read rfl fun t h ω _ hA _ => ?_
    obtain ⟨s, hs, hst⟩ := hA.2
    have hbyId : h.world.swaps.byId swap.id = some ⟨swap.id, s⟩ := by
      refine Table.byId_eq_some.mpr ⟨rfl, ?_⟩
      rw [hid]
      exact hs
    refine ⟨_, hbyId, hid, fun _ => ⟨by rw [hs]; rfl, fun hp => ⟨s, hs, ?_⟩⟩,
      fun hsettled => ⟨s, hs, accounted_of_isSettled hst hsettled⟩⟩
    change s.status = invoicePending at hp
    rw [hp]
    decide
  refine Guarded.Triple.act_bind hread steady_known fun found => ?_
  intro t h hA
  obtain ⟨f, rfl, hf, hfetched, hsettled⟩ := hA.2
  rw [Option.filter_some]
  split
  swap
  · rename_i hs
    exact ⟨hA.1, hsettled (by simpa using hs)⟩
  have hpay : (invoiceRules protector id).Triple [()] (Fetched id f)
      (preimageForSettlement (.submarine f) none) fun _ => Settling id f :=
    (Rules.triple_payInvoice (payerSpec f hacc)).bind (fun _ => .pure fun _ ho => ho)
      fun _ _ ho => ho
  have hclaim : ClaimActs fun a => (invoiceRules protector id).Does [()] (Settling id f) a
      fun _ => Settling id f := statusSpec.claimActs (steady_settling f)
  have hsettle : (invoiceRules protector id).Triple [()] (Fetched id f)
      (settleFetched none (some (.submarine f))) fun _ => Settling id f := by
    refine hpay.bind (fun r => ?_) fun _ _ ho => ho
    obtain ⟨swap, preimage⟩ := r
    refine Guarded.Triple.of_uses ?_ (steady_settling f)
    cases preimage with
    | none => trivial
    | some preimage =>
      refine .bind (uses_deferClaim hclaim.plain hclaim.claims hclaim.locks hclaim.claimed
        (hclaim.pending _ _)) fun deferred => ?_
      split
      · trivial
      · exact uses_claim hclaim swap preimage
  refine Logic.wp_mono (hsettle t h ⟨hA.1, hfetched⟩) fun r h' hr => ?_
  exact hr.mono fun _ ho => ho hf

/-! ## Invoices that are set -/

def Queried (id : Nat) (swap : Instance Swap) (_ : RowObs Swap) : Prop :=
  swap.id = id → isFailed swap.row.status = false

/-- A lockup that can be settled is settled directly. -/
def Stored (protector : OverpaymentProtector) (id : Nat) (swap : Instance Swap)
    (expectedAmount : Nat) (acceptZeroConf : Bool) (stored : Option Swap) (o : RowObs Swap) : Prop :=
  swap.id = id → ∀ row, stored = some row →
    settleable protector row expectedAmount acceptZeroConf = true →
      settlesDirectly swap.row expectedAmount = true ∧ Known o

def Ready (protector : OverpaymentProtector) (id : Nat) (swap : Instance Swap)
    (expectedAmount : Nat) (acceptZeroConf : Bool) (stored : Option Swap) (o : RowObs Swap) : Prop :=
  swap.id = id → ∀ row, stored = some row →
    settleable protector row expectedAmount acceptZeroConf = true → Accounted o

theorem saveInvoice_status (swap : Instance Swap) (invoice expectedAmount : Nat)
    (acceptZeroConf : Bool) (s : Swap) :
    (swap.row.saveInvoice (swap.row.withInvoice invoice expectedAmount acceptZeroConf) s).status =
      saved swap.row.status invoiceSet s.status := rfl

theorem inv_cons {o : RowObs Swap} {now : Option Swap} {e : Event Label World Answer}
    (hi : (invoiceRules protector id).Inv o) (he : InvoiceKept protector id e) :
    (invoiceRules protector id).Inv ⟨now, e :: o.past⟩ := by
  intro x hx
  rcases List.mem_cons.mp hx with rfl | hx
  · exact he
  · exact hi x hx

/-- The write of the invoice, by what the policy says about the two rows. -/
theorem moves_setInvoice (swap : Instance Swap) (invoice expectedAmount : Nat)
    (acceptZeroConf : Bool) (t : Nat) (h : History) (ω : Answer)
    (hi : (invoiceRules protector swap.id).Inv ((invoiceRules protector swap.id).obs h))
    (hqueried : isFailed swap.row.status = false)
    (ha : (invoicePolicy protector).allow (.setInvoice swap expectedAmount acceptZeroConf) t h ω =
      true) {w : World}
    (hw : w.swaps.get swap.id = (h.world.swaps.get swap.id).map (swap.row.saveInvoice
      (swap.row.withInvoice invoice expectedAmount acceptZeroConf))) :
    (invoiceRules protector swap.id).Moves [()] ((invoiceRules protector swap.id).obs h)
      ⟨w.swaps.get swap.id, ⟨t, .setInvoice swap expectedAmount acceptZeroConf, ω, h.world, w⟩ ::
        ((invoiceRules protector swap.id).obs h).past⟩
      (Stored protector swap.id swap expectedAmount acceptZeroConf (h.world.swaps.get swap.id)) := by
  have hpolicy : ∀ row, h.world.swaps.get swap.id = some row → isFailed row.status = false ∧
      (settleable protector row expectedAmount acceptZeroConf = true →
        settlesDirectly swap.row expectedAmount = true) := by
    intro row hrow
    change ((h.world.swaps.get swap.id).all fun stored => _) = true at ha
    rw [hrow, Option.all_some, hqueried, Bool.or_false, Bool.and_eq_true, Bool.not_eq_true'] at ha
    refine ⟨ha.1, fun hsettleable => ?_⟩
    simpa [hsettleable] using ha.2
  have hkept : InvoiceKept protector swap.id
      ⟨t, .setInvoice swap expectedAmount acceptZeroConf, ω, h.world, w⟩ := by
    refine ⟨fun _ _ _ _ _ hrevives => ?_, fun _ _ _ hlabel => Label.noConfusion hlabel⟩
    obtain ⟨before, _, hbefore, _, hfailed, _⟩ := hrevives
    have hnot := (hpolicy before hbefore).1
    rw [isFailed, List.contains_iff_mem.mpr hfailed] at hnot
    cases hnot
  refine ⟨inv_cons hi hkept, ?_, fun k hk => absurd (by simp) hk, fun _ row hrow hsettleable => ?_⟩
  · rw [hw]
    cases hrow : h.world.swaps.get swap.id with
    | none =>
      have hnow : ((invoiceRules protector swap.id).obs h).now = none := hrow
      refine ⟨fun hsome => ?_, fun ⟨s, hs, _⟩ => ?_⟩
      · rw [hnow] at hsome
        cases hsome
      · rw [hnow] at hs
        cases hs
    | some row =>
      refine any_write protector swap.id _ hrow fun hst => ?_
      rw [saveInvoice_status] at hst
      rcases saved_cases swap.row.status invoiceSet row.status with heq | heq
      · exact heq ▸ hst
      · rw [heq] at hst
        cases hst
  · have hdirect := (hpolicy row hrow).2 hsettleable
    refine ⟨hdirect, _, by rw [hw, hrow]; rfl, ?_⟩
    have hconfirmed : swap.row.status = transactionConfirmed := by
      simp only [settlesDirectly, Bool.and_eq_true, beq_iff_eq] at hdirect
      exact hdirect.1.2
    rw [saveInvoice_status, saved_of_ne (by rw [hconfirmed]; decide)]
    decide

theorem does_setInvoice (swap : Instance Swap) (invoice expectedAmount : Nat)
    (acceptZeroConf : Bool) :
    (invoiceRules protector id).Does [()] (Queried id swap)
      (setInvoiceAct swap invoice expectedAmount acceptZeroConf)
      (Stored protector id swap expectedAmount acceptZeroConf) := by
  by_cases hid : swap.id = id
  · subst hid
    have hloud : (invoiceRules protector swap.id).relevant
        (.setInvoice swap expectedAmount acceptZeroConf) = true := beq_self_eq_true swap.id
    refine Rules.does_of_moves (fun t w ω b w' he => ?_) fun t h ω b w hi hB ha he => ?_
    · cases he
      rfl
    · cases he
      change Rules.Moves _ _ _ ((invoiceRules protector swap.id).obs
        (h.record t (.setInvoice swap expectedAmount acceptZeroConf) ω _)) _
      rw [Guarded.obs_loud hloud]
      have hget := Table.get_modify_self h.world.swaps swap.id (swap.row.saveInvoice
        (swap.row.withInvoice invoice expectedAmount acceptZeroConf))
      exact moves_setInvoice swap invoice expectedAmount acceptZeroConf t h ω hi (hB rfl) ha
        (w := setSwaps (h.world.swaps.modify swap.id (swap.row.saveInvoice
          (swap.row.withInvoice invoice expectedAmount acceptZeroConf))) h.world) hget
  · have hquiet : (invoiceRules protector id).relevant
        (.setInvoice swap expectedAmount acceptZeroConf) = false := by
      change (swap.id == id) = false
      simpa using hid
    have hother : (invoiceRules protector id).Does [()] (Queried id swap)
        (setInvoiceAct swap invoice expectedAmount acceptZeroConf) fun _ _ => True := by
      exact statusSpec.setInvoice hquiet
    exact hother.mono (fun _ ho => ho) fun _ _ _ hown => absurd hown hid

theorem does_invoiceSet (swap : Instance Swap) (expectedAmount : Nat) (acceptZeroConf : Bool)
    (stored : Option Swap) :
    (invoiceRules protector id).Does [()] (Ready protector id swap expectedAmount acceptZeroConf
      stored) (writeAct (.invoiceSet swap.id stored expectedAmount acceptZeroConf) fun w => w)
      fun _ _ => True := by
  by_cases hid : swap.id = id
  · subst hid
    have hloud : (invoiceRules protector swap.id).relevant
        (.invoiceSet swap.id stored expectedAmount acceptZeroConf) = true :=
      beq_self_eq_true swap.id
    refine Rules.does_of_moves (fun t w ω b w' he => ?_) fun t h ω b w hi hB _ he => ?_
    · cases he
      rfl
    · cases he
      change Rules.Moves _ _ _ ((invoiceRules protector swap.id).obs
        (h.record t (.invoiceSet swap.id stored expectedAmount acceptZeroConf) ω _)) _
      rw [Guarded.obs_loud hloud]
      have hkept : InvoiceKept protector swap.id
          ⟨t, .invoiceSet swap.id stored expectedAmount acceptZeroConf, ω, h.world, h.world⟩ := by
        refine ⟨fun _ _ _ hlabel => Label.noConfusion hlabel, fun row _ _ hlabel hsettleable => ?_⟩
        injection hlabel with _ hrow hamount hzero
        subst hamount hzero
        exact hB rfl row hrow hsettleable
      exact ⟨inv_cons hi hkept, ⟨fun h => h, fun h => h⟩, fun k hk => absurd (by simp) hk, trivial⟩
  · have hquiet : (invoiceRules protector id).relevant
        (.invoiceSet swap.id stored expectedAmount acceptZeroConf) = false := by
      change (swap.id == id) = false
      simpa using hid
    exact (Rules.quiet_write hquiet fun _ => ⟨rfl, rfl⟩).does.mono (fun _ ho => ho)
      fun _ _ _ => trivial

theorem invoiceSpec : (invoiceRules protector id).InvoiceSpec () (Queried id)
    (Stored protector id) (Ready protector id) where
  query j := by
    refine Rules.does_read rfl fun t h ω _ _ ha => ⟨trivial, fun swap hswap _ => ?_⟩
    obtain ⟨_, hrow⟩ := Table.byId_eq_some.mp hswap
    change ((h.world.swaps.get j).all fun s => !isFailed s.status) = true at ha
    rw [hrow, Option.all_some, Bool.not_eq_true'] at ha
    exact ha
  back _ _ _ := trivial
  store := does_setInvoice
  settle swap invoice expectedAmount acceptZeroConf stored _ := by
    by_cases hneed : swap.id = id ∧ ∃ row, stored = some row ∧
        settleable protector row expectedAmount acceptZeroConf = true
    · obtain ⟨hid, row, hrow, hsettleable⟩ := hneed
      exact (triple_settle _ hid).conseq (fun _ ho => (ho hid row hrow hsettleable).2)
        fun _ _ ho _ _ _ _ => ho
    · refine (Rules.triple_settleSubmarine (payerTasks fun invoice =>
        safe_start (.htlcAccepted invoice)) _).conseq (fun _ _ => trivial) fun _ _ _ => ?_
      intro hid row hrow hsettleable
      exact absurd ⟨hid, row, hrow, hsettleable⟩ hneed
  skip swap expectedAmount _ stored o hskip ho hid row hrow hsettleable := by
    rw [(ho hid row hrow hsettleable).1] at hskip
    cases hskip
  done := does_invoiceSet
  steady_queried _ := fun _ _ _ _ _ h => h
  steady_ready swap _ _ _ := by
    intro o o' _ hkeep _ hB hid row hrow hsettleable
    exact hkeep () (by simp) (hB hid row hrow hsettleable)

theorem safe_serve (r : Request) : (invoiceRules protector id).logic.Safe (serve r) :=
  Rules.safe_serve invoiceSpec rfl safe_start (fun checker _ => statusSpec.free_checker checker rfl) r

end invoiceRules

/-! ## Every run -/

/-- `setSwapInvoice` neither replaces a failed status nor leaves a lockup that could be settled in
`InvoiceSet`, in every run in which it does not query a failed swap, no other task fails the swap
before the invoice is stored, and the lockups it could settle are those it settles directly. -/
theorem invoices_kept (protector : OverpaymentProtector) {s : World} {h : History}
    (hr : Reaches (invoicePolicy protector) serve s h) : InvoicesKept protector h := by
  intro e he id
  have hinit : (invoiceRules protector id).logic.Inv ⟨s, []⟩ :=
    ⟨fun _ he => absurd he List.not_mem_nil, fun _ _ => trivial⟩
  have hinv : (invoiceRules protector id).logic.Inv h :=
    Logic.inv_of_reaches rfl (fun r _ => invoiceRules.safe_serve r) hinit hr
  cases hrel : (invoiceRules protector id).relevant e.label with
  | true => exact hinv.1 e (List.mem_filter.mpr ⟨he, hrel⟩)
  | false =>
    refine ⟨fun swap _ _ hlabel hid => ?_, fun _ _ _ hlabel => ?_⟩
    · rw [hlabel] at hrel
      change (swap.id == id) = false at hrel
      simp [hid] at hrel
    · rw [hlabel] at hrel
      change (id == id) = false at hrel
      simp at hrel

/-! ## Runs of one submarine swap -/

/-- A submarine swap without an invoice, with a confirmed lockup of 1000. -/
def lockedSwap : Swap :=
  { pendingSwap with invoice := none, status := transactionConfirmed, expectedAmount := none }

def lockedWorld (swap : Swap) : World := { swaps := Table.empty.put 1 swap }

/-- 1000 are expected. -/
def invoiceTerms : InvoiceTerms := ⟨900, 1, 50, 50, 0⟩

/-- The request that sets the invoice, until the invoice is stored. -/
def setInvoiceMoves : List (Move Request Answer) :=
  List.flatten [[.spawn (.setInvoice 1 7 invoiceTerms)],
    steps 0 [.nothing, .flag true, .flag true, .flag true, .flag true, .nothing, .nothing,
      .flag false, .flag false, .nothing]]

/-- The expected amount was locked up: the swap is settled, and its payment is pending. -/
theorem invoices_kept_locked : ∃ h, Reaches (invoicePolicy {}) serve (lockedWorld lockedSwap) h ∧
    h.trace.any (·.label == .invoiceSet 1 (some lockedSwap) 1000 false) = true ∧
    settleable {} lockedSwap 1000 false = true ∧ InvoicesKept {} h := by
  obtain ⟨h, hr, hset⟩ := Reaches.of_run (invoicePolicy {}) serve (lockedWorld lockedSwap)
    (setInvoiceMoves ++ steps 0 [.nothing, .nothing, .flag true, .number 100, .flag false,
      .flag true, .nothing, .nothing])
    (fun h => h.trace.any (·.label == .invoiceSet 1 (some lockedSwap) 1000 false))
    (by decide +kernel)
  exact ⟨h, hr, hset, by decide +kernel, invoices_kept {} hr⟩

/-- An expired swap gets back to `InvoiceSet`, and a swap whose user locked up one unit more than
expected, which is accepted elsewhere, is left in `InvoiceSet`. -/
theorem revived_and_forgotten :
    (∃ h, Reaches Policy.free serve (lockedWorld { lockedSwap with status := swapExpired }) h ∧
      ¬InvoicesKept {} h) ∧
    ∃ h, Reaches Policy.free serve (lockedWorld { lockedSwap with onchainAmount := some 1001 }) h ∧
      ¬InvoicesKept {} h := by
  constructor
  · obtain ⟨h, hr, hrevived⟩ := Reaches.of_run Policy.free serve
      (lockedWorld { lockedSwap with status := swapExpired }) setInvoiceMoves
      (fun h => h.trace.any fun e =>
        e.label == .setInvoice ⟨1, { lockedSwap with status := swapExpired }⟩ 1000 false &&
          (e.before.swaps.get 1).any (fun s => s.status == swapExpired) &&
          (e.after.swaps.get 1).any (fun s => s.status == invoiceSet)) (by decide +kernel)
    refine ⟨h, hr, fun hkept => ?_⟩
    obtain ⟨e, he, hall⟩ := List.any_eq_true.mp hrevived
    simp only [Bool.and_eq_true, beq_iff_eq] at hall
    obtain ⟨⟨hlabel, hbefore⟩, hafter⟩ := hall
    obtain ⟨before, hb, hexpired⟩ := (Option.any_eq_true _ _).mp hbefore
    obtain ⟨after, ha, hset⟩ := (Option.any_eq_true _ _).mp hafter
    rw [beq_iff_eq] at hexpired hset
    refine (hkept e he 1).notRevived _ _ _ hlabel rfl ⟨before, after, hb, ha, ?_, hset⟩
    rw [hexpired]
    decide
  · obtain ⟨h, hr, hforgotten⟩ := Reaches.of_run Policy.free serve
      (lockedWorld { lockedSwap with onchainAmount := some 1001 })
      (setInvoiceMoves ++ steps 0 [.nothing])
      (fun h => h.trace.any fun e =>
        e.label == .invoiceSet 1 (some { lockedSwap with onchainAmount := some 1001 }) 1000 false &&
          (e.before.swaps.get 1).any (fun s => s.status == invoiceSet)) (by decide +kernel)
    refine ⟨h, hr, fun hkept => ?_⟩
    obtain ⟨e, he, hall⟩ := List.any_eq_true.mp hforgotten
    simp only [Bool.and_eq_true, beq_iff_eq] at hall
    obtain ⟨before, hb, hset⟩ := (Option.any_eq_true _ _).mp hall.2
    rw [beq_iff_eq] at hset
    obtain ⟨row, hrow, haccounted⟩ := (hkept e he 1).notForgotten _ _ _ hall.1 (by decide +kernel)
    cases hb.symm.trans hrow
    rw [hset] at haccounted
    exact absurd haccounted (by decide)

end Boltz

import Boltz.Async.Runs
import Boltz.Logic.Statuses
import Boltz.Safety.PaidSwaps

/-!
# Submarine swaps that the sidecar failed

A checker fails a swap only while its invoice is neither pending nor paid, but nothing stops the
nursery from paying a swap that was failed: a lockup handler looks at the owner of the lockup and
at the refund signature, not for a failed status.
-/

namespace Boltz

open Async SwapUpdateEvent

/-- In this step a checker failed the swap. -/
def failsSwap (id : Nat) (e : Event Label World Answer) : Bool :=
  e.label == .updateStatusIfMatches id &&
    (e.before.swaps.get id).any (·.status != invoiceFailedToPay) &&
    (e.after.swaps.get id).any (·.status == invoiceFailedToPay)

def failedByChecker (h : History) (id : Nat) : Bool := h.trace.any (failsSwap id)

/-- No payment is started after a checker failed the swap. The newest event comes first. -/
def NotPaidAfterFailure (h : History) : Prop :=
  ∀ id, h.trace.Pairwise fun later e => failsSwap id e = true → later.label ≠ .sendPayment id

/-- `payInvoice` does not store `InvoicePending` for a swap that a checker failed. -/
def failedPolicy : Policy Request Label World Answer where
  spawn _ := true
  allow l _ h _ := match l with
    | .setInvoicePending id => !failedByChecker h id
    | _ => true

/-! ## Rows -/

/-- No checker failed the swap, and none can. -/
def Unfailed (id : Nat) (o : RowObs Swap) : Prop :=
  o.past.any (failsSwap id) = false ∧
    ∀ s, o.now = some s → s.status ∈ SwapRepository.lockupNonUpdatableStatuses

/-- With the lock, a swap whose invoice is pending cannot be failed. No swap is deleted. -/
def failedLogic (id : Nat) : RowLogic (Option Swap) Label.isSubmarine where
  relevant l := l == .updateStatusIfMatches id || l == .sendPayment id
  allow := failedPolicy.allow
  Inv o := (o.past.Pairwise fun later e => failsSwap id e = true → later.label ≠ .sendPayment id) ∧
    (o.past.any (failsSwap id) = true → ∀ s, o.now = some s → s.status ≠ invoicePending)
  Res _ := True
  Keep o o' := (o.now.isSome = true → o'.now.isSome = true) ∧ (Unfailed id o → Unfailed id o')
  Any _ _ := True
  keep_refl _ := ⟨fun h => h, fun h => h⟩
  keep_trans h₁ h₂ := ⟨fun h => h₂.1 (h₁.1 h), fun h => h₂.2 (h₁.2 h)⟩
  any_refl _ := trivial
  any_trans _ _ := trivial
  res_keep _ _ := trivial
  kind l hl := by
    simp only [Bool.or_eq_true, beq_iff_eq] at hl
    rcases hl with rfl | rfl <;> rfl
  other := rfl

abbrev failedRules (id : Nat) : Rules Unit (Option Swap) := submarineRules (failedLogic id) id

namespace failedRules

variable {id : Nat} {ks : List Unit} {B C : RowObs Swap → Prop}

theorem irrelevant_of {l : Label} (h₁ : l ≠ .updateStatusIfMatches id)
    (h₂ : l ≠ .sendPayment id) : (failedRules id).relevant l = false := by
  change (l == .updateStatusIfMatches id || l == .sendPayment id) = false
  simp [h₁, h₂]

/-- A write that does not make the invoice pending. -/
theorem inv_write {o : RowObs Swap} {s s' : Swap} (hi : (failedRules id).Inv o)
    (hnow : o.now = some s) (hst : s'.status = invoicePending → s.status = invoicePending) :
    (failedRules id).Inv ⟨some s', o.past⟩ := by
  refine ⟨hi.1, fun hfailed x hx hpending => ?_⟩
  cases hx
  exact hi.2 hfailed s hnow (hst hpending)

/-- A write with the lock. -/
theorem does_locked {j : Nat} {f : Swap → Swap} {l : Label}
    (hl : (failedRules id).relevant l = false)
    (hst : ∀ s, (f s).status = invoicePending → s.status = invoicePending) :
    (failedRules id).Does [()] B (writeAct l fun w => setSwaps (w.swaps.modify j f) w)
      fun _ _ => True := by
  refine Rules.does_modify submarineRules.row hl (fun _ _ _ => trivial)
    fun _ t h ω r hi _ _ hr => ?_
  exact ⟨inv_write hi hr (hst r), trivial, fun k hk => absurd (by simp) hk, trivial⟩

/-- A write that everybody may do. -/
theorem does_keep {j : Nat} {f : Swap → Swap} {l : Label} (hB : (failedRules id).Steady [()] B)
    (hl : (failedRules id).relevant l = false)
    (hst : ∀ s, (f s).status = invoicePending → s.status = invoicePending)
    (hclosed : ∀ s, s.status ∈ SwapRepository.lockupNonUpdatableStatuses →
      (f s).status ∈ SwapRepository.lockupNonUpdatableStatuses) :
    (failedRules id).Does ks B (writeAct l fun w => setSwaps (w.swaps.modify j f) w)
      fun _ => B := by
  refine Rules.does_modify submarineRules.row hl (fun _ _ hb => hb)
    fun _ t h ω r hi hb _ hr => ?_
  have hinv := inv_write hi hr (hst r)
  have hkeep : ∀ k, (failedRules id).Keep k ((failedRules id).obs h)
      ⟨some (f r), ((failedRules id).obs h).past⟩ := by
    refine fun k => ⟨fun _ => rfl, fun hunfailed => ⟨hunfailed.1, fun s hs => ?_⟩⟩
    cases hs
    exact hclosed r (hunfailed.2 r hr)
  exact ⟨hinv, trivial, fun k _ => hkeep k, hB _ _ trivial (fun k _ => hkeep k) hinv hb⟩

theorem steady_true : (failedRules id).Steady [()] fun _ => True := Guarded.steady_true

theorem statusSpec : (failedRules id).StatusSpec () invoicePending
    SwapRepository.lockupNonUpdatableStatuses where
  chain := submarineRules.ignoresChain
  claims := submarineRules.ignoresClaims
  lock := rfl
  not_stored := by decide
  closed _ h := h
  claimed := by decide
  claimPending := by decide
  free hB hl hpasses hkept := does_keep hB hl (fun s => (hpasses s).status) hkept
  locked hl hpasses := does_locked hl fun s => (hpasses s).status

theorem refundActs (j : Nat) : RefundActs (failedRules id).FreeAct .submarine j where
  read f := (Rules.quiet_read rfl f).free
  eligible := (Rules.quiet_write rfl fun _ => ⟨rfl, rfl⟩).free
  signed := (Rules.quiet_write rfl fun _ => ⟨rfl, rfl⟩).free

/-! ## Checkers -/

/-- The update of the swap itself is seen. -/
theorem moves_checker (checker : ExpirationChecker) (t : Nat) (h : History) (ω : Answer) {w : World}
    (hi : (failedRules id).Inv ((failedRules id).obs h))
    (hw : w.swaps.get id = (h.world.swaps.get id).map (SwapHelper.statusIfMatches invoiceFailedToPay
      checker.failureReason checker.condition)) :
    (failedRules id).Moves [] ((failedRules id).obs h)
      ⟨w.swaps.get id, ⟨t, .updateStatusIfMatches id, ω, h.world, w⟩ :: ((failedRules id).obs h).past⟩
      fun _ => True := by
  have hview : ((failedRules id).obs h).now = h.world.swaps.get id := rfl
  refine ⟨⟨List.pairwise_cons.mpr ⟨fun _ _ _ => nofun, hi.1⟩, fun hfailed s hs hpending => ?_⟩,
    trivial, fun _ _ => ⟨fun hsome => ?_, fun hunfailed => ⟨?_, fun s hs => ?_⟩⟩, trivial⟩
  · rw [hw] at hs
    obtain ⟨r, hr, rfl⟩ := Option.map_eq_some_iff.mp hs
    have hrow : r.status = invoicePending := checker.status_of_statusIfMatches (by decide) hpending
    rw [List.any_cons, Bool.or_eq_true] at hfailed
    rcases hfailed with hnow | hpast
    · simp [failsSwap, hw, hr, hpending] at hnow
    · exact hi.2 hpast r hr hrow
  · rw [hw, Option.isSome_map]
    exact hsome
  · rw [List.any_cons, hunfailed.1, Bool.or_false]
    cases hr : h.world.swaps.get id with
    | none => simp [failsSwap, hr]
    | some r =>
      have hclosed := hunfailed.2 r (hview.trans hr)
      rw [hr, Option.map_some, checker.statusIfMatches_of_closed hclosed] at hw
      simp [failsSwap, hr, hw]
  · rw [hw] at hs
    obtain ⟨r, hr, rfl⟩ := Option.map_eq_some_iff.mp hs
    have hclosed := hunfailed.2 r (hview.trans hr)
    rw [checker.statusIfMatches_of_closed hclosed]
    exact hclosed

theorem free_checker (checker : ExpirationChecker) (j : Nat) :
    (failedRules id).logic.Free (checkerAct checker j) := by
  by_cases hj : j = id
  · subst hj
    have hloud : (failedRules j).relevant (.updateStatusIfMatches j) = true := by
      change (Label.updateStatusIfMatches j == .updateStatusIfMatches j || _) = true
      simp
    have hdoes : (failedRules j).Does [] (fun _ => True) (checkerAct checker j)
        fun _ _ => True := by
      refine Rules.does_of_moves (fun t w ω b w' he => ?_) fun t h ω b w hi _ _ he => ?_
      · cases he
        rfl
      · cases he
        change Rules.Moves _ _ _
          ((failedRules j).obs (h.record t (.updateStatusIfMatches j) ω _)) _
        rw [Guarded.obs_loud hloud]
        have hget := Table.get_modify h.world.swaps j j (SwapHelper.statusIfMatches
          invoiceFailedToPay checker.failureReason checker.condition)
        rw [if_pos rfl] at hget
        exact moves_checker checker t h ω hi (w := setSwaps (h.world.swaps.modify j
          (SwapHelper.statusIfMatches invoiceFailedToPay checker.failureReason
            checker.condition)) h.world) hget
    exact hdoes.free
  · exact statusSpec.free_checker checker (irrelevant_of (fun he => hj (by cases he; rfl)) nofun)

/-! ## Payments -/

/-- What is known while the invoice of the swap is paid. -/
def Paying (id : Nat) (swap : Instance Swap) (o : RowObs Swap) : Prop :=
  swap.id = id → Unfailed id o

/-- What is known of a swap that was fetched with the lock. -/
def Fetched (id : Nat) (swap : Instance Swap) (o : RowObs Swap) : Prop :=
  swap.id = id → o.now.isSome = true ∧ (swap.row.status = invoicePending → Unfailed id o)

theorem steady_paying (swap : Instance Swap) : (failedRules id).Steady [()] (Paying id swap) := by
  intro o o' _ hkeep _ hB hid
  exact (hkeep () (by simp)).2 (hB hid)

theorem steady_fetched (swap : Instance Swap) :
    (failedRules id).Steady [()] (Fetched id swap) := by
  intro o o' _ hkeep _ hB hid
  obtain ⟨hsome, hpending⟩ := hB hid
  have hkept := hkeep () (by simp)
  exact ⟨hkept.1 hsome, fun hst => hkept.2 (hpending hst)⟩

/-- A payment is started while no checker failed the swap. -/
theorem does_send (swap : Instance Swap) :
    (failedRules id).Does [()] (Paying id swap) (writeAct (.sendPayment swap.id) fun w => w)
      fun _ => Paying id swap := by
  by_cases hid : swap.id = id
  · have hloud : (failedRules id).relevant (.sendPayment swap.id) = true := by
      change (Label.sendPayment swap.id == .updateStatusIfMatches id ||
        Label.sendPayment swap.id == .sendPayment id) = true
      simp [hid]
    refine Rules.does_of_moves (fun t w ω b w' he => ?_) fun t h ω b w hi hB _ he => ?_
    · cases he
      rfl
    · cases he
      obtain ⟨hnone, hclosed⟩ := hB hid
      have hquiet : ∀ e ∈ ((failedRules id).obs h).past, failsSwap id e = false := by
        intro e he
        simpa using List.any_eq_false.mp hnone e he
      have hlabel : failsSwap id ⟨t, .sendPayment swap.id, ω, h.world, h.world⟩ = false := rfl
      change Rules.Moves _ _ _ ((failedRules id).obs (h.record t (.sendPayment swap.id) ω _)) _
      rw [Guarded.obs_loud hloud]
      have hunfailed : Unfailed id ⟨(failedRules id).view h.world,
          ⟨t, .sendPayment swap.id, ω, h.world, h.world⟩ :: ((failedRules id).obs h).past⟩ := by
        refine ⟨?_, hclosed⟩
        rw [List.any_cons, hlabel, hnone]
        rfl
      refine ⟨⟨List.pairwise_cons.mpr ⟨fun e he hfails => ?_, hi.1⟩, fun hfailed => ?_⟩, trivial,
        fun k hk => absurd (by simp) hk, fun _ => hunfailed⟩
      · rw [hquiet e he] at hfails
        cases hfails
      · rw [hunfailed.1] at hfailed
        cases hfailed
  · refine (Rules.quiet_write ?_ fun _ => ⟨rfl, rfl⟩).does
    exact irrelevant_of nofun fun he => hid (by cases he; rfl)

theorem quiet_payments : Payments fun a => (failedRules id).Quiet a :=
  Rules.quiet_payments fun _ _ => rfl

theorem paymentSpec (swap : Instance Swap)
    (hacc : ∀ invoice, (failedRules id).logic.Safe (LightningNursery.htlcAccepted invoice)) :
    (failedRules id).PaymentSpec () swap.pendingInvoice (Paying id swap) (Paying id swap)
      (fun _ => True) (fun _ => Paying id swap) .unknown where
  toSelfPaymentSpec :=
    Rules.selfPaymentSpec_of_steady (steady_paying swap) rfl (fun _ => rfl) hacc
  complete := .unknown
  quiet _ := rfl
  payments := Rules.does_read rfl fun _ _ _ _ hA _ => ⟨hA.2, trivial⟩
  result := by
    refine (Rules.quiet_ask rfl _).does_of fun t h ω r s _ hA _ _ => ?_
    exact ⟨hA.2, trivial⟩
  send := by
    rw [paidRules.pendingInvoice_id]
    exact does_send swap
  settle _ _ := statusSpec.setStatus rfl (by simp [Swap.paid, storedStatuses])
  abandon _ := statusSpec.setStatus rfl (by simp [Swap.withStatus, storedStatuses])
  abandonSelf := statusSpec.setStatus rfl (by simp [Swap.withStatus, storedStatuses])
  done _ _ := trivial
  holds := Rules.quiet_holds fun _ _ => rfl
  rows := quiet_payments

/-- What the policy says about the history is seen. -/
theorem any_failsSwap_obs (h : History) :
    ((failedRules id).obs h).past.any (failsSwap id) = failedByChecker h id := by
  change (h.trace.filter fun e => (failedRules id).relevant e.label).any (failsSwap id) = _
  rw [List.any_filter]
  refine congrArg h.trace.any (funext fun e => ?_)
  by_cases hlabel : e.label = .updateStatusIfMatches id
  · have hloud : (failedRules id).relevant e.label = true := by
      change (e.label == .updateStatusIfMatches id || e.label == .sendPayment id) = true
      simp [hlabel]
    rw [hloud, Bool.true_and]
  · simp [failsSwap, hlabel]

/-- `InvoicePending` is stored while no checker failed the swap. -/
theorem does_pend (swap : Instance Swap) (hst : swap.row.status ≠ invoicePending) :
    (failedRules id).Does [()] (Fetched id swap)
      (swapUpdateAct swap (swap.row.withStatus invoicePending none) (.setInvoicePending swap.id))
      fun _ => Paying id swap := by
  refine Rules.does_modify submarineRules.row rfl (fun o hrow hB hid => ?_)
    fun hid t h ω r hi _ ha hr => ?_
  · have hsome := (hB hid).1
    rw [hrow hid] at hsome
    cases hsome
  · have hnone : ((failedRules id).obs h).past.any (failsSwap id) = false := by
      change (!failedByChecker h swap.id) = true at ha
      rw [any_failsSwap_obs, ← hid]
      simpa using ha
    have hstatus : (swap.row.save (swap.row.withStatus invoicePending none) r).status =
        invoicePending := saved_of_ne (Ne.symm hst) r.status
    refine ⟨⟨hi.1, fun hfailed => ?_⟩, trivial, fun k hk => absurd (by simp) hk,
      fun _ => ⟨hnone, fun s hs => ?_⟩⟩
    · rw [hnone] at hfailed
      cases hfailed
    · cases hs
      rw [hstatus]
      decide

theorem payerSpec (swap : Instance Swap)
    (hacc : ∀ invoice, (failedRules id).logic.Safe (LightningNursery.htlcAccepted invoice)) :
    (failedRules id).PayerSpec () swap (Fetched id swap) (Paying id swap) (Paying id swap)
      (fun _ => True) (fun _ => Paying id swap) .unknown where
  toPaymentSpec := paymentSpec swap hacc
  pend := does_pend swap
  pended hst _ ho hid := (ho hid).2 hst
  steady_ready := steady_fetched swap

theorem payerTasks
    (hacc : ∀ invoice, (failedRules id).logic.Safe (LightningNursery.htlcAccepted invoice)) :
    (failedRules id).PayerTasks () (Fetched id) where
  lock := rfl
  fetch swapId := by
    refine Rules.does_read rfl fun t h ω hi _ _ =>
      ⟨trivial, fun swap hswap => ?_⟩
    obtain ⟨hid, hrow⟩ := Table.byId_eq_some.mp hswap
    intro hown
    have hnow : ((failedRules id).obs h).now = some swap.row := by
      change h.world.swaps.get id = some swap.row
      rw [← hown, hid]
      exact hrow
    refine ⟨by rw [hnow]; rfl, fun hst => ⟨?_, fun s hs => ?_⟩⟩
    · rw [← Bool.not_eq_true]
      exact fun hfailed => hi.1.2 hfailed swap.row hnow hst
    · cases hnow.symm.trans hs
      rw [hst]
      decide
  back _ _ _ := trivial
  pay swap := Rules.triple_payInvoice (payerSpec swap hacc)
  rate _ _ := statusSpec.update steady_true rfl (.inl rfl)
  claim := statusSpec.claimActs steady_true

theorem tasks
    (hacc : ∀ invoice, (failedRules id).logic.Safe (LightningNursery.htlcAccepted invoice)) :
    SubmarineTasks (failedRules id).SafeTask :=
  statusSpec.submarineTasks (payerTasks hacc) (Rules.quiet_holds fun _ _ => rfl)
    (Rules.free_payments quiet_payments) (fun _ => rfl) (fun _ => rfl)
    (fun j => Rules.closed (uses_signRefund Rules.free_plain (refundActs j)
      (statusSpec.free_refundSigned rfl)))
    fun j => Rules.closed (uses_signRefundArk Rules.free_plain (refundActs j)
      (statusSpec.free_refundSigned rfl))

theorem safe_start (e : Entry) : (failedRules id).logic.Safe (start e) :=
  submarineRules.safe_start statusSpec.free_claimActs tasks e

/-! ## Invoices that are set -/

theorem invoiceSpec : (failedRules id).InvoiceSpec () (fun _ _ => True) (fun _ _ _ _ _ => True)
    fun _ _ _ _ _ => True where
  query _ := Rules.does_read rfl fun _ _ _ _ _ _ => ⟨trivial, fun _ _ => trivial⟩
  back _ _ _ := trivial
  store _ _ _ _ := statusSpec.setInvoice rfl
  settle _ _ _ _ _ _ := Rules.triple_settleSubmarine
    (payerTasks fun invoice => safe_start (.htlcAccepted invoice)) _
  skip _ _ _ _ _ _ _ := trivial
  done _ _ _ _ := (Rules.quiet_write rfl fun _ => ⟨rfl, rfl⟩).does
  steady_queried _ := steady_true
  steady_ready _ _ _ _ := steady_true

theorem safe_serve (r : Request) : (failedRules id).logic.Safe (serve r) :=
  Rules.safe_serve invoiceSpec rfl safe_start free_checker r

end failedRules

/-! ## Every run -/

/-- After a checker failed a swap no payment is started for it, in every run in which `payInvoice`
never stores `InvoicePending` for a swap that a checker failed. -/
theorem not_paid_after_failure {s : World} {h : History} (hr : Reaches failedPolicy serve s h) :
    NotPaidAfterFailure h := by
  intro id
  have hinit : (failedRules id).logic.Inv ⟨s, []⟩ := ⟨⟨.nil, nofun⟩, fun _ _ => trivial⟩
  have hinv : (failedRules id).logic.Inv h :=
    Logic.inv_of_reaches rfl (fun r _ => failedRules.safe_serve r) hinit hr
  have hpast : (h.trace.filter fun e => (failedRules id).relevant e.label).Pairwise
      fun later e => failsSwap id e = true → later.label ≠ .sendPayment id := hinv.1.1
  rw [List.pairwise_filter] at hpast
  refine hpast.imp fun {later e} hseen hfails hsend => ?_
  have hlabel : e.label = .updateStatusIfMatches id := by
    simp only [failsSwap, Bool.and_eq_true, beq_iff_eq] at hfails
    exact hfails.1.1
  refine hseen ?_ ?_ hfails hsend
  · change (later.label == .updateStatusIfMatches id || later.label == .sendPayment id) = true
    simp [hsend]
  · change (e.label == .updateStatusIfMatches id || e.label == .sendPayment id) = true
    simp [hlabel]

/-! ## Runs of two submarine swaps -/

/-- A submarine swap that waits for its lockup. -/
def waitingSwap : Swap :=
  { pendingSwap with
    status := invoiceSet
    onchainAmount := none
    lockupTransactionId := none
    lockupTransactionVout := none }

/-- The transaction 5 pays to the waiting swap 1, and the invoice of the swap 2 is pending. -/
def waitingWorld : World where
  swaps := (Table.empty.put 1 waitingSwap).put 2 { pendingSwap with preimageHash := 1 }
  lockupOutput _ id transactionId :=
    if id = 1 ∧ transactionId = 5 then some (0, 1000) else none

/-- The checker (task 0) fails the swap that waits, and the retry loop (task 1) pays the other. -/
theorem not_paid_after_failure_waiting : ∃ h, Reaches failedPolicy serve waitingWorld h ∧
    failedByChecker h 1 = true ∧ h.trace.any (·.label == .sendPayment 2) = true ∧
    NotPaidAfterFailure h := by
  obtain ⟨h, hr, hboth⟩ := Reaches.of_run failedPolicy serve waitingWorld
    (List.flatten [[.spawn (.checkExpiration .invoice)],
      steps 0 [.nothing, .flag true, .flag true, .nothing],
      [.spawn (.backend .retry)],
      steps 1 [.nothing, .nothing, .nothing, .nothing, .flag true, .number 100, .flag false,
        .flag false, .number 0, .nothing, .flag false, .nothing, .nothing, .nothing, .nothing,
        .approval (some .accept), .nothing, .nothing]])
    (fun h => failedByChecker h 1 && h.trace.any (·.label == .sendPayment 2)) (by decide +kernel)
  rw [Bool.and_eq_true] at hboth
  exact ⟨h, hr, hboth.1, hboth.2, not_paid_after_failure hr⟩

/-- The lockup is found (tasks 0 and 1), and before its handler (task 2) reads the swap, the
checker (task 3) fails it: the handler pays the invoice of the failed swap. -/
theorem failed_swap_paid : ∃ h, Reaches Policy.free serve waitingWorld h ∧
    ¬NotPaidAfterFailure h := by
  obtain ⟨h, hr, hpaid⟩ := Reaches.of_run Policy.free serve waitingWorld
    (List.flatten [[.spawn (.backend (.checkOutputs 0 5 [3] .confirmed))],
      steps 0 [.nothing, .nothing],
      steps 1 [.nothing, .nothing, .nothing, .nothing, .flag false, .flag false, .nothing],
      steps 2 [.nothing],
      [.spawn (.checkExpiration .invoice)],
      steps 3 [.nothing, .flag true, .flag true, .nothing],
      steps 2 [.nothing, .nothing, .flag true, .number 100, .flag false, .flag false,
        .number 0, .nothing, .flag false, .nothing, .nothing, .nothing, .nothing,
        .approval (some .accept), .nothing, .nothing]])
    (fun h => !decide (h.trace.Pairwise fun later e =>
      failsSwap 1 e = true → later.label ≠ .sendPayment 1)) (by decide +kernel)
  refine ⟨h, hr, fun hkept => ?_⟩
  rw [Bool.not_eq_true', decide_eq_false_iff_not] at hpaid
  exact hpaid (hkept 1)

end Boltz

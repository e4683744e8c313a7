import Boltz.Swap.RetryLoop

/-!
# Fault isolation of the periodic sweeps

What settling a swap throws is thrown by the loop, which then does not get to the held sends
either. The check for refunds catches the errors of each transaction, but all look-ups of swaps are
awaited together before it.
-/

namespace Boltz.RetryLoop

open Async Lightning SwapUpdateEvent

/-! ## The retry loop -/

section retry

variable {pending : List PendingSwap} {holds : List HeldSend}

/-- In every order of the swaps and of the holds, all of them are attempted and retried, as each is
on its own. -/
def RetryIsolated (pending : List PendingSwap) (holds : List HeldSend) : Prop :=
  ∀ order heldOrder, order.Perm pending → heldOrder.Perm holds →
    (retry (.resolved order) (.resolved heldOrder)).acts =
      (order.flatMap fun swap => swap.attemptSettleSwap.acts) ++
        heldOrder.flatMap fun hold => hold.retryHeldLockup.acts

theorem attempt_acts_ne_nil (swap : PendingSwap) : swap.attemptSettleSwap.acts ≠ [] := by
  unfold PendingSwap.attemptSettleSwap
  rw [AsyncCall.act_bind]
  exact List.cons_ne_nil _ _

theorem retryHeldLockup_acts_ne_nil (hold : HeldSend) : hold.retryHeldLockup.acts ≠ [] := by
  unfold HeldSend.retryHeldLockup
  rw [AsyncCall.act_bind]
  exact List.cons_ne_nil _ _

theorem retry_acts_of_settles (h : ∀ swap ∈ pending, swap.attemptSettleSwap.Settles) :
    (retry (.resolved pending) (.resolved holds)).acts =
      (pending.flatMap fun swap => swap.attemptSettleSwap.acts) ++
        (AsyncCall.forEach HeldSend.retryHeldLockup holds).acts := by
  have hloop := AsyncCall.forEach_settles_iff.mpr h
  change (do
    AsyncCall.forEach PendingSwap.attemptSettleSwap pending
    AsyncCall.forEach HeldSend.retryHeldLockup holds : Call Unit).acts = _
  rw [AsyncCall.bind_of_settles hloop, AsyncCall.forEach_acts_of_settles h]

/-- The swaps behind it and all holds are cut off. -/
theorem retry_acts_of_stops {swap : PendingSwap} (h : ¬swap.attemptSettleSwap.Settles) :
    (retry (.resolved (swap :: pending)) (.resolved holds)).acts =
      swap.attemptSettleSwap.acts := by
  have hloop : ¬(AsyncCall.forEach PendingSwap.attemptSettleSwap (swap :: pending)).Settles :=
    fun hloop => h (AsyncCall.forEach_settles_iff.mp hloop swap List.mem_cons_self)
  change (do
    AsyncCall.forEach PendingSwap.attemptSettleSwap (swap :: pending)
    AsyncCall.forEach HeldSend.retryHeldLockup holds : Call Unit).acts = _
  rw [AsyncCall.bind_of_not_settles hloop, AsyncCall.forEach_acts_of_stops h]

theorem exists_perm_cons {α : Type} {x : α} {xs : List α} (h : x ∈ xs) :
    ∃ rest, xs.Perm (x :: rest) := by
  obtain ⟨before, after, rfl⟩ := List.append_of_mem h
  exact ⟨before ++ after, List.perm_middle⟩

theorem eq_nil_of_flatMap {α : Type} {f : α → List Act} {xs : List α} (hne : ∀ x, f x ≠ [])
    (h : xs.flatMap f = []) : xs = [] := by
  rw [List.flatMap_eq_nil_iff] at h
  exact List.eq_nil_iff_forall_not_mem.mpr fun x hx => hne x (h x hx)

theorem RetryIsolated.alone (h : RetryIsolated pending holds) {swap : PendingSwap}
    (hswap : swap ∈ pending) (hstops : ¬swap.attemptSettleSwap.Settles) :
    pending = [swap] ∧ holds = [] := by
  obtain ⟨rest, hperm⟩ := exists_perm_cons hswap
  have hacts := h (swap :: rest) holds hperm.symm (.refl _)
  rw [retry_acts_of_stops hstops, List.flatMap_cons, List.append_assoc, List.self_eq_append_right,
    List.append_eq_nil_iff] at hacts
  have hrest := eq_nil_of_flatMap attempt_acts_ne_nil hacts.1
  subst hrest
  exact ⟨List.perm_singleton.mp hperm, eq_nil_of_flatMap retryHeldLockup_acts_ne_nil hacts.2⟩

theorem RetryIsolated.settles (h : RetryIsolated pending holds) {hold : HeldSend}
    (hhold : hold ∈ holds) : ∀ swap ∈ pending, swap.attemptSettleSwap.Settles := by
  intro swap hswap
  by_contra hstops
  rw [(h.alone hswap hstops).2] at hhold
  exact List.not_mem_nil hhold

theorem RetryIsolated.hold_alone (h : RetryIsolated pending holds) {hold : HeldSend}
    (hhold : hold ∈ holds) (hstops : ¬hold.retryHeldLockup.Settles) : holds = [hold] := by
  obtain ⟨rest, hperm⟩ := exists_perm_cons hhold
  have hacts := h pending (hold :: rest) (.refl _) hperm.symm
  rw [retry_acts_of_settles (h.settles hhold), AsyncCall.forEach_acts_of_stops hstops,
    List.flatMap_cons, ← List.append_assoc, List.self_eq_append_right] at hacts
  have hrest := eq_nil_of_flatMap retryHeldLockup_acts_ne_nil hacts
  subst hrest
  exact List.perm_singleton.mp hperm

theorem forEach_acts_of_alone {α : Type} {body : α → Call Unit} {xs : List α}
    (h : ∀ x ∈ xs, ¬(body x).Settles → xs = [x]) :
    (AsyncCall.forEach body xs).acts = xs.flatMap fun x => (body x).acts := by
  refine AsyncCall.forEach_acts_of_only fun x rest hperm hstops y hy => ?_
  have hsingle := h x (hperm.mem_iff.mpr List.mem_cons_self) hstops
  have hlength := hperm.length_eq
  rw [hsingle] at hlength
  rw [List.eq_nil_of_length_eq_zero (Nat.succ.inj hlength).symm] at hy
  exact absurd hy List.not_mem_nil

theorem retry_isolated_iff : RetryIsolated pending holds ↔
    (∀ swap ∈ pending, ¬swap.attemptSettleSwap.Settles → pending = [swap] ∧ holds = []) ∧
      ∀ hold ∈ holds, ¬hold.retryHeldLockup.Settles → holds = [hold] := by
  constructor
  · intro h
    exact ⟨fun swap => h.alone, fun hold => h.hold_alone⟩
  · rintro ⟨hpending, hholds⟩ order heldOrder horder hheld
    by_cases hsettles : ∀ swap ∈ pending, swap.attemptSettleSwap.Settles
    · rw [retry_acts_of_settles fun swap hswap => hsettles swap (horder.mem_iff.mp hswap)]
      refine congrArg _ (forEach_acts_of_alone fun hold hhold hstops => ?_)
      have hsingle := hholds hold (hheld.mem_iff.mp hhold) hstops
      exact List.perm_singleton.mp (hsingle ▸ hheld)
    · push Not at hsettles
      obtain ⟨swap, hswap, hstops⟩ := hsettles
      obtain ⟨rfl, rfl⟩ := hpending swap hswap hstops
      obtain rfl := List.perm_singleton.mp horder
      obtain rfl := List.perm_nil.mp hheld
      rw [retry_acts_of_stops hstops]
      simp

end retry

/-! ## Refund transactions -/

section refunds

variable {rows : List PendingRefund}

/-- The look-up of its swap succeeds. -/
def Intact (tx : PendingRefund) : Prop := ∃ swap, tx.getSwapForTransaction = .resolved swap

/-- What is done for a row on its own. -/
def checkAlone (tx : PendingRefund) : Call Unit :=
  match tx.getSwapForTransaction with
  | .resolved swap => tx.checkTransaction swap
  | _ => pure ()

/-- In every order, every row whose own look-up succeeds is checked. -/
def RefundsIsolated (rows : List PendingRefund) : Prop :=
  ∀ order, order.Perm rows →
    (checkPendingTransactions (.resolved order)).acts =
      order.flatMap fun tx => (checkAlone tx).acts

theorem checkAlone_acts_ne_nil {tx : PendingRefund} (h : Intact tx) :
    (checkAlone tx).acts ≠ [] := by
  obtain ⟨swap, hswap⟩ := h
  unfold checkAlone PendingRefund.checkTransaction
  rw [hswap]
  simp only [AsyncCall.act_bind]
  exact List.cons_ne_nil _ _

theorem checkAlone_acts_of_not_intact {tx : PendingRefund} (h : ¬Intact tx) :
    (checkAlone tx).acts = [] := by
  unfold checkAlone
  split
  · rename_i swap hswap
    exact absurd ⟨swap, hswap⟩ h
  · rfl

theorem checkPendingTransactions_eq (rows : List PendingRefund) :
    checkPendingTransactions (.resolved rows) = (do
      let txs ← AsyncCall.await (getPendingTransactions rows)
      AsyncCall.forEach (fun tx => tx.1.checkTransaction tx.2) txs) := rfl

theorem checkPendingTransactions_of_intact (h : ∀ tx ∈ rows, Intact tx) :
    checkPendingTransactions (.resolved rows) = AsyncCall.forEach checkAlone rows := by
  let found : PendingRefund → PendingRefund × RefundSwap := fun tx =>
    match tx.getSwapForTransaction with
    | .resolved swap => (tx, swap)
    | _ => (tx, ⟨"", none⟩)
  have hfound : ∀ tx ∈ rows, lookUp tx = .resolved (found tx) := by
    intro tx htx
    obtain ⟨swap, hswap⟩ := h tx htx
    simp [lookUp, found, hswap]
  have hall : getPendingTransactions rows = .resolved (rows.map found) :=
    Promise.all_map_resolved hfound
  rw [checkPendingTransactions_eq, hall]
  change AsyncCall.forEach _ (rows.map found) = _
  rw [AsyncCall.forEach_map]
  refine AsyncCall.forEach_congr fun tx htx => ?_
  obtain ⟨swap, hswap⟩ := h tx htx
  simp only [found, checkAlone, hswap]

/-- One failed look-up is enough for nothing to be checked. -/
theorem checkPendingTransactions_of_broken {tx : PendingRefund} (htx : tx ∈ rows)
    (h : ¬Intact tx) : (checkPendingTransactions (.resolved rows)).acts = [] := by
  rw [checkPendingTransactions_eq]
  cases hall : getPendingTransactions rows with
  | rejected e => rfl
  | unsettled => rfl
  | resolved txs =>
    obtain ⟨found, hfound⟩ :=
      Promise.resolved_of_all hall (lookUp tx) (List.mem_map_of_mem htx)
    obtain ⟨swap, hswap, -⟩ := Promise.bind_eq_resolved.mp hfound
    exact absurd ⟨swap, hswap⟩ h

theorem refunds_isolated_iff : RefundsIsolated rows ↔
    (∀ tx ∈ rows, ¬Intact tx) ∨
      (∀ tx ∈ rows, Intact tx) ∧ ∀ tx ∈ rows, ¬(checkAlone tx).Settles → rows = [tx] := by
  by_cases hintact : ∀ tx ∈ rows, Intact tx
  · have hacts : ∀ order, order.Perm rows →
        checkPendingTransactions (.resolved order) = AsyncCall.forEach checkAlone order :=
      fun order horder =>
        checkPendingTransactions_of_intact fun tx htx => hintact tx (horder.mem_iff.mp htx)
    constructor
    · intro h
      refine .inr ⟨hintact, fun tx htx hstops => ?_⟩
      obtain ⟨rest, hperm⟩ := exists_perm_cons htx
      have hequal := h (tx :: rest) hperm.symm
      rw [hacts _ hperm.symm, AsyncCall.forEach_acts_of_stops hstops, List.flatMap_cons,
        List.self_eq_append_right, List.flatMap_eq_nil_iff] at hequal
      have hrest : rest = [] := List.eq_nil_iff_forall_not_mem.mpr fun other hother =>
        checkAlone_acts_ne_nil
          (hintact other (hperm.mem_iff.mpr (List.mem_cons_of_mem _ hother))) (hequal other hother)
      subst hrest
      exact List.perm_singleton.mp hperm
    · rintro h order horder
      rw [hacts order horder]
      refine forEach_acts_of_alone fun tx htx hstops => ?_
      have hsingle : rows = [tx] := by
        rcases h with hnone | ⟨-, halone⟩
        · exact absurd (hintact tx (horder.mem_iff.mp htx)) (hnone tx (horder.mem_iff.mp htx))
        · exact halone tx (horder.mem_iff.mp htx) hstops
      exact List.perm_singleton.mp (hsingle ▸ horder)
  · have hbroken := hintact
    push Not at hbroken
    obtain ⟨broken, hmem, hbroken⟩ := hbroken
    constructor
    · intro h
      refine .inl fun tx htx htxIntact => ?_
      have hequal := h rows (.refl _)
      rw [checkPendingTransactions_of_broken hmem hbroken, eq_comm,
        List.flatMap_eq_nil_iff] at hequal
      exact checkAlone_acts_ne_nil htxIntact (hequal tx htx)
    · rintro (hnone | ⟨hall, -⟩) order horder
      · rw [checkPendingTransactions_of_broken (horder.mem_iff.mpr hmem) hbroken, eq_comm,
          List.flatMap_eq_nil_iff]
        exact fun tx htx => checkAlone_acts_of_not_intact (hnone tx (horder.mem_iff.mp htx))
      · exact absurd hall hintact

end refunds

/-! ## Both sweeps -/

theorem sweeps_isolated_iff (pending : List PendingSwap) (holds : List HeldSend)
    (rows : List PendingRefund) :
    (RetryIsolated pending holds ↔
      (∀ swap ∈ pending, ¬swap.attemptSettleSwap.Settles → pending = [swap] ∧ holds = []) ∧
        ∀ hold ∈ holds, ¬hold.retryHeldLockup.Settles → holds = [hold]) ∧
    (RefundsIsolated rows ↔
      (∀ tx ∈ rows, ¬Intact tx) ∨
        (∀ tx ∈ rows, Intact tx) ∧ ∀ tx ∈ rows, ¬(checkAlone tx).Settles → rows = [tx]) :=
  ⟨retry_isolated_iff, refunds_isolated_iff⟩

/-! ## A failing item in front -/

/-- The node of the chain cannot be asked for its height. -/
def unreachableCalls : InvoicePayment.Calls where
  preimageHash := 0
  invoice := 0
  status := invoicePending
  currency := ⟨[], none⟩
  getCltvLimit := .rejected (.object (.error "connect ECONNREFUSED"))
  decodeInvoiceOrOffer := .resolved ()
  getPreferredNode := .resolved .hold
  decodePaymentHash := .resolved ()
  payments := []

def unreachableSwap : PendingSwap :=
  ⟨1, .resolved (some invoicePending), unreachableCalls, .resolved false, none⟩

def settledSwap : PendingSwap :=
  ⟨2, .resolved (some transactionClaimed), unreachableCalls, .resolved false, none⟩

def lockupHold : HeldSend := { swapId := 3, type := .chain }

/-- The swap of the row is gone. -/
def orphanedRefund : PendingRefund :=
  ⟨4, .resolved none, .resolved none, .resolved false⟩

def pendingRefund : PendingRefund :=
  ⟨5, .resolved (some ⟨"ARK", some ⟨some 1, .ark⟩⟩), .resolved none, .resolved true⟩

theorem failing_item_in_front :
    (retry (.resolved [unreachableSwap, settledSwap]) (.resolved [lockupHold])).acts =
        [.attempted 1] ∧
      ¬RetryIsolated [unreachableSwap, settledSwap] [lockupHold] ∧
      (checkPendingTransactions (.resolved [pendingRefund, orphanedRefund])).acts = [] ∧
      ¬RefundsIsolated [pendingRefund, orphanedRefund] := by
  have hretry : (retry (.resolved [unreachableSwap, settledSwap]) (.resolved [lockupHold])).acts =
      [.attempted 1] := by decide +kernel
  have hcheck : (checkPendingTransactions (.resolved [pendingRefund, orphanedRefund])).acts =
      [] := by decide +kernel
  refine ⟨hretry, fun h => ?_, hcheck, fun h => ?_⟩
  · have hacts := h _ _ (.refl _) (.refl _)
    rw [hretry] at hacts
    revert hacts
    decide +kernel
  · have hacts := h _ (.refl _)
    rw [hcheck] at hacts
    revert hacts
    decide +kernel

end Boltz.RetryLoop

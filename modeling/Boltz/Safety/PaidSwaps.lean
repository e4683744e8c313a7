import Boltz.Async.Runs
import Boltz.Logic.Payments
import Boltz.Safety.Expiry

/-!
# Submarine swaps whose invoice is paid

The preimage is stored with `InvoicePaid`. From then on the server claims the lockup of the user,
and a failed status would let the user refund it. The handlers of expiry and of failed lockups do
not look at the preimage.
-/

namespace Boltz

open Async SwapUpdateEvent

/-- The statuses in which the preimage is stored. -/
def paidStatuses : List SwapUpdateEvent :=
  [invoicePending, invoicePaid, transactionClaimPending, transactionClaimed]

def Swap.isPaid (s : Swap) : Bool := s.preimage.isSome

def Swap.PaidOpen (s : Swap) : Prop := s.isPaid = true → s.status ∈ paidStatuses

/-- A swap that was paid once is paid and has not failed. -/
def PaidSwapsKept (h : History) : Prop :=
  ∀ e ∈ h.trace, ∀ id s, e.after.swaps.get id = some s → s.isPaid = true →
    ∃ now, h.world.swaps.get id = some now ∧ now.isPaid = true ∧
      now.status ∉ failedSwapUpdateEvents

def World.isPaid (w : World) (id : Nat) : Bool := (w.swaps.get id).any Swap.isPaid

/-- The stored payments of an invoice say that it is paid, or will be: none failed for a reason
for which the swap is given up. -/
def paymentsAgree (payments : List LightningPayment) : Bool :=
  payments.any (fun p => p.status == .pending) || payments.any (fun p => p.status == .success) ||
    (payments.find? fun p => p.status == .permanentFailure).any fun p =>
      !PaymentHandler.isAbandoned (p.error.getD .other)

/-- The reverse swap that the invoice of the swap belongs to is settled. -/
def selfPaymentSettled (w : World) (id : Nat) : Bool :=
  (w.swaps.get id).any fun s =>
    (w.reverseSwaps.find fun r => r.preimageHash == s.preimageHash).any fun r =>
      s.invoice == some r.row.invoice && r.row.status != swapCreated && r.row.preimage.isSome

def Answer.isFailedPayment : Answer → Bool
  | .payment (.failed _ _) => true
  | _ => false

/-- Expiry and failed lockups do not query a swap that is paid, and when the payment of a paid
invoice is tried again, what is stored and what the nodes say agrees with it. -/
def paidPolicy : Policy Entry Label World Answer where
  spawn _ := true
  allow l _ h ω := match l with
    | .expireSwap id => !h.world.isPaid id
    | .lockupFailed id =>
      !h.world.isPaid id || (h.world.swaps.get id).any (·.status == invoicePending)
    | .payInvoice id .payments => !h.world.isPaid id ||
      (h.world.swaps.get id).all fun s =>
        let payments := h.world.lightningPayments.filter fun p => p.preimageHash == s.preimageHash
        payments.isEmpty || paymentsAgree payments
    | .payInvoice id .reverseSwap => !h.world.isPaid id || selfPaymentSettled h.world id
    | .payInvoice id .result => !h.world.isPaid id || !ω.isFailedPayment
    | _ => true

/-! ## Rows -/

/-- What is fixed while a task holds the lock. -/
def Swap.fixed (s : Swap) : Option Nat × Option Nat × Nat := (s.preimage, s.invoice, s.preimageHash)

/-- The preimage is stored with the lock only. -/
def paidLogic : RowLogic (Option Swap) Label.isSubmarine where
  relevant _ := false
  allow := paidPolicy.allow
  Inv o := ∀ s, o.now = some s → s.PaidOpen
  Res _ := True
  Keep o o' := o'.now.map Swap.fixed = o.now.map Swap.fixed
  Any o o' := o.now.any Swap.isPaid = true → o'.now.any Swap.isPaid = true
  keep_refl _ := rfl
  keep_trans h₁ h₂ := h₂.trans h₁
  any_refl _ h := h
  any_trans h₁ h₂ h := h₂ (h₁ h)
  res_keep _ _ := trivial
  kind _ hl := by cases hl
  other := rfl

abbrev paidRules (id : Nat) : Rules Unit (Option Swap) := submarineRules paidLogic id

namespace paidRules

variable {id : Nat} {ks : List Unit} {B : RowObs Swap → Prop}

theorem isPaid_eq_of_fixed {s s' : Swap} (h : s'.fixed = s.fixed) : s'.isPaid = s.isPaid := by
  have hpre : s'.preimage = s.preimage := congrArg Prod.fst h
  unfold Swap.isPaid
  rw [hpre]

/-- A write that keeps what is fixed. -/
theorem does_keep {j : Nat} {f : Swap → Swap} {l : Label} (hB : (paidRules id).Steady [()] B)
    (hfixed : ∀ s, (f s).fixed = s.fixed)
    (hopen : ∀ o s, B o → j = id → o.now = some s → s.PaidOpen → (f s).PaidOpen) :
    (paidRules id).Does ks B (writeAct l fun w => setSwaps (w.swaps.modify j f) w)
      fun _ => B := by
  refine Rules.does_modify submarineRules.row rfl (fun _ _ hb => hb)
    fun hj t h ω r hi hb _ hr => ?_
  have hnow : ((paidRules id).obs h).now = some r := hr
  have hinv : (paidRules id).Inv ⟨some (f r), ((paidRules id).obs h).past⟩ := by
    intro s hs
    cases hs
    exact hopen _ r hb hj hnow (hi r hnow)
  have hany : (paidRules id).Any ((paidRules id).obs h)
      ⟨some (f r), ((paidRules id).obs h).past⟩ := by
    intro hpaid
    rw [hnow] at hpaid
    change (f r).isPaid = true
    rw [isPaid_eq_of_fixed (hfixed r)]
    exact hpaid
  have hkeep : ∀ k, (paidRules id).Keep k ((paidRules id).obs h)
      ⟨some (f r), ((paidRules id).obs h).past⟩ := by
    intro k
    change some (f r).fixed = ((paidRules id).obs h).now.map Swap.fixed
    rw [hnow, hfixed r]
    rfl
  exact ⟨hinv, hany, fun k _ => hkeep k, hB _ _ hany (fun k _ => hkeep k) hinv hb⟩

theorem save_fixed {old new s : Swap} (h : new.preimage = old.preimage) :
    (old.save new s).fixed = s.fixed := by
  unfold Swap.fixed Swap.save
  simp only [h, saved_self]

/-- A write of a status, or of none. -/
theorem save_paidOpen {old new s : Swap} (hpre : new.preimage = old.preimage)
    (hst : new.status = old.status ∨ new.status ∈ paidStatuses) (hs : s.PaidOpen) :
    (old.save new s).PaidOpen := by
  intro hpaid
  have hstatus : (old.save new s).status = saved old.status new.status s.status := rfl
  rw [isPaid_eq_of_fixed (save_fixed hpre)] at hpaid
  rw [hstatus]
  rcases hst with heq | hmem
  · rw [heq, saved_self]
    exact hs hpaid
  · rcases saved_cases old.status new.status s.status with h | h
    · rw [h]
      exact hs hpaid
    · rw [h]
      exact hmem

theorem does_update {swap : Instance Swap} {new : Swap} {l : Label}
    (hB : (paidRules id).Steady [()] B) (hpre : new.preimage = swap.row.preimage)
    (hst : new.status = swap.row.status ∨ new.status ∈ paidStatuses) :
    (paidRules id).Does ks B (swapUpdateAct swap new l) fun _ => B :=
  does_keep hB (fun _ => save_fixed hpre) fun _ _ _ _ _ hs => save_paidOpen hpre hst hs

/-- A swap that is not paid may fail. -/
theorem does_fail {swap : Instance Swap} {new : Swap} {l : Label}
    (hB : (paidRules id).Steady [()] B) (hpre : new.preimage = swap.row.preimage)
    (hunpaid : ∀ o, B o → swap.id = id → o.now.any Swap.isPaid = false) :
    (paidRules id).Does ks B (swapUpdateAct swap new l) fun _ => B := by
  refine does_keep hB (fun _ => save_fixed hpre) fun o s hb hj hnow _ hpaid => ?_
  have hfalse := hunpaid o hb hj
  rw [hnow] at hfalse
  rw [isPaid_eq_of_fixed (save_fixed hpre)] at hpaid
  change s.isPaid = false at hfalse
  rw [hpaid] at hfalse
  cases hfalse

theorem steady_true : (paidRules id).Steady [()] fun _ => True := Guarded.steady_true

theorem free_update {swap : Instance Swap} {new : Swap} {l : Label}
    (hpre : new.preimage = swap.row.preimage)
    (hst : new.status = swap.row.status ∨ new.status ∈ paidStatuses) :
    (paidRules id).logic.Free (swapUpdateAct swap new l) :=
  (does_update steady_true hpre hst).free

/-- With the lock, whether the swap is paid is known until the invoice is paid. -/
theorem steady_unpaid (j : Nat) :
    (paidRules id).Steady [()] fun o => j = id → o.now.any Swap.isPaid = false := by
  intro o o' _ hkeep _ hB hj
  have hfixed : o'.now.map Swap.fixed = o.now.map Swap.fixed := hkeep () (by simp)
  have hold := hB hj
  cases hnow : o.now with
  | none =>
    rw [hnow] at hfixed
    rw [Option.map_eq_none_iff.mp hfixed]
    rfl
  | some s =>
    rw [hnow] at hfixed hold
    obtain ⟨s', hs', heq⟩ := Option.map_eq_some_iff.mp hfixed
    rw [hs']
    change s'.isPaid = false
    rw [isPaid_eq_of_fixed heq]
    exact hold

/-! ## Lockups, refunds and claims -/

theorem lockupWrite_fixed (s : Swap) (incoming : LockupIdentity) (amount : Nat)
    (status : SwapUpdateEvent) :
    (SwapRepository.lockupWrite s incoming amount status).2.fixed = s.fixed := by
  unfold SwapRepository.lockupWrite
  dsimp only
  split <;> rfl

/-- The lockup of a paid swap is not updated. -/
theorem lockupWrite_paidOpen {s : Swap} (incoming : LockupIdentity) (amount : Nat)
    (status : SwapUpdateEvent) (hs : s.PaidOpen) :
    (SwapRepository.lockupWrite s incoming amount status).2.PaidOpen := by
  by_cases hpaid : s.isPaid = true
  · have hclosed : SwapRepository.lockupNonUpdatableStatuses.contains s.status = true := by
      have hmem := hs hpaid
      simp only [paidStatuses, List.mem_cons, List.not_mem_nil, or_false] at hmem
      rcases hmem with h | h | h | h <;> rw [h] <;> rfl
    unfold SwapRepository.lockupWrite
    dsimp only
    rw [hclosed, Bool.not_true, decideLockupWrite_of_not_updatable]
    exact hs
  · intro hpaid'
    rw [isPaid_eq_of_fixed (lockupWrite_fixed s incoming amount status)] at hpaid'
    exact absurd hpaid' hpaid

theorem free_lockup (j : Nat) (incoming : LockupIdentity) (amount : Nat)
    (status : SwapUpdateEvent) :
    (paidRules id).logic.Free (swapLockupAct j incoming amount status) := by
  refine Guarded.Does.free (Rules.does_swapLockup (does_keep steady_true (fun s => ?_)
    fun _ s _ _ _ hs => ?_))
  · exact lockupWrite_fixed s incoming amount status
  · exact lockupWrite_paidOpen incoming amount status hs

theorem free_zeroConfRejected (j : Nat) (incoming : LockupIdentity) :
    (paidRules id).logic.Free (swapZeroConfRejectedAct j incoming) := by
  refine Guarded.Does.free (does_keep steady_true (fun s => ?_)
    fun _ s _ _ _ hs => ?_)
  · unfold SwapRepository.zeroConfRejectedWrite
    split <;> rfl
  · unfold SwapRepository.zeroConfRejectedWrite
    split
    · rename_i hwrite
      intro hpaid
      have hmem := hs hpaid
      rw [(of_shouldWriteZeroConfRejection hwrite).1] at hmem
      exact absurd hmem (by decide)
    · exact hs

theorem free_refundSigned (j : Nat) : (paidRules id).logic.Free (swapRefundSignedAct j) := by
  exact Guarded.Does.free (does_keep steady_true (fun _ => rfl) fun _ _ _ _ _ hs => hs)

theorem refundActs (j : Nat) : RefundActs (paidRules id).FreeAct .submarine j where
  read f := (Rules.quiet_read rfl f).free
  eligible := (Rules.quiet_write rfl fun _ => ⟨rfl, rfl⟩).free
  signed := (Rules.quiet_write rfl fun _ => ⟨rfl, rfl⟩).free

theorem does_claimed (hB : (paidRules id).Steady [()] B) (swap : ClaimSwap)
    (preimage minerFee : Nat) :
    (paidRules id).Does ks B (claimedAct swap preimage minerFee) fun _ => B := by
  cases swap with
  | submarine swap => exact does_update hB rfl (.inr (by simp [Swap.claimed, paidStatuses]))
  | chain swap => exact (ChainFrame.update submarineRules.ignoresChain.quiet rfl _ _).does

theorem does_claimPending (hB : (paidRules id).Steady [()] B) (swap : ClaimSwap)
    (preimage : Nat) :
    (paidRules id).Does ks B (claimPendingAct swap preimage) fun _ => B := by
  cases swap with
  | submarine swap => exact does_update hB rfl (.inr (by simp [Swap.withStatus, paidStatuses]))
  | chain swap => exact (ChainFrame.update submarineRules.ignoresChain.quiet rfl _ _).does

theorem claimActs : ClaimActs (paidRules id).FreeAct where
  plain := Rules.free_plain
  claims := submarineRules.base.claims
  locks := submarineRules.base.locks
  claimed swap preimage minerFee := (does_claimed steady_true swap preimage minerFee).free
  pending swap preimage := (does_claimPending steady_true swap preimage).free

theorem settleActs : ClaimActs ((paidRules id).KeepsRes ()) where
  plain := Rules.plain_keepsRes
  claims := Rules.within_keepsRes submarineRules.ignoresClaims.quiet
  locks := submarineRules.ignoresClaims.keepsRes
  claimed swap preimage minerFee := does_claimed steady_true swap preimage minerFee
  pending swap preimage := does_claimPending steady_true swap preimage

/-! ## Expiry and failed lockups -/

theorem isPaid_obs (h : History) :
    h.world.isPaid id = ((paidRules id).obs h).now.any Swap.isPaid := rfl

theorem safe_expired (swap : Instance Swap) :
    (paidRules id).logic.Safe (swapExpiredHandler swap) := by
  refine Rules.Locked.safe (k := ()) ?_ rfl
  have hread : (paidRules id).Does [()] (fun _ => True)
      (readAct (.expireSwap swap.id) fun w => w.swaps.byId swap.id)
      fun _ o => swap.id = id → o.now.any Swap.isPaid = false := by
    refine Rules.does_read rfl fun t h ω _ _ ha hid => ?_
    subst hid
    change (!h.world.isPaid swap.id) = true at ha
    rw [← isPaid_obs]
    simpa using ha
  refine Guarded.Triple.act_bind hread steady_true fun queried => ?_
  cases queried with
  | none => exact .throw fun _ _ => trivial
  | some queried =>
    dsimp only
    split
    · exact .pure fun _ _ => trivial
    · exact Rules.triple_update (does_fail (steady_unpaid _) rfl fun _ ho => ho) (steady_unpaid _)
        (.pure fun _ _ => trivial)

theorem safe_lockupFailed (swap : Instance Swap) (reason : SwapError) :
    (paidRules id).logic.Safe (swapLockupFailed swap reason) := by
  refine Rules.Locked.safe (k := ()) ?_ rfl
  have hread : (paidRules id).Does [()] (fun _ => True)
      (readAct (.lockupFailed swap.id) fun w => w.swaps.byId swap.id)
      fun loaded o => ∀ l, loaded = some l → l.row.status ≠ invoicePending →
        swap.id = id → o.now.any Swap.isPaid = false := by
    refine Rules.does_read rfl fun t h ω _ _ ha loaded hl hst hid => ?_
    obtain ⟨_, hrow⟩ := Table.byId_eq_some.mp hl
    subst hid
    change (!h.world.isPaid swap.id ||
      (h.world.swaps.get swap.id).any (·.status == invoicePending)) = true at ha
    rw [hrow] at ha
    rw [← isPaid_obs]
    simpa [hst] using ha
  refine Guarded.Triple.act_bind hread steady_true fun loaded => ?_
  cases loaded with
  | none => exact .throw fun _ _ => trivial
  | some loaded =>
    dsimp only
    split
    · exact .pure fun _ _ => trivial
    · rename_i hst
      refine Guarded.Triple.conseq (B := fun o => swap.id = id → o.now.any Swap.isPaid = false)
        ?_ (fun o ho => ho loaded rfl hst) fun _ _ ho => ho
      exact Rules.triple_update (does_fail (steady_unpaid _) rfl fun _ ho => ho) (steady_unpaid _)
        (.pure fun _ _ => trivial)

/-! ## Payments -/

/-- The swap in memory agrees with its row, and `paid` says whether the row is paid. -/
def Paying (id : Nat) (swap : Instance Swap) (paid : Bool) (o : RowObs Swap) : Prop :=
  swap.id = id → o.now.any Swap.isPaid = paid ∧
    ∀ s, o.now = some s → s.invoice = swap.row.invoice ∧ s.preimageHash = swap.row.preimageHash

theorem steady_paying (swap : Instance Swap) (paid : Bool) :
    (paidRules id).Steady [()] (Paying id swap paid) := by
  intro o o' _ hkeep _ hB hid
  have hfixed : o'.now.map Swap.fixed = o.now.map Swap.fixed := hkeep () (by simp)
  obtain ⟨hpaid, hsame⟩ := hB hid
  cases hnow : o.now with
  | none =>
    rw [hnow] at hfixed hpaid
    have hnone : o'.now = none := Option.map_eq_none_iff.mp hfixed
    rw [hnone]
    refine ⟨hpaid, fun s hs => ?_⟩
    cases hs
  | some s =>
    rw [hnow] at hfixed hpaid
    obtain ⟨s', hs', heq⟩ := Option.map_eq_some_iff.mp hfixed
    rw [hs']
    refine ⟨(isPaid_eq_of_fixed heq).trans hpaid, fun x hx => ?_⟩
    cases hx
    simp only [Swap.fixed, Prod.mk.injEq] at heq
    rw [heq.2.1, heq.2.2]
    exact hsame s hnow

/-- What is known of a payment: that of a paid swap agrees with it. -/
def facts (id : Nat) (swap : Instance Swap) (paid : Bool) : Rules.PaymentFacts where
  known payments := swap.id = id → paid = true → payments = [] ∨ paymentsAgree payments = true
  missing := ¬(swap.id = id ∧ paid = true)
  answered r := swap.id = id → paid = true → ∀ e permanent, r ≠ .failed e permanent
  giveUp := ¬(swap.id = id ∧ paid = true)

theorem paymentsAgree_of_existing {payments : List LightningPayment}
    (h : paymentsAgree payments = true) :
    PendingPaymentTracker.existingRelevantAction payments ≠ none := by
  intro hnone
  rw [PendingPaymentTracker.existingRelevantAction, List.find?_eq_none] at hnone
  unfold paymentsAgree at h
  rw [Bool.or_eq_true, Bool.or_eq_true, List.any_eq_true, List.any_eq_true] at h
  rcases h with (⟨p, hp, hst⟩ | ⟨p, hp, hst⟩) | h
  · exact hnone p hp (by rw [beq_iff_eq] at hst; rw [hst]; rfl)
  · exact hnone p hp (by rw [beq_iff_eq] at hst; rw [hst]; rfl)
  · obtain ⟨p, hp, _⟩ := (Option.any_eq_true _ _).mp h
    have hst := List.find?_some hp
    exact hnone p (List.mem_of_find?_eq_some hp) (by rw [beq_iff_eq] at hst; rw [hst]; rfl)

theorem complete (swap : Instance Swap) (paid : Bool) : (facts id swap paid).Complete where
  fresh payments hknown hnew hself hpaid := by
    rcases hknown hpaid.1 hpaid.2 with hnil | hagree
    · exact hself hnil hpaid
    · exact paymentsAgree_of_existing hagree hnew
  recorded payments p hknown hpending hsuccess hfound habandoned hpaid := by
    rcases hknown hpaid.1 hpaid.2 with hnil | hagree
    · rw [hnil] at hfound
      cases hfound
    · unfold paymentsAgree at hagree
      rw [hpending, hsuccess, hfound] at hagree
      simp [habandoned] at hagree
  failed e permanent hanswered hpaid := hanswered hpaid.1 hpaid.2 e permanent rfl

@[simp] theorem pendingInvoice_id (swap : Instance Swap) : swap.pendingInvoice.id = swap.id := by
  unfold Instance.pendingInvoice
  split <;> rfl

@[simp] theorem pendingInvoice_invoice (swap : Instance Swap) :
    swap.pendingInvoice.row.invoice = swap.row.invoice := by
  unfold Instance.pendingInvoice
  split <;> rfl

@[simp] theorem pendingInvoice_preimageHash (swap : Instance Swap) :
    swap.pendingInvoice.row.preimageHash = swap.row.preimageHash := by
  unfold Instance.pendingInvoice
  split <;> rfl

theorem pendingInvoice_status (swap : Instance Swap) :
    swap.pendingInvoice.row.status = invoicePending := by
  unfold Instance.pendingInvoice
  split
  · assumption
  · rfl

/-- The reverse swap of a self payment: that of a paid swap is settled. -/
def Found (id : Nat) (swap : Instance Swap) (paid : Bool) (reverse : Instance ReverseSwap)
    (o : RowObs Swap) : Prop :=
  Paying id swap paid o ∧ (swap.id = id → paid = true →
    swap.row.invoice = some reverse.row.invoice ∧ reverse.row.status ≠ swapCreated ∧
      reverse.row.preimage.isSome = true)

def Refused (id : Nat) (swap : Instance Swap) (paid : Bool) (o : RowObs Swap) : Prop :=
  Paying id swap paid o ∧ ¬(swap.id = id ∧ paid = true)

theorem steady_const {X : Prop} : (paidRules id).Steady [()] fun _ => X := fun _ _ _ _ _ h => h

theorem isPaid_of_paying {swap : Instance Swap} {paid : Bool} {h : History}
    (hp : Paying id swap paid ((paidRules id).obs h)) (hid : swap.id = id) :
    h.world.isPaid swap.id = paid := by
  rw [hid, isPaid_obs]
  exact (hp hid).1

/-- The reverse swap that is found for a paid swap. -/
theorem found_of_settled {swap : Instance Swap} {h : History}
    (hp : Paying id swap true ((paidRules id).obs h)) (hid : swap.id = id)
    (hsettled : selfPaymentSettled h.world swap.id = true) :
    ∃ reverse : Instance ReverseSwap,
      (h.world.reverseSwaps.find fun r => r.preimageHash == swap.row.preimageHash) =
        some reverse ∧
      swap.row.invoice = some reverse.row.invoice ∧ reverse.row.status ≠ swapCreated ∧
        reverse.row.preimage.isSome = true := by
  obtain ⟨s, hs, hrev⟩ := (Option.any_eq_true _ _).mp hsettled
  obtain ⟨reverse, hfind, hall⟩ := (Option.any_eq_true _ _).mp hrev
  have hnow : ((paidRules id).obs h).now = some s := by
    change h.world.swaps.get id = some s
    rw [← hid]
    exact hs
  obtain ⟨hinvoice, hhash⟩ := (hp hid).2 s hnow
  rw [hhash] at hfind
  simp only [Bool.and_eq_true, beq_iff_eq, bne_iff_ne] at hall
  exact ⟨reverse, hfind, hinvoice ▸ hall.1.1, hall.1.2, hall.2⟩

theorem selfPaymentSpec (swap : Instance Swap) (paid : Bool)
    (hacc : ∀ invoice, (paidRules id).logic.Safe (LightningNursery.htlcAccepted invoice)) :
    (paidRules id).SelfPaymentSpec () swap.pendingInvoice (Paying id swap paid)
      (Refused id swap paid) (Found id swap paid) (facts id swap paid).missing where
  find := by
    refine Rules.does_read rfl fun t h ω _ hA ha => ?_
    simp only [pendingInvoice_id, pendingInvoice_preimageHash] at ha ⊢
    have hsettled : swap.id = id → paid = true → selfPaymentSettled h.world swap.id = true := by
      intro hid hpaid
      change (!h.world.isPaid swap.id || selfPaymentSettled h.world swap.id) = true at ha
      rw [isPaid_of_paying hA.2 hid, hpaid] at ha
      exact ha
    split
    · rename_i hnone
      refine ⟨hA.2, fun hpaid => ?_⟩
      obtain ⟨reverse, hfind, _⟩ := found_of_settled (hpaid.2 ▸ hA.2) hpaid.1
        (hsettled hpaid.1 hpaid.2)
      rw [hfind] at hnone
      cases hnone
    · rename_i reverse hsome
      refine ⟨hA.2, fun hid hpaid => ?_⟩
      obtain ⟨found, hfind, hfound⟩ := found_of_settled (hpaid ▸ hA.2) hid (hsettled hid hpaid)
      rw [hfind] at hsome
      cases hsome
      exact hfound
  back _ _ ho := ho.1
  mismatch reverse o hne ho := by
    refine ⟨ho.1, fun hpaid => ?_⟩
    rw [pendingInvoice_invoice] at hne
    exact hne (ho.2 hpaid.1 hpaid.2).1
  reject reverse hstatus := by
    refine (Rules.quiet_write rfl fun _ => ⟨rfl, rfl⟩).does.mono (fun _ ho => ho) fun _ o ho => ?_
    exact ⟨ho.1, fun hpaid => (ho.2 hpaid.1 hpaid.2).2.1 hstatus⟩
  refunded reverse hstatus hnone := by
    refine (Rules.quiet_read rfl _).does.mono (fun _ ho => ho) fun tx o ho => ?_
    have hunpaid : ¬(swap.id = id ∧ paid = true) := by
      intro hpaid
      have hsome := (ho.2 hpaid.1 hpaid.2).2.2
      rw [hnone] at hsome
      cases hsome
    split
    · exact ⟨ho.1, hunpaid⟩
    · exact ho.1
  failed reverse o hstatus hnone ho := by
    refine ⟨ho.1, fun hpaid => ?_⟩
    have hsome := (ho.2 hpaid.1 hpaid.2).2.2
    rw [hnone] at hsome
    cases hsome
  accepted := hacc
  steady_paying := steady_paying swap paid
  steady_refused := (steady_paying swap paid).and steady_const
  steady_found _ := (steady_paying swap paid).and steady_const

/-- The preimage is stored with `InvoicePaid`, whatever the row was. -/
theorem does_settle (swap : Instance Swap) (routingFee preimage : Nat)
    (hst : swap.row.status ≠ invoicePaid) :
    (paidRules id).Does [()] B
      (swapUpdateAct swap (swap.row.paid routingFee preimage) .other) fun _ _ => True := by
  refine Rules.does_modify submarineRules.row rfl (fun _ _ _ => trivial)
    fun _ t h ω r hi _ _ hr => ?_
  have hnow : ((paidRules id).obs h).now = some r := hr
  have hstatus : (swap.row.save (swap.row.paid routingFee preimage) r).status = invoicePaid :=
    saved_of_ne (Ne.symm hst) r.status
  refine ⟨fun s hs _ => ?_, fun hpaid => ?_, fun k hk => absurd (by simp) hk, trivial⟩
  · cases hs
    rw [hstatus]
    decide
  · rw [hnow] at hpaid
    change (saved swap.row.preimage (some preimage) r.preimage).isSome = true
    rcases saved_cases swap.row.preimage (some preimage) r.preimage with h | h
    · rw [h]
      exact hpaid
    · rw [h]
      rfl

theorem does_abandon {swap : Instance Swap} {l : Label} (hB : (paidRules id).Steady [()] B)
    (hunpaid : ∀ o, B o → swap.id = id → o.now.any Swap.isPaid = false) :
    (paidRules id).Does ks B (abandonAct swap l) fun _ => B :=
  does_fail hB rfl hunpaid

theorem quiet_payments : Payments fun a => (paidRules id).Quiet a :=
  Rules.quiet_payments fun _ _ => rfl

theorem paymentSpec (swap : Instance Swap) (paid : Bool)
    (hacc : ∀ invoice, (paidRules id).logic.Safe (LightningNursery.htlcAccepted invoice)) :
    (paidRules id).PaymentSpec () swap.pendingInvoice (Paying id swap paid)
      (Refused id swap paid) (fun _ => True) (Found id swap paid) (facts id swap paid) where
  toSelfPaymentSpec := selfPaymentSpec swap paid hacc
  complete := complete swap paid
  quiet _ := rfl
  payments := by
    refine Rules.does_read rfl fun t h ω _ hA ha => ⟨hA.2, fun hid hpaid => ?_⟩
    simp only [pendingInvoice_id, pendingInvoice_preimageHash] at ha ⊢
    obtain ⟨hrow, hsame⟩ := hA.2 hid
    cases hnow : ((paidRules id).obs h).now with
    | none =>
      rw [hnow, hpaid] at hrow
      cases hrow
    | some s =>
      have hget : h.world.swaps.get swap.id = some s := by
        rw [hid]
        exact hnow
      have hagree : (!h.world.isPaid swap.id || (h.world.swaps.get swap.id).all fun s =>
          (h.world.lightningPayments.filter fun p => p.preimageHash == s.preimageHash).isEmpty ||
            paymentsAgree (h.world.lightningPayments.filter fun p =>
              p.preimageHash == s.preimageHash)) = true := ha
      rw [isPaid_of_paying hA.2 hid, hpaid, hget, Bool.not_true, Bool.false_or, Option.all_some,
        (hsame s hnow).2, Bool.or_eq_true, List.isEmpty_iff] at hagree
      exact hagree
  result := by
    refine (Rules.quiet_ask rfl _).does_of fun t h ω r s hi hA ha he => ⟨hA.2, ?_⟩
    intro hid hpaid e permanent hr
    change (!h.world.isPaid swap.pendingInvoice.id || !ω.isFailedPayment) = true at ha
    rw [pendingInvoice_id, isPaid_of_paying hA.2 hid, hpaid] at ha
    obtain ⟨hω, _⟩ := by simpa [askAct] using he
    cases ω with
    | payment result =>
      cases hω
      rw [hr] at ha
      cases ha
    | nothing | flag _ | number _ | maybe _ | send _ | approval _ => cases hω
  send := (Rules.quiet_write rfl fun _ => ⟨rfl, rfl⟩).does
  settle routingFee preimage := by
    refine does_settle swap.pendingInvoice routingFee preimage ?_
    rw [pendingInvoice_status]
    decide
  abandon hgive := by
    refine (does_abandon (steady_paying swap paid) fun o ho hid => ?_).mono (fun _ ho => ho)
      fun _ _ _ => trivial
    rw [pendingInvoice_id] at hid
    rw [(ho hid).1, ← Bool.not_eq_true]
    exact fun hpaid => hgive ⟨hid, hpaid⟩
  abandonSelf := by
    refine (does_abandon ((steady_paying swap paid).and steady_const) fun o ho hid => ?_).mono
      (fun _ ho => ho) fun _ _ _ => trivial
    rw [pendingInvoice_id] at hid
    rw [(ho.1 hid).1, ← Bool.not_eq_true]
    exact fun hpaid => ho.2 ⟨hid, hpaid⟩
  done _ _ := trivial
  holds := Rules.quiet_holds fun _ _ => rfl
  rows := quiet_payments

theorem payerSpec (swap : Instance Swap) (paid : Bool)
    (hacc : ∀ invoice, (paidRules id).logic.Safe (LightningNursery.htlcAccepted invoice)) :
    (paidRules id).PayerSpec () swap (Paying id swap paid) (Paying id swap paid)
      (Refused id swap paid) (fun _ => True) (Found id swap paid) (facts id swap paid) where
  toPaymentSpec := paymentSpec swap paid hacc
  pend _ := does_update (steady_paying swap paid) rfl
    (.inr (by simp [Swap.withStatus, paidStatuses]))
  pended _ _ ho := ho
  steady_ready := steady_paying swap paid

/-- What is known of a swap that was fetched with the lock. -/
def Fetched (id : Nat) (swap : Instance Swap) (o : RowObs Swap) : Prop :=
  ∃ paid, Paying id swap paid o

theorem triple_payInvoice (swap : Instance Swap)
    (hacc : ∀ invoice, (paidRules id).logic.Safe (LightningNursery.htlcAccepted invoice)) :
    (paidRules id).Triple [()] (Fetched id swap) (PaymentHandler.payInvoice swap)
      fun _ _ => True := by
  intro t h hA
  obtain ⟨paid, hpaying⟩ := hA.2
  exact Rules.triple_payInvoice (payerSpec swap paid hacc) t h ⟨hA.1, hpaying⟩

theorem payerTasks
    (hacc : ∀ invoice, (paidRules id).logic.Safe (LightningNursery.htlcAccepted invoice)) :
    (paidRules id).PayerTasks () (Fetched id) where
  lock := rfl
  fetch swapId := by
    refine Rules.does_read rfl fun t h ω _ _ _ => ⟨trivial, fun swap hswap => ?_⟩
    obtain ⟨hid, hrow⟩ := Table.byId_eq_some.mp hswap
    refine ⟨_, fun hown => ⟨rfl, fun s hs => ?_⟩⟩
    have hget : h.world.swaps.get swapId = some s := by
      rw [← hid, hown]
      exact hs
    rw [hrow] at hget
    cases hget
    exact ⟨rfl, rfl⟩
  back _ _ _ := trivial
  pay swap := triple_payInvoice swap hacc
  rate _ _ := does_update steady_true rfl (.inl rfl)
  claim := settleActs

theorem tasks
    (hacc : ∀ invoice, (paidRules id).logic.Safe (LightningNursery.htlcAccepted invoice)) :
    SubmarineTasks (paidRules id).SafeTask :=
  Rules.submarineTasks_of_payers (payerTasks hacc) (Rules.quiet_holds fun _ _ => rfl)
    (Rules.free_payments quiet_payments) (fun _ _ _ _ _ => free_lockup _ _ _ _)
    free_zeroConfRejected (fun _ _ => free_update rfl (.inl rfl)) safe_lockupFailed safe_expired
    (fun j => Rules.closed (uses_signRefund Rules.free_plain (refundActs j) (free_refundSigned j)))
    fun j => Rules.closed (uses_signRefundArk Rules.free_plain (refundActs j) (free_refundSigned j))

theorem safe_start (e : Entry) : (paidRules id).logic.Safe (start e) :=
  submarineRules.safe_start claimActs tasks e

end paidRules

/-! ## Every run -/

theorem not_failed_of_paidStatus {status : SwapUpdateEvent} (h : status ∈ paidStatuses) :
    status ∉ failedSwapUpdateEvents := by
  simp only [paidStatuses, List.mem_cons, List.not_mem_nil, or_false] at h
  rcases h with rfl | rfl | rfl | rfl <;> decide

/-- Once the preimage of a submarine swap is stored, the swap does not fail, in every run in which
neither expiry nor a failed lockup queries a paid swap and the payment of a paid invoice is never
reported as failed. -/
theorem paid_swaps_kept {s : World} {h : History}
    (hs : ∀ id row, s.swaps.get id = some row → row.PaidOpen)
    (hr : Reaches paidPolicy start s h) : PaidSwapsKept h := by
  intro e he id row hrow hpaid
  have hinit : (paidRules id).logic.Inv ⟨s, []⟩ := ⟨fun row hrow => hs id row hrow, fun _ _ => trivial⟩
  obtain ⟨_, h₁, u, _, hw, _, _, _, hrely⟩ := Logic.rely_of_mem_trace (𝓛 := (paidRules id).logic) rfl
    (fun e _ => paidRules.safe_start e) hinit hr he
  have hinv : (paidRules id).logic.Inv h :=
    Logic.inv_of_reaches rfl (fun e _ => paidRules.safe_start e) hinit hr
  have hnow : (h.world.swaps.get id).any Swap.isPaid = true := by
    refine hrely.1 ?_
    change (h₁.world.swaps.get id).any Swap.isPaid = true
    rw [hw, hrow]
    exact hpaid
  obtain ⟨now, hget, hkept⟩ := (Option.any_eq_true _ _).mp hnow
  exact ⟨now, hget, hkept, not_failed_of_paidStatus (hinv.1 now hget hkept)⟩

/-! ## Runs of one submarine swap -/

/-- A submarine swap whose lockup is confirmed and whose invoice is about to be paid. -/
def pendingSwap : Swap where
  preimageHash := 0
  invoice := some 7
  version := .taproot
  chainCurrency := bitcoin
  lockupAddress := 3
  timeoutBlockHeight := 10
  acceptZeroConf := false
  expectedAmount := some 1000
  status := invoicePending
  failureReason := none
  onchainAmount := some 1000
  lockupTransactionId := some 5
  lockupTransactionVout := some 0
  refundAddress := none
  rate := none
  preimage := none
  routingFee := none
  minerFee := none
  createdRefundSignature := false

def pendingWorld : World := { swaps := Table.empty.put 1 pendingSwap }

/-- The retry loop (task 0) pays the invoice, and the preimage is stored. -/
def payPending : List (Move Entry Answer) :=
  [.spawn .retry] ++ steps 0 [.nothing, .nothing, .nothing, .nothing, .flag true, .number 100,
    .flag false, .flag false, .number 0, .nothing, .flag false, .nothing, .nothing, .nothing,
    .nothing, .approval (some .accept), .nothing, .nothing, .nothing, .payment (.paid 1 9),
    .nothing, .nothing]

theorem pendingWorld_paidOpen (id : Nat) (row : Swap)
    (h : pendingWorld.swaps.get id = some row) : row.PaidOpen := by
  intro hpaid
  change (if id = 1 then some pendingSwap else none) = some row at h
  split at h
  · cases h
    cases hpaid
  · cases h

/-- The invoice is paid and the lockup claimed. -/
theorem paid_swaps_kept_claimed : ∃ h, Reaches paidPolicy start pendingWorld h ∧
    (h.world.swaps.get 1).any (fun s => s.isPaid && s.status == transactionClaimed) = true ∧
    PaidSwapsKept h := by
  obtain ⟨h, hr, hclaimed⟩ := Reaches.of_run paidPolicy start pendingWorld
    (payPending ++ steps 0 [.nothing, .flag true, .nothing, .flag true, .number 1, .flag true,
      .nothing])
    (fun h => (h.world.swaps.get 1).any fun s => s.isPaid && s.status == transactionClaimed)
    (by decide +kernel)
  exact ⟨h, hr, hclaimed, paid_swaps_kept pendingWorld_paidOpen hr⟩

/-- The claim fails, and the blocks that expire the swap (tasks 1 and 2) find `InvoicePaid`: the
paid swap expires. -/
theorem paid_swap_expired : ∃ h, Reaches Policy.free start pendingWorld h ∧ ¬PaidSwapsKept h := by
  obtain ⟨h, hr, hexpired⟩ := Reaches.of_run Policy.free start pendingWorld
    (payPending ++ steps 0 [.nothing, .flag false, .nothing, .nothing] ++
      [.spawn (.checkExpiredSwaps (fun _ => true) 10)] ++ steps 1 [.nothing, .nothing] ++
      steps 2 [.nothing, .nothing, .nothing])
    (fun h => (h.trace.any fun e => (e.after.swaps.get 1).any Swap.isPaid) &&
      (h.world.swaps.get 1).any (·.status == swapExpired)) (by decide +kernel)
  refine ⟨h, hr, fun hkept => ?_⟩
  rw [Bool.and_eq_true] at hexpired
  obtain ⟨e, he, hpaid⟩ := List.any_eq_true.mp hexpired.1
  obtain ⟨row, hrow, hpaid⟩ := (Option.any_eq_true _ _).mp hpaid
  obtain ⟨now, hnow, _, hstatus⟩ := hkept e he 1 row hrow hpaid
  rw [hnow] at hexpired
  have hexp : now.status = swapExpired := by simpa using hexpired.2
  rw [hexp] at hstatus
  exact hstatus (by decide)

end Boltz

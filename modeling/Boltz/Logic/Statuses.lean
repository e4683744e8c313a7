import Boltz.Logic.Serving

/-!
# Statuses of submarine swaps

Statements about the status of a submarine swap have one shape: only one kind of step stores the
status `barred`, and outside the lock a row with one of the statuses `kept` keeps one of them.
What the tasks write is compared with the two once here.
-/

namespace Boltz

open Async SwapUpdateEvent

/-- The statuses that the tasks store, but for the one of `payInvoice`. -/
def storedStatuses : List SwapUpdateEvent :=
  [transactionConfirmed, transactionMempool, transactionLockupFailed, transactionZeroConfRejected,
    transactionClaimed, transactionClaimPending, swapExpired, invoiceSet, invoicePaid,
    invoiceFailedToPay]

/-- A write that does not store `barred`, and that does not take a refund signature back. -/
structure Swap.Passes (barred : SwapUpdateEvent) (s s' : Swap) : Prop where
  status : s'.status = barred → s.status = barred
  signed : s.createdRefundSignature = true → s'.createdRefundSignature = true

namespace Rules

variable {K V : Type} {𝓡 : Rules K V} {k : K} {ks : List K} {B : Seen V → Prop}

/-- `free` are the writes that everybody may do, `locked` those of the holder of the lock. -/
structure StatusSpec (𝓡 : Rules K V) (k : K) (barred : SwapUpdateEvent)
    (kept : List SwapUpdateEvent) : Prop where
  chain : 𝓡.IgnoresChain
  claims : 𝓡.IgnoresClaims
  lock : 𝓡.lock k = .swap
  not_stored : barred ∉ storedStatuses
  closed : ∀ status ∈ kept, status ∈ SwapRepository.lockupNonUpdatableStatuses
  claimed : transactionClaimed ∈ kept
  claimPending : transactionClaimPending ∈ kept
  free : ∀ {ks : List K} {B : Seen V → Prop} {j : Nat} {f : Swap → Swap} {l : Label},
    𝓡.Steady [k] B → 𝓡.relevant l = false → (∀ s, Swap.Passes barred s (f s)) →
      (∀ s, s.status ∈ kept → (f s).status ∈ kept) →
        𝓡.Does ks B (writeAct l fun w => setSwaps (w.swaps.modify j f) w) fun _ => B
  locked : ∀ {B : Seen V → Prop} {j : Nat} {f : Swap → Swap} {l : Label},
    𝓡.relevant l = false → (∀ s, Swap.Passes barred s (f s)) →
      𝓡.Does [k] B (writeAct l fun w => setSwaps (w.swaps.modify j f) w) fun _ => 𝓡.Res k

namespace StatusSpec

variable {barred : SwapUpdateEvent} {kept : List SwapUpdateEvent}

theorem ne_of_stored (hs : 𝓡.StatusSpec k barred kept) {status : SwapUpdateEvent}
    (hst : status ∈ storedStatuses) : status ≠ barred := by
  rintro rfl
  exact hs.not_stored hst

/-- What `swap.update` stores. -/
theorem save_passes (hs : 𝓡.StatusSpec k barred kept) {old new : Swap}
    (hst : new.status = old.status ∨ new.status ∈ storedStatuses) (s : Swap) :
    Swap.Passes barred s (old.save new s) := by
  refine ⟨fun hbarred => ?_, fun hsigned => hsigned⟩
  change saved old.status new.status s.status = barred at hbarred
  rcases hst with heq | hmem
  · rwa [heq, saved_self] at hbarred
  · rcases saved_cases old.status new.status s.status with h | h
    · exact h ▸ hbarred
    · exact absurd (h ▸ hbarred) (hs.ne_of_stored hmem)

/-! ## Writes of everybody -/

/-- The update of a swap that keeps its status, or ends the swap. -/
theorem update (hs : 𝓡.StatusSpec k barred kept) {swap : Instance Swap} {new : Swap} {l : Label}
    (hB : 𝓡.Steady [k] B) (hl : 𝓡.relevant l = false)
    (hst : new.status = swap.row.status ∨ (new.status ∈ storedStatuses ∧ new.status ∈ kept)) :
    𝓡.Does ks B (swapUpdateAct swap new l) fun _ => B := by
  refine hs.free hB hl (hs.save_passes (hst.imp_right And.left)) fun s hkept => ?_
  change saved swap.row.status new.status s.status ∈ kept
  rcases hst with heq | hmem
  · rw [heq, saved_self]
    exact hkept
  · rcases saved_cases swap.row.status new.status s.status with h | h
    · rw [h]
      exact hkept
    · rw [h]
      exact hmem.2

theorem free_update (hs : 𝓡.StatusSpec k barred kept) {swap : Instance Swap} {new : Swap}
    (hst : new.status = swap.row.status) : 𝓡.logic.Free (swapUpdateAct swap new .other) :=
  (hs.update Guarded.steady_true 𝓡.relevant_other (.inl hst)).free

theorem free_lockup (hs : 𝓡.StatusSpec k barred kept) (j : Nat) (incoming : LockupIdentity)
    (amount : Nat) {status : SwapUpdateEvent}
    (hst : status ∈ [transactionConfirmed, transactionMempool, transactionLockupFailed]) :
    𝓡.logic.Free (swapLockupAct j incoming amount status) := by
  have hne : status ≠ barred := hs.ne_of_stored (List.mem_append_left
    [transactionZeroConfRejected, transactionClaimed, transactionClaimPending, swapExpired,
      invoiceSet, invoicePaid, invoiceFailedToPay] hst)
  refine Guarded.Does.free (does_swapLockup (hs.free Guarded.steady_true 𝓡.relevant_other
    (fun s => ⟨fun hbarred => ?_, fun hsigned => ?_⟩) fun s hkept => ?_))
  · rcases SwapRepository.lockupWrite_status s incoming amount status with h | h
    · exact h ▸ hbarred
    · exact absurd (h.2 ▸ hbarred) hne
  · unfold SwapRepository.lockupWrite
    dsimp only
    split <;> exact hsigned
  · rcases SwapRepository.lockupWrite_status s incoming amount status with h | h
    · rw [h]
      exact hkept
    · exact absurd (hs.closed _ hkept) h.1

theorem free_zeroConfRejected (hs : 𝓡.StatusSpec k barred kept) (j : Nat)
    (incoming : LockupIdentity) : 𝓡.logic.Free (swapZeroConfRejectedAct j incoming) := by
  refine Guarded.Does.free (hs.free Guarded.steady_true 𝓡.relevant_other
    (fun s => ⟨fun hbarred => ?_, fun hsigned => ?_⟩) fun s hkept => ?_)
  · unfold SwapRepository.zeroConfRejectedWrite at hbarred
    split at hbarred
    · exact absurd hbarred (hs.ne_of_stored (by simp [storedStatuses]))
    · exact hbarred
  · unfold SwapRepository.zeroConfRejectedWrite
    split <;> exact hsigned
  · unfold SwapRepository.zeroConfRejectedWrite
    split
    · rename_i hwrite
      have hclosed := hs.closed _ hkept
      rw [(of_shouldWriteZeroConfRejection hwrite).1] at hclosed
      exact absurd hclosed (by decide)
    · exact hkept

theorem free_refundSigned (hs : 𝓡.StatusSpec k barred kept) {j : Nat}
    (hl : 𝓡.relevant (.setRefundSignatureCreated .submarine j) = false) :
    𝓡.logic.Free (swapRefundSignedAct j) := by
  refine Guarded.Does.free (hs.free Guarded.steady_true hl (fun _ => ?_) fun _ hkept => hkept)
  exact ⟨fun hbarred => hbarred, fun _ => rfl⟩

/-- A checker does not fail a swap whose lockup cannot be updated any more. -/
theorem free_checker (hs : 𝓡.StatusSpec k barred kept) (checker : ExpirationChecker) {j : Nat}
    (hl : 𝓡.relevant (.updateStatusIfMatches j) = false) :
    𝓡.logic.Free (checkerAct checker j) := by
  refine Guarded.Does.free (hs.free Guarded.steady_true hl
    (fun s => ⟨fun hbarred => ?_, fun hsigned => ?_⟩) fun s hkept => ?_)
  · exact checker.status_of_statusIfMatches (hs.ne_of_stored (by decide)).symm hbarred
  · unfold SwapHelper.statusIfMatches
    split <;> exact hsigned
  · rw [checker.statusIfMatches_of_closed (hs.closed _ hkept)]
    exact hkept

theorem claim (hs : 𝓡.StatusSpec k barred kept) (hB : 𝓡.Steady [k] B) (swap : ClaimSwap)
    (preimage minerFee : Nat) : 𝓡.Does ks B (claimedAct swap preimage minerFee) fun _ => B := by
  cases swap with
  | submarine swap =>
    refine hs.update hB 𝓡.relevant_other (.inr ⟨?_, hs.claimed⟩)
    simp [Swap.claimed, storedStatuses]
  | chain swap => exact (ChainFrame.update hs.chain.quiet rfl _ _).does

theorem deferClaim (hs : 𝓡.StatusSpec k barred kept) (hB : 𝓡.Steady [k] B) (swap : ClaimSwap)
    (preimage : Nat) : 𝓡.Does ks B (claimPendingAct swap preimage) fun _ => B := by
  cases swap with
  | submarine swap =>
    refine hs.update hB 𝓡.relevant_other (.inr ⟨?_, hs.claimPending⟩)
    simp [Swap.withStatus, storedStatuses]
  | chain swap => exact (ChainFrame.update hs.chain.quiet rfl _ _).does

/-- Claims keep what is known. -/
theorem claimActs (hs : 𝓡.StatusSpec k barred kept) (hB : 𝓡.Steady [k] B) :
    ClaimActs fun a => 𝓡.Does ks B a fun _ => B where
  plain := plain_does
  claims := within_does hs.claims.quiet
  locks := hs.claims.does
  claimed swap preimage minerFee := hs.claim hB swap preimage minerFee
  pending swap preimage := hs.deferClaim hB swap preimage

theorem free_claimActs (hs : 𝓡.StatusSpec k barred kept) : ClaimActs 𝓡.FreeAct where
  plain := free_plain
  claims a hl hrun := (hs.claims.quiet a hl hrun).free
  locks := hs.claims.locks
  claimed swap preimage minerFee := (hs.claim Guarded.steady_true swap preimage minerFee).free
  pending swap preimage := (hs.deferClaim Guarded.steady_true swap preimage).free

/-! ## Writes with the lock -/

/-- A status that is stored with the lock. -/
theorem setStatus (hs : 𝓡.StatusSpec k barred kept) {swap : Instance Swap} {new : Swap} {l : Label}
    (hl : 𝓡.relevant l = false) (hst : new.status ∈ storedStatuses) :
    𝓡.Does [k] B (swapUpdateAct swap new l) fun _ => 𝓡.Res k :=
  hs.locked hl (hs.save_passes (.inr hst))

theorem setInvoice (hs : 𝓡.StatusSpec k barred kept) {swap : Instance Swap}
    {invoice expectedAmount : Nat} {acceptZeroConf : Bool}
    (hl : 𝓡.relevant (.setInvoice swap expectedAmount acceptZeroConf) = false) :
    𝓡.Does [k] B (setInvoiceAct swap invoice expectedAmount acceptZeroConf) fun _ => 𝓡.Res k := by
  refine does_setInvoice (hs.locked hl fun s => ⟨fun hbarred => ?_, fun hsigned => hsigned⟩)
  change saved swap.row.status invoiceSet s.status = barred at hbarred
  rcases saved_cases swap.row.status invoiceSet s.status with h | h
  · exact h ▸ hbarred
  · exact absurd (h ▸ hbarred) (hs.ne_of_stored (by decide))

theorem safe_expired (hs : 𝓡.StatusSpec k barred kept) (swap : Instance Swap)
    (hl : 𝓡.relevant (.expireSwap swap.id) = false) :
    𝓡.logic.Safe (swapExpiredHandler swap) := by
  refine Locked.safe (k := k) ?_ hs.lock
  refine Guarded.Triple.act_bind (quiet_read hl _).does steady_own fun queried => ?_
  cases queried with
  | none => exact .throw fun _ ho => ho
  | some queried =>
    dsimp only
    split
    · exact .pure fun _ ho => ho
    · exact triple_update (hs.setStatus 𝓡.relevant_other (by simp [storedStatuses])) steady_own
        (.pure fun _ ho => ho)

theorem safe_lockupFailed (hs : 𝓡.StatusSpec k barred kept) (swap : Instance Swap)
    (reason : SwapError) (hl : 𝓡.relevant (.lockupFailed swap.id) = false) :
    𝓡.logic.Safe (swapLockupFailed swap reason) := by
  refine Locked.safe (k := k) ?_ hs.lock
  refine Guarded.Triple.act_bind (quiet_read hl _).does steady_own fun loaded => ?_
  cases loaded with
  | none => exact .throw fun _ ho => ho
  | some loaded =>
    dsimp only
    split
    · exact .pure fun _ ho => ho
    · exact triple_update (hs.setStatus 𝓡.relevant_other (by simp [storedStatuses])) steady_own
        (.pure fun _ ho => ho)

theorem submarineTasks (hs : 𝓡.StatusSpec k barred kept)
    {fetched : Instance Swap → Seen V → Prop} (hp : 𝓡.PayerTasks k fetched)
    (hholds : Holds fun a => 𝓡.Quiet a) (hpayments : Payments 𝓡.FreeAct)
    (hfailed : ∀ id, 𝓡.relevant (.lockupFailed id) = false)
    (hexpired : ∀ id, 𝓡.relevant (.expireSwap id) = false)
    (hsign : ∀ id, 𝓡.logic.Safe (MusigSigner.signRefund id))
    (hsignArk : ∀ id, 𝓡.logic.Safe (MusigSigner.signRefundArk id)) :
    SubmarineTasks 𝓡.SafeTask :=
  submarineTasks_of_payers hp hholds hpayments (fun _ _ _ _ hst => hs.free_lockup _ _ _ hst)
    hs.free_zeroConfRejected (fun _ _ => hs.free_update rfl)
    (fun swap reason => hs.safe_lockupFailed swap reason (hfailed swap.id))
    (fun swap => hs.safe_expired swap (hexpired swap.id)) hsign hsignArk

end StatusSpec

/-- The self payment, for a statement that nothing in it matters to. -/
theorem selfPaymentSpec_of_steady {swap : Instance Swap} {paying : Seen V → Prop}
    (hsteady : 𝓡.Steady [k] paying)
    (hfind : 𝓡.relevant (.payInvoice swap.id .reverseSwap) = false)
    (hreject : ∀ reverseId, 𝓡.relevant (.rejectSelfPayment swap.id reverseId) = false)
    (hacc : ∀ invoice, 𝓡.logic.Safe (LightningNursery.htlcAccepted invoice)) :
    𝓡.SelfPaymentSpec k swap paying paying (fun _ => paying) PaymentFacts.unknown.missing where
  find := by
    refine does_read hfind fun t h ω _ hA _ => ?_
    split
    · exact ⟨hA.2, trivial⟩
    · exact hA.2
  back _ _ ho := ho
  mismatch _ _ _ ho := ho
  reject reverse _ := (quiet_write (hreject reverse.id) fun _ => ⟨rfl, rfl⟩).does
  refunded _ _ _ := by
    refine (quiet_read 𝓡.relevant_other _).does.mono (fun _ ho => ho) fun tx o ho => ?_
    split <;> exact ho
  failed _ _ _ _ ho := ho
  accepted := hacc
  steady_paying := hsteady
  steady_refused := hsteady
  steady_found _ := hsteady

end Rules

end Boltz

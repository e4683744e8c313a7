import Boltz.Logic.Frames

/-!
# When every task of the backend is safe

The entries only wrap the tasks in queries and in the locks of the nurseries, so a statement about
every run follows from its tasks.
-/

namespace Boltz

open Async SwapUpdateEvent

namespace Rules

variable {K V : Type} {𝓡 : Rules K V}

/-- The acts that every task may take at any time. -/
abbrev FreeAct (𝓡 : Rules K V) : OnActs := fun a => 𝓡.logic.Free a

abbrev SafeTask (𝓡 : Rules K V) : M Unit → Prop := fun c => 𝓡.logic.Safe c

theorem closed : Closed 𝓡.FreeAct 𝓡.SafeTask := fun hm => Logic.safe_of_uses hm

theorem free_plain : Plain 𝓡.FreeAct where
  read f := (quiet_plain.read f).free
  ask f := (quiet_plain.ask f).free
  aside a hl hrun := (quiet_plain.aside a hl hrun).free
  acquire key hk := (quiet_plain.acquire key hk).free
  release key hk := (quiet_plain.release key hk).free

theorem free_locks {key : Lock} (hk : ∀ k, 𝓡.lock k ≠ key) : Locks 𝓡.FreeAct key :=
  ⟨(quiet_acquire hk).free, (quiet_release hk).free⟩

theorem free_within {T : Type} {put : T → World → World}
    (hput : ∀ x w, 𝓡.view (put x w) = 𝓡.view w ∧ (put x w).locks = w.locks) :
    Within put 𝓡.FreeAct :=
  fun a hl hrun => (quiet_within hput a hl hrun).free

/-- A kind of swap that is neither in the view nor in the relevant labels. -/
theorem quiet_frame {T : Type} {isKind : Label → Bool} {put : T → World → World}
    (hrel : ∀ l, isKind l = true → 𝓡.relevant l = false)
    (hput : ∀ x w, 𝓡.view (put x w) = 𝓡.view w ∧ (put x w).locks = w.locks) :
    Frame isKind put fun a => 𝓡.Quiet a := by
  intro β a hl hrun
  refine quiet_act (hrel _ hl) fun t w ω b w' he => ?_
  obtain ⟨x, rfl⟩ := hrun t w ω b w' he
  exact hput x w

theorem safe_helperLock {α : Type} {key : Lock} (hk : key.isHelper = true) {body : M α}
    (hb : 𝓡.logic.Safe body) : 𝓡.logic.Safe (withLock key body) :=
  (Logic.Safe.call (free_plain.acquire key hk)).bind fun _ =>
    hb.finally_ (Logic.Safe.call (free_plain.release key hk))

/-- A query outside the locks, with what it says about the state. -/
theorem safe_read_bind {α β : Type} {f : World → β} {l : Label} {k : β → M α}
    (hl : 𝓡.relevant l = false)
    (hk : ∀ t h, 𝓡.logic.Inv h → 𝓡.allow l t h .nothing = true → 𝓡.logic.Safe (k (f h.world)))
    (hallow : ∀ t h ω, 𝓡.allow l t h ω = 𝓡.allow l t h .nothing) :
    𝓡.logic.Safe (read f l >>= k) := by
  refine Logic.Safe.act_bind (quiet_read hl f).free fun t h ω b s hi ha he => ?_
  cases he
  exact hk t h hi (by rw [← hallow t h ω]; exact ha)

/-! ## What a statement is not about -/

structure IgnoresSubmarine (𝓡 : Rules K V) : Prop where
  view : ∀ w swaps lightningPayments allowedRefunds,
    𝓡.view { w with swaps, lightningPayments, allowedRefunds } = 𝓡.view w
  labels : ∀ l : Label, l.isSubmarine = true → 𝓡.relevant l = false
  lock : ∀ k, 𝓡.lock k ≠ .swap

structure IgnoresReverse (𝓡 : Rules K V) : Prop where
  view : ∀ w reverseSwaps, 𝓡.view { w with reverseSwaps } = 𝓡.view w
  labels : ∀ l : Label, l.isReverse = true → 𝓡.relevant l = false
  lock : ∀ k, 𝓡.lock k ≠ .reverseSwap

structure IgnoresChain (𝓡 : Rules K V) : Prop where
  view : ∀ w chainSwaps, 𝓡.view { w with chainSwaps } = 𝓡.view w
  labels : ∀ l : Label, l.isChain = true → 𝓡.relevant l = false
  lock : ∀ k, 𝓡.lock k ≠ .chainSwap
  refundLock : ∀ k, 𝓡.lock k ≠ .refundSignature

/-- The locks of the cooperative signers. -/
def claimKeys : List Lock := [.batchClaim, .swapsToClaim, .chainSwapsToClaim, .cooperativeBroadcast]

structure IgnoresClaims (𝓡 : Rules K V) : Prop where
  view : ∀ w cooperative, 𝓡.view { w with cooperative } = 𝓡.view w
  lock : ∀ k, 𝓡.lock k ∉ claimKeys
  sign : ∀ nonce, 𝓡.relevant (.signPartial nonce) = false
  broadcast : ∀ nonce, 𝓡.relevant (.broadcastSigned nonce) = false

theorem IgnoresSubmarine.quiet (h : 𝓡.IgnoresSubmarine) : SubmarineFrame fun a => 𝓡.Quiet a :=
  quiet_frame h.labels fun (x : Table Swap × List LightningPayment × List Nat) w =>
    ⟨h.view w x.1 x.2.1 x.2.2, rfl⟩

theorem IgnoresReverse.quiet (h : 𝓡.IgnoresReverse) : ReverseFrame fun a => 𝓡.Quiet a :=
  quiet_frame h.labels fun x w => ⟨h.view w x, rfl⟩

theorem IgnoresChain.quiet (h : 𝓡.IgnoresChain) : ChainFrame fun a => 𝓡.Quiet a :=
  quiet_frame h.labels fun x w => ⟨h.view w x, rfl⟩

theorem IgnoresClaims.quiet (h : 𝓡.IgnoresClaims) : Claims fun a => 𝓡.Quiet a :=
  quiet_within fun x w => ⟨h.view w x, rfl⟩

theorem IgnoresClaims.quiet_lock (h : 𝓡.IgnoresClaims) {key : Lock} (hk : key ∈ claimKeys) :
    Locks (fun a => 𝓡.Quiet a) key :=
  quiet_locks fun k he => h.lock k (he ▸ hk)

theorem IgnoresClaims.locks (h : 𝓡.IgnoresClaims) : ClaimLocks 𝓡.FreeAct := by
  have free : ∀ key ∈ claimKeys, Locks 𝓡.FreeAct key := fun key hk =>
    free_locks fun k he => h.lock k (he ▸ hk)
  exact ⟨free _ (by decide), free _ (by decide), free _ (by decide), free _ (by decide)⟩

theorem IgnoresClaims.session (h : 𝓡.IgnoresClaims) : SessionActs 𝓡.FreeAct where
  sign nonce := (quiet_write (h.sign nonce) fun _ => ⟨rfl, rfl⟩).free
  broadcast nonce _ f := (quiet_ask (h.broadcast nonce) f).free

theorem free_of_quiet_frame {T : Type} {isKind : Label → Bool} {put : T → World → World}
    (hf : Frame isKind put fun a => 𝓡.Quiet a) : Frame isKind put 𝓡.FreeAct :=
  fun a hl hrun => (hf a hl hrun).free

theorem quiet_holds (hh : ∀ w sendApprovalHolds, 𝓡.view { w with sendApprovalHolds } = 𝓡.view w) :
    Holds fun a => 𝓡.Quiet a :=
  quiet_within fun x w => ⟨hh w x, rfl⟩

theorem quiet_refunds
    (hr : ∀ w refundTransactions, 𝓡.view { w with refundTransactions } = 𝓡.view w) :
    Refunds fun a => 𝓡.Quiet a :=
  quiet_within fun x w => ⟨hr w x, rfl⟩

/-- The rows that no kind of swap owns, when none of them is in the view. -/
theorem base_of_ignores (hc : 𝓡.IgnoresClaims)
    (hh : ∀ w sendApprovalHolds, 𝓡.view { w with sendApprovalHolds } = 𝓡.view w)
    (hr : ∀ w refundTransactions, 𝓡.view { w with refundTransactions } = 𝓡.view w) :
    Base 𝓡.FreeAct where
  plain := free_plain
  holds a hl hrun := (quiet_holds hh a hl hrun).free
  refunds a hl hrun := (quiet_refunds hr a hl hrun).free
  claims := free_within fun x w => ⟨hc.view w x, rfl⟩
  locks := hc.locks

/-! ## Entries -/

/-- Every task of the backend is safe; the requests that a policy may exclude are left out. -/
structure Tasks (𝓡 : Rules K V) : Prop where
  shared : SharedTasks 𝓡.SafeTask
  reverse : ReverseTasks 𝓡.SafeTask
  chain : ChainTasks 𝓡.SafeTask
  submarine : SubmarineTasks 𝓡.SafeTask
  claims : ClaimTasks 𝓡.SafeTask
  refunds : Refunds 𝓡.FreeAct
  retryHeld : 𝓡.logic.Safe retryHeldSendApprovals

theorem safe_retryHeld (hc : ∀ id, 𝓡.logic.Safe (chainSwapLockup id none))
    (hr : ∀ id, 𝓡.logic.Safe (invoicePaidHandler id))
    (hs : ∀ id, 𝓡.logic.Safe (withLock .swap (pruneStaleSubmarineHolds id))) :
    𝓡.logic.Safe retryHeldSendApprovals := by
  refine Logic.Safe.bind (Logic.Safe.call (free_plain.read _)) fun holds => .forEach fun hold => ?_
  unfold retryHeldLockup
  split
  · exact hs hold.id
  · exact hc hold.id
  · exact hr hold.id

theorem safe_htlcAccepted (ht : ReverseTasks 𝓡.SafeTask) (invoice : Nat) :
    𝓡.logic.Safe (LightningNursery.htlcAccepted invoice) :=
  closed (uses_htlcAccepted free_plain (ht.accepted invoice))

theorem safe_approvalTask (swapId promise : Nat) : 𝓡.logic.Safe (approvalTask swapId promise) :=
  closed (uses_approvalTask free_plain swapId promise)

/-- The tasks of a statement about reverse swaps. -/
theorem tasks_of_reverse (hb : Base 𝓡.FreeAct) (hsess : SessionActs 𝓡.FreeAct)
    (hsub : 𝓡.IgnoresSubmarine) (hch : 𝓡.IgnoresChain) (hs : SharedTasks 𝓡.SafeTask)
    (hr : ReverseTasks 𝓡.SafeTask) (hpaid : ∀ id, 𝓡.logic.Safe (invoicePaidHandler id)) :
    𝓡.Tasks := by
  have hcf : ChainFrame 𝓡.FreeAct := free_of_quiet_frame hch.quiet
  have hsf : SubmarineFrame 𝓡.FreeAct := free_of_quiet_frame hsub.quiet
  have hca : ClaimActs 𝓡.FreeAct := claimActs_of_frames hb hcf hsf
  have hchain := chainTasks_of_frame closed hb hca hsess (free_locks hch.lock)
    (free_locks hch.refundLock) hcf hs
  have hsubmarine := submarineTasks_of_frame closed hb hca (free_locks hsub.lock) hsf
    (safe_htlcAccepted hr)
  exact ⟨hs, hr, hchain, hsubmarine, claimTasks_of_acts closed hca hsess, hb.refunds,
    safe_retryHeld (fun id => hchain.lockup id none) hpaid hsubmarine.prune⟩

/-- The tasks of a statement about chain swaps. -/
theorem tasks_of_chain (hb : Base 𝓡.FreeAct) (hsess : SessionActs 𝓡.FreeAct)
    (hca : ClaimActs 𝓡.FreeAct) (hsub : 𝓡.IgnoresSubmarine) (hrev : 𝓡.IgnoresReverse)
    (hs : SharedTasks 𝓡.SafeTask) (hchain : ChainTasks 𝓡.SafeTask) : 𝓡.Tasks := by
  have hrf : ReverseFrame 𝓡.FreeAct := free_of_quiet_frame hrev.quiet
  have hsf : SubmarineFrame 𝓡.FreeAct := free_of_quiet_frame hsub.quiet
  have hr := reverseTasks_of_frame closed hb (free_locks hrev.lock) hrf hs
  have hsubmarine := submarineTasks_of_frame closed hb hca (free_locks hsub.lock) hsf
    (safe_htlcAccepted hr)
  exact ⟨hs, hr, hchain, hsubmarine, claimTasks_of_acts closed hca hsess, hb.refunds,
    safe_retryHeld (fun id => hchain.lockup id none)
      (invoicePaid_of_frame closed hb (free_locks hrev.lock) hrf hs) hsubmarine.prune⟩

/-- The tasks of a statement about submarine swaps. -/
theorem tasks_of_submarine (hb : Base 𝓡.FreeAct) (hsess : SessionActs 𝓡.FreeAct)
    (hca : ClaimActs 𝓡.FreeAct) (hch : 𝓡.IgnoresChain) (hrev : 𝓡.IgnoresReverse)
    (hs : SharedTasks 𝓡.SafeTask)
    (hsub : (∀ invoice, 𝓡.logic.Safe (LightningNursery.htlcAccepted invoice)) →
      SubmarineTasks 𝓡.SafeTask) : 𝓡.Tasks := by
  have hrf : ReverseFrame 𝓡.FreeAct := free_of_quiet_frame hrev.quiet
  have hr := reverseTasks_of_frame closed hb (free_locks hrev.lock) hrf hs
  have hchain := chainTasks_of_frame closed hb hca hsess (free_locks hch.lock)
    (free_locks hch.refundLock) (free_of_quiet_frame hch.quiet) hs
  have hsubmarine := hsub (safe_htlcAccepted hr)
  exact ⟨hs, hr, hchain, hsubmarine, claimTasks_of_acts closed hca hsess, hb.refunds,
    safe_retryHeld (fun id => hchain.lockup id none)
      (invoicePaid_of_frame closed hb (free_locks hrev.lock) hrf hs) hsubmarine.prune⟩

theorem safe_start (ht : 𝓡.Tasks) (e : Entry) (hchain : ChainEntry 𝓡.SafeTask e)
    (hallow : ∀ id, e = .allowRefund id → 𝓡.logic.Safe (MusigSigner.allowRefund id)) :
    𝓡.logic.Safe (start e) := by
  have hp : Plain 𝓡.FreeAct := free_plain
  cases e with
  | htlcAccepted invoice => exact safe_htlcAccepted ht.reverse invoice
  | checkExpiredInvoices => exact closed (uses_checkExpiredInvoices hp ht.reverse.invoiceExpired)
  | paymentResolved paymentHash nodeId status error =>
    exact ht.submarine.paymentResolved paymentHash nodeId status error
  | retry =>
    exact safe_helperLock rfl (ht.submarine.retry.bind fun _ => ht.retryHeld)
  | checkSwapClaims transactionId inputs =>
    exact closed (uses_checkSwapClaims hp ht.chain.claimed
      (fun input => closed (uses_checkReverseSwapClaim hp ht.reverse.claimed input)) _ _)
  | checkOutputs symbol transactionId addresses status =>
    exact safe_helperLock rfl (.forEach fun address =>
      .bind (.spawn (ht.submarine.checkSwap _ _ _)) fun _ => ht.chain.checkChainSwap _ _ _ _)
  | checkReverseMempool symbol =>
    exact closed (uses_checkReverseMempool hp ht.reverse.confirmed symbol)
  | checkChainMempool symbol => exact closed (uses_checkChainMempool hp ht.chain.confirmed symbol)
  | checkExpiredSwaps watches height =>
    exact closed (uses_checkExpiredSwaps hp ht.submarine.expired watches height)
  | checkExpiredReverseSwaps watches height =>
    exact closed (uses_checkExpiredReverseSwaps hp ht.reverse.expired watches height)
  | checkExpiredChainSwaps watches height =>
    exact closed (uses_checkExpiredChainSwaps hp ht.chain.expired watches height)
  | scanPendingTransactions => exact ht.shared.scan
  | evmLockup preimageHash values =>
    exact .bind (.spawn (ht.submarine.lockupEvent _ _)) fun _ => hchain.evm _ _ rfl
  | evmClaim preimageHash preimage =>
    exact .bind (.spawn (closed (uses_evmReverseClaim hp ht.reverse.claimed _ _))) fun _ =>
      closed (uses_evmChainClaim hp ht.chain.claimedEvm _ _)
  | vhtlcCreated vHtlc =>
    exact safe_helperLock rfl (.bind (.spawn (ht.submarine.checkArk vHtlc)) fun _ =>
      hchain.ark vHtlc rfl)
  | vhtlcSpent txid vout preimage =>
    exact .bind (.spawn (closed (uses_arkReverseClaim hp ht.reverse.claimed _ _ _))) fun _ =>
      closed (uses_arkChainClaim hp ht.chain.claimed _ _ _)
  | checkPendingTransactions =>
    exact closed (uses_checkPendingTransactions hp ht.refunds ht.shared.refundConfirmed)
  | sweep symbol => exact ht.claims.sweep symbol
  | signReverseSwapClaim id preimage => exact ht.reverse.signClaim id preimage
  | signRefund id => exact ht.submarine.signRefund id
  | signRefundArk id => exact ht.submarine.signRefundArk id
  | allowRefund id => exact hallow id rfl
  | signChainRefund id backend => exact ht.chain.signRefund id backend
  | acceptQuote id fee serverLockAmount values status => exact hchain.quote _ _ _ _ _ rfl
  | getSubmarineClaimDetails id => exact ht.claims.submarineDetails id
  | claimSubmarine id => exact ht.claims.claimSubmarine id
  | getChainSwapClaimDetails id => exact ht.claims.chainDetails id
  | claimChainSwap id preimage => exact ht.chain.claimChainSwap id preimage
  | createRescue id => exact ht.claims.createRescue id
  | broadcastRescue id => exact ht.claims.broadcastRescue id
  | expireRescue id => exact ht.claims.expireRescue id

/-- Statements about reverse swaps only. -/
theorem safe_start_reverse (hb : Base 𝓡.FreeAct) (hsess : SessionActs 𝓡.FreeAct)
    (hsub : 𝓡.IgnoresSubmarine) (hch : 𝓡.IgnoresChain) (hs : SharedTasks 𝓡.SafeTask)
    (hr : ReverseTasks 𝓡.SafeTask) (hpaid : ∀ id, 𝓡.logic.Safe (invoicePaidHandler id))
    (e : Entry) : 𝓡.logic.Safe (start e) := by
  have ht := tasks_of_reverse hb hsess hsub hch hs hr hpaid
  refine safe_start ht e ?_ fun _ _ => ?_
  · exact chainEntry_of_frame closed hb (free_locks hch.refundLock)
      (free_of_quiet_frame hch.quiet) ht.chain.toChainLockupTasks e
  · exact allowRefund_of_frame closed free_plain (free_of_quiet_frame hsub.quiet) _

/-- Statements about chain swaps only. -/
theorem safe_start_chain (hb : Base 𝓡.FreeAct) (hsess : SessionActs 𝓡.FreeAct)
    (hca : ClaimActs 𝓡.FreeAct) (hsub : 𝓡.IgnoresSubmarine) (hrev : 𝓡.IgnoresReverse)
    (hs : SharedTasks 𝓡.SafeTask) (hchain : ChainTasks 𝓡.SafeTask) (e : Entry)
    (he : ChainEntry 𝓡.SafeTask e) : 𝓡.logic.Safe (start e) := by
  have ht := tasks_of_chain hb hsess hca hsub hrev hs hchain
  refine safe_start ht e he fun _ _ => ?_
  exact allowRefund_of_frame closed free_plain (free_of_quiet_frame hsub.quiet) _

/-- Statements about submarine swaps only. -/
theorem safe_start_submarine (hb : Base 𝓡.FreeAct) (hsess : SessionActs 𝓡.FreeAct)
    (hca : ClaimActs 𝓡.FreeAct) (hch : 𝓡.IgnoresChain) (hrev : 𝓡.IgnoresReverse)
    (hs : SharedTasks 𝓡.SafeTask)
    (hsub : (∀ invoice, 𝓡.logic.Safe (LightningNursery.htlcAccepted invoice)) →
      SubmarineTasks 𝓡.SafeTask) (e : Entry)
    (hallow : ∀ id, e = .allowRefund id → 𝓡.logic.Safe (MusigSigner.allowRefund id)) :
    𝓡.logic.Safe (start e) := by
  have ht := tasks_of_submarine hb hsess hca hch hrev hs hsub
  refine safe_start ht e ?_ hallow
  exact chainEntry_of_frame closed hb (free_locks hch.refundLock)
    (free_of_quiet_frame hch.quiet) ht.chain.toChainLockupTasks e

end Rules

end Boltz

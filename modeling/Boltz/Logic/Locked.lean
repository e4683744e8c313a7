import Boltz.Logic.Rows

/-!
# Tasks that run under the lock of their swaps

The handlers of the nursery take the lock of a kind of swap. Each is safe when its body keeps the
resource of the lock.
-/

namespace Boltz

open Async SwapUpdateEvent

namespace Rules

variable {K V α β : Type} {𝓡 : Rules K V} {k : K}

/-- A body that gives the resource of the lock `k` back. -/
def Locked (𝓡 : Rules K V) (k : K) (body : M α) : Prop :=
  ∀ t h, 𝓡.On [k] (𝓡.Res k) t h →
    𝓡.logic.wp body t (fun _ h' => 𝓡.On [k] (𝓡.Res k) t h') h

theorem steady_own : 𝓡.Steady [k] (𝓡.Res k) := Guarded.steady_res (by simp)

theorem Locked.safe {key : Lock} {body : M α} (hb : 𝓡.Locked k body) (hk : 𝓡.lock k = key) :
    𝓡.logic.Safe (withLock key body) := by
  intro t h _
  subst hk
  have h₀ : 𝓡.On [] (fun _ => True) t h := ⟨by simp, trivial⟩
  refine wp_withLock h₀ Guarded.steady_true steady_own (by simp) (fun _ h => h)
    (fun h' hA => ?_) fun _ _ _ => trivial
  exact hb t h' (hA.mono fun _ ho => ho.2)

/-- The acts that keep the resource of the lock. -/
abbrev KeepsRes (𝓡 : Rules K V) (k : K) : OnActs := fun a => 𝓡.Does [k] (𝓡.Res k) a fun _ => 𝓡.Res k

theorem Locked.of_uses {body : M α} (hb : body.Uses (𝓡.KeepsRes k) 𝓡.SafeTask) :
    𝓡.Locked k body :=
  fun _ _ hA => Guarded.wp_uses steady_own (hb.mono (fun _ ha => ha.keeps) fun _ hc => hc) hA

theorem Locked.of_quiet {body : M α} (hb : 𝓡.QuietProg body) : 𝓡.Locked k body :=
  fun _ _ hA => wp_quiet hb steady_own hA

theorem Locked.pure (a : α) : 𝓡.Locked k (.pure a : M α) := fun _ _ hA => hA

theorem Locked.bind {m : M β} {f : β → M α} (hm : 𝓡.Locked k m) (hf : ∀ b, 𝓡.Locked k (f b)) :
    𝓡.Locked k (m >>= f) := by
  intro t h hA
  rw [Logic.wp_bind]
  refine Logic.wp_mono (hm t h hA) fun r h' hA' => ?_
  cases r with
  | ok b => exact hf b t h' hA'
  | error e => exact hA'

theorem Locked.when {m : M Unit} (c : Bool) (hm : 𝓡.Locked k m) : 𝓡.Locked k (Prog.when c m) := by
  intro t h hA
  cases c
  · exact hA
  · exact hm t h hA

/-- The plain acts keep every assertion. -/
theorem plain_does {ks : List K} {B : Obs V Label World Answer → Prop} :
    Plain fun a => 𝓡.Does ks B a fun _ => B where
  read f := (quiet_plain.read f).does
  ask f := (quiet_plain.ask f).does
  aside a hl hrun := (quiet_plain.aside a hl hrun).does
  acquire key hk := (quiet_plain.acquire key hk).does
  release key hk := (quiet_plain.release key hk).does

theorem plain_keepsRes : Plain (𝓡.KeepsRes k) := plain_does

theorem within_does {T : Type} {put : T → World → World} {ks : List K}
    {B : Obs V Label World Answer → Prop} (hq : Within put fun a => 𝓡.Quiet a) :
    Within put fun a => 𝓡.Does ks B a fun _ => B :=
  fun a hl hrun => (hq a hl hrun).does

theorem within_keepsRes {T : Type} {put : T → World → World}
    (hq : Within put fun a => 𝓡.Quiet a) : Within put (𝓡.KeepsRes k) :=
  within_does hq

theorem IgnoresClaims.does {ks : List K} {B : Obs V Label World Answer → Prop}
    (h : 𝓡.IgnoresClaims) : ClaimLocks fun a => 𝓡.Does ks B a fun _ => B := by
  have keeps : ∀ key ∈ claimKeys, Locks (fun a => 𝓡.Does ks B a fun _ => B) key := fun key hk =>
    ⟨(h.quiet_lock hk).acquire.does, (h.quiet_lock hk).release.does⟩
  exact ⟨keeps _ (by decide), keeps _ (by decide), keeps _ (by decide), keeps _ (by decide)⟩

theorem IgnoresClaims.keepsRes (h : 𝓡.IgnoresClaims) : ClaimLocks (𝓡.KeepsRes k) := h.does

/-! ## Tasks about both kinds of swaps -/

theorem safe_refundConfirmed (hlock : ∀ swap : Instance ReverseSwap,
    𝓡.logic.Safe (refundConfirmed (.reverse swap))) (swap : ServerSwap) :
    𝓡.logic.Safe (refundConfirmed swap) := by
  cases swap with
  | reverse swap => exact hlock swap
  | chain swap =>
    exact closed (.bind (.catching (uses_external free_plain) fun _ => trivial) fun _ => trivial)

/-- What the handler of `refund.confirmed` does with the lock. -/
theorem quiet_cancelRefunded : 𝓡.QuietProg (do
    Prog.when (← ask Answer.flag?) (cancelReverseInvoices.catching fun _ => pure ()) : M Unit) :=
  .bind (uses_ask (quiet_plain.ask _)) fun _ => .when _
    (.catching (uses_cancelReverseInvoices quiet_plain) fun _ => trivial)

theorem safe_refundConfirmed_locked (hk : 𝓡.lock k = .reverseSwap) (swap : ServerSwap) :
    𝓡.logic.Safe (refundConfirmed swap) := by
  refine safe_refundConfirmed (fun swap => ?_) swap
  refine Logic.Safe.bind (Logic.safe_of_uses
    (.catching (uses_external free_plain) fun _ => trivial)) fun _ => ?_
  exact (Locked.of_quiet quiet_cancelRefunded).safe hk

theorem safe_refundConfirmed_framed (hlock : ∀ k, 𝓡.lock k ≠ .reverseSwap) (swap : ServerSwap) :
    𝓡.logic.Safe (refundConfirmed swap) :=
  closed (uses_refundConfirmed free_plain (free_locks hlock) swap)

theorem sharedTasks_of_reverse (hch : 𝓡.IgnoresChain) (hk : 𝓡.lock k = .reverseSwap)
    (hfailed : ∀ (swap : Instance ReverseSwap) lightningClient,
      swap.row.status = transactionFailed →
        𝓡.Locked k (handleSwapSendFailed (.reverse swap) lightningClient))
    (htracker : ∀ swap status, status = transactionFailed ∨ status = transactionConfirmed →
      𝓡.logic.Free (setStatusAct (.reverse swap) status none
        (.confirmationTracker .reverseSubmarine swap.id))) : SharedTasks 𝓡.SafeTask := by
  have hcf : ChainFrame 𝓡.FreeAct := free_of_quiet_frame hch.quiet
  have hf : ∀ swap : ServerSwap,
      𝓡.logic.Safe (lockupFailedToSend (swap.withStatus transactionFailed none)) := by
    intro swap
    cases swap with
    | reverse swap =>
      refine Locked.safe (.bind ?_ fun lightningClient => hfailed _ lightningClient rfl) hk
      exact Locked.of_quiet (uses_ask (quiet_plain.ask _))
    | chain swap =>
      exact closed (uses_lockupFailedToSend free_plain (free_locks hch.lock)
        (ChainFrame.update hcf rfl _ _))
  refine ⟨safe_approvalTask, ?_, safe_refundConfirmed_locked hk⟩
  refine closed (uses_scanPendingTransactions free_plain hf fun swap status hs => ?_)
  cases swap with
  | reverse swap => exact htracker swap status hs
  | chain swap => exact ChainFrame.update hcf rfl _ _

theorem sharedTasks_of_chain (hrev : 𝓡.IgnoresReverse) (hk : 𝓡.lock k = .chainSwap)
    (hfailed : ∀ swap : Instance ChainSwap, swap.row.status = transactionFailed →
      𝓡.Locked k (handleSwapSendFailed (.chain swap) false))
    (htracker : ∀ swap status, status = transactionFailed ∨ status = transactionServerConfirmed →
      𝓡.logic.Free (setStatusAct (.chain swap) status none
        (.confirmationTracker .chain swap.id))) : SharedTasks 𝓡.SafeTask := by
  have hrf : ReverseFrame 𝓡.FreeAct := free_of_quiet_frame hrev.quiet
  have hf : ∀ swap : ServerSwap,
      𝓡.logic.Safe (lockupFailedToSend (swap.withStatus transactionFailed none)) := by
    intro swap
    cases swap with
    | reverse swap =>
      exact closed (uses_lockupFailedToSend free_plain (free_locks hrev.lock)
        (ReverseFrame.update hrf rfl _ _))
    | chain swap => exact (hfailed _ rfl).safe hk
  refine ⟨safe_approvalTask, ?_, safe_refundConfirmed_framed hrev.lock⟩
  refine closed (uses_scanPendingTransactions free_plain hf fun swap status hs => ?_)
  cases swap with
  | reverse swap => exact ReverseFrame.update hrf rfl _ _
  | chain swap => exact htracker swap status hs

theorem sharedTasks_of_frames (hrev : 𝓡.IgnoresReverse) (hch : 𝓡.IgnoresChain) :
    SharedTasks 𝓡.SafeTask := by
  have hrf : ReverseFrame 𝓡.FreeAct := free_of_quiet_frame hrev.quiet
  have hcf : ChainFrame 𝓡.FreeAct := free_of_quiet_frame hch.quiet
  have hupdate : ∀ (swap : ServerSwap) status reason l, l.isReverse = true → l.isChain = true →
      𝓡.logic.Free (setStatusAct swap status reason l) := by
    intro swap status reason l hlr hlc
    cases swap with
    | reverse swap => exact ReverseFrame.update hrf hlr _ _
    | chain swap => exact ChainFrame.update hcf hlc _ _
  have hf : ∀ swap, 𝓡.logic.Safe (lockupFailedToSend swap) := by
    intro swap
    refine closed (uses_lockupFailedToSend free_plain ?_ (hupdate swap _ _ _ rfl rfl))
    cases swap with
    | reverse swap => exact free_locks hrev.lock
    | chain swap => exact free_locks hch.lock
  refine ⟨safe_approvalTask, ?_, safe_refundConfirmed_framed hrev.lock⟩
  refine closed (uses_scanPendingTransactions free_plain (fun swap => hf _) fun swap status _ => ?_)
  cases swap with
  | reverse swap => exact ReverseFrame.update hrf rfl _ _
  | chain swap => exact ChainFrame.update hcf rfl _ _

/-! ## Tasks about reverse swaps -/

theorem safe_handleAcceptedInvoice (hk : 𝓡.lock k = .reverseSwap)
    (hpaid : ∀ id, 𝓡.logic.Safe (emitInvoicePaid id))
    (hminer : ∀ swap, 𝓡.logic.Free (setStatusAct (.reverse swap) minerFeePaid none
      (.setMinerFeePaid swap.id))) (invoice : Nat) :
    𝓡.logic.Safe (LightningNursery.handleAcceptedInvoice invoice) := by
  have hp : Plain 𝓡.FreeAct := free_plain
  have hext : 𝓡.logic.Safe external := closed (uses_external hp)
  refine Logic.Safe.bind (Logic.Safe.call (hp.read _)) fun swap => ?_
  split
  · exact Logic.Safe.pure ()
  rename_i swap
  split
  · exact .when _ (.bind (.when _ hext) fun _ => hpaid swap.id)
  · refine Logic.Safe.bind (Logic.safe_of_uses (uses_setStatus (hminer swap))) fun _ => ?_
    refine .bind (.spawn (Locked.safe (Locked.of_quiet trivial) hk)) fun _ => .bind hext fun _ => ?_
    refine .bind (Logic.Safe.call (hp.ask _)) fun _ => .when _ ?_
    exact .bind hext fun _ => hpaid swap.id

theorem safe_signReverseSwapClaim (hk : 𝓡.lock k = .reverseSwap)
    (hsettle : ∀ id preimage, 𝓡.Locked k (settleReverseSwapInvoice id preimage))
    (hpre : ∀ (swap : Instance ReverseSwap) preimage,
      𝓡.logic.Free (reverseUpdateAct swap { swap.row with preimage := some preimage } .other))
    (id preimage : Nat) : 𝓡.logic.Safe (signReverseSwapClaim id preimage) := by
  have hp : Plain 𝓡.FreeAct := free_plain
  have hthrow : ∀ c e, 𝓡.logic.Safe (Prog.throwIf c e : M Unit) := fun c e =>
    Logic.safe_of_uses (.throwIf c e)
  refine safe_helperLock rfl (.bind (Logic.Safe.call (hp.read _)) fun swap => ?_)
  split
  · exact Logic.safe_of_uses trivial
  rename_i swap
  refine .bind (Logic.Safe.call (hp.ask _)) fun _ => .bind (hthrow _ _) fun _ => ?_
  refine .bind (hthrow _ _) fun _ => .bind (Logic.Safe.call (hp.ask _)) fun _ => ?_
  refine .bind (hthrow _ _) fun _ => ?_
  refine .bind (Logic.safe_of_uses (uses_update_server (hpre swap preimage))) fun _ => ?_
  refine Locked.safe (.bind (.when _ (hsettle _ _)) fun _ => ?_) hk
  exact Locked.of_quiet (uses_external quiet_plain)

/-- A reverse swap that `loadEligibleReverseSwap` returns. -/
def eligible (swap : ReverseSwap) : Bool := [swapCreated, minerFeePaid].contains swap.status

section send

variable {ready sending : Instance ReverseSwap → Obs V Label World Answer → Prop}
  {sent : Instance ReverseSwap → SendResult → Obs V Label World Answer → Prop}

theorem wp_loadEligibleReverseSwap {t : Nat} {h : History} {id : Nat}
    (hload : ∀ t h swap, 𝓡.logic.Inv h → 𝓡.On [k] (𝓡.Res k) t h →
      h.world.reverseSwaps.byId id = some swap → eligible swap.row = true →
        ready swap (𝓡.obs h)) (hA : 𝓡.On [k] (𝓡.Res k) t h) :
    𝓡.logic.wp (loadEligibleReverseSwap id) t (𝓡.loaded k ready t) h := by
  have hread : 𝓡.Does [k] (𝓡.Res k) (readAct .other fun w => w.reverseSwaps.byId id)
      fun found o => 𝓡.Res k o ∧ ∀ swap, found = some swap → eligible swap.row = true →
        ready swap o :=
    does_read 𝓡.relevant_other fun t h ω hi hA _ =>
      ⟨hA.2, fun swap hs he => hload t h swap hi hA hs he⟩
  refine Guarded.wp_does_bind hread steady_own hA fun found h' h'A => ?_
  cases found with
  | none => exact h'A.mono fun _ ho => ho.1
  | some swap =>
    dsimp only
    split
    · rename_i he
      exact h'A.mono fun _ ho => ho.2 swap rfl he
    · exact h'A.mono fun _ ho => ho.1

/-- The handler of `invoice.paid`, by the states of its lockup. -/
theorem safe_invoicePaidHandler (hk : 𝓡.lock k = .reverseSwap) (hh : Holds fun a => 𝓡.Quiet a)
    (hc : 𝓡.IgnoresClaims) (hscan : 𝓡.logic.Safe scanPendingTransactions) {id : Nat}
    (hload : ∀ t h swap, 𝓡.logic.Inv h → 𝓡.On [k] (𝓡.Res k) t h →
      h.world.reverseSwaps.byId id = some swap → eligible swap.row = true →
        ready swap (𝓡.obs h))
    (hspec : ∀ swap, 𝓡.LockupSpec [k] (.reverse swap) (ready swap) (sending swap) (sent swap)
      (𝓡.Res k))
    (hres : ∀ swap o, ready swap o → 𝓡.Res k o) : 𝓡.logic.Safe (invoicePaidHandler id) := by
  refine safe_withSendApproval hk ?_ ?_ fun approval t h hA => ?_
  · exact closed (uses_removeHold (fun a hl hrun => (hh a hl hrun).free) id)
  · exact Logic.safe_of_uses (uses_loadEligibleReverseSwap free_plain id)
  refine wp_approved hh (fun t h hA => wp_loadEligibleReverseSwap hload hA)
    (fun swap => (hspec swap).steady_ready) hres (fun swap approval t h hA => ?_) approval hA
  refine wp_quiet_bind (uses_ask (quiet_plain.ask _)) (hspec swap).steady_ready hA
    (fun resolved h' h'A => ?_) fun _ h' h'A => h'A.mono (hres swap)
  rw [Logic.wp_when]
  split
  · exact wp_lockup (hspec swap) hc hscan approval true h'A
  · exact h'A.mono (hres swap)

end send

theorem safe_emitInvoicePaid (hl : ∀ id, 𝓡.relevant (.invoiceAccepted id) = false)
    (hpaid : ∀ id, 𝓡.logic.Safe (invoicePaidHandler id)) (id : Nat) :
    𝓡.logic.Safe (emitInvoicePaid id) :=
  .bind (Logic.Safe.call (quiet_write (hl id) fun _ => ⟨rfl, rfl⟩).free) fun _ =>
    .spawn (hpaid id)

theorem reverseTasks_of_locked (hk : 𝓡.lock k = .reverseSwap)
    (hpaid : ∀ id, 𝓡.logic.Safe (emitInvoicePaid id))
    (hminer : ∀ swap, 𝓡.logic.Free (setStatusAct (.reverse swap) minerFeePaid none
      (.setMinerFeePaid swap.id)))
    (hinvoice : ∀ id, 𝓡.Locked k (expireInvoice id))
    (hsettle : ∀ id preimage, 𝓡.Locked k (settleReverseSwapInvoice id preimage))
    (hpre : ∀ (swap : Instance ReverseSwap) preimage,
      𝓡.logic.Free (reverseUpdateAct swap { swap.row with preimage := some preimage } .other))
    (hconfirm : ∀ id, 𝓡.Locked k (confirmReverseLockup id))
    (hexpire : ∀ swap, 𝓡.Locked k (expireReverseSwap swap)) : ReverseTasks 𝓡.SafeTask where
  accepted := safe_handleAcceptedInvoice hk hpaid hminer
  invoiceExpired id := (hinvoice id).safe hk
  claimed id preimage := (hsettle id preimage).safe hk
  signClaim := safe_signReverseSwapClaim hk hsettle hpre
  confirmed id := (hconfirm id).safe hk
  expired swap := (hexpire swap).safe hk

/-! ## Tasks about chain swaps -/

/-- A chain swap that `getChainSwapForLockup` returns. -/
def lockable (swap : ChainSwap) (event : Option (Nat × Nat)) : Bool :=
  !finalChainSwapEvents.contains swap.status &&
    actionableChainSwapLockupStatuses.contains swap.status && !swap.createdRefundSignature &&
    swap.sendingData.transactionId.isNone && !ownedByAnother swap event

section send

variable {ready sending : Instance ChainSwap → Obs V Label World Answer → Prop}
  {sent : Instance ChainSwap → SendResult → Obs V Label World Answer → Prop}

theorem wp_getChainSwapForLockup {t : Nat} {h : History} {id : Nat} {event : Option (Nat × Nat)}
    (hread : 𝓡.Does [k] (𝓡.Res k) (readAct (.loadLockup id) fun w => w.chainSwaps.byId id)
      fun found o => 𝓡.Res k o ∧ ∀ swap, found = some swap → lockable swap.row event = true →
        ready swap o) (hA : 𝓡.On [k] (𝓡.Res k) t h) :
    𝓡.logic.wp (getChainSwapForLockup id event (.loadLockup id)) t (𝓡.loaded k ready t) h := by
  refine Guarded.wp_does_bind hread steady_own hA fun found h' h'A => ?_
  cases found with
  | none => exact h'A.mono fun _ ho => ho.1
  | some swap =>
    dsimp only
    split_ifs with h₁ h₂ h₃ h₄ h₅
    · exact h'A.mono fun _ ho => ho.1
    · exact h'A.mono fun _ ho => ho.1
    · exact h'A.mono fun _ ho => ho.1
    · exact h'A.mono fun _ ho => ho.1
    · exact h'A.mono fun _ ho => ho.1
    · refine h'A.mono fun _ ho => ho.2 swap rfl ?_
      simp_all [lockable]

/-- The handlers of a user lockup of a chain swap, by the states of the lockup of the server. -/
theorem safe_chainSwapLockup (hk : 𝓡.lock k = .chainSwap) (hh : Holds fun a => 𝓡.Quiet a)
    (hc : 𝓡.IgnoresClaims) (hscan : 𝓡.logic.Safe scanPendingTransactions) {id : Nat}
    {event : Option (Nat × Nat)}
    (hread : 𝓡.Does [k] (𝓡.Res k) (readAct (.loadLockup id) fun w => w.chainSwaps.byId id)
      fun found o => 𝓡.Res k o ∧ ∀ swap, found = some swap → lockable swap.row event = true →
        ready swap o)
    (hspec : ∀ swap, 𝓡.LockupSpec [k] (.chain swap) (ready swap) (sending swap) (sent swap)
      (𝓡.Res k))
    (hres : ∀ swap o, ready swap o → 𝓡.Res k o) : 𝓡.logic.Safe (chainSwapLockup id event) := by
  refine safe_withSendApproval hk ?_ ?_ fun approval t h hA => ?_
  · exact closed (uses_removeHold (fun a hl hrun => (hh a hl hrun).free) id)
  · exact Logic.safe_of_uses (uses_getChainSwapForLockup free_plain.read event)
  refine wp_approved hh (fun t h hA => wp_getChainSwapForLockup hread hA)
    (fun swap => (hspec swap).steady_ready) hres (fun swap approval t h hA => ?_) approval hA
  exact wp_lockup (hspec swap) hc hscan approval false hA

end send

/-- The checks of user lockups by the three nurseries. -/
structure ChainChecks (C : M Unit → Prop) : Prop where
  utxo : ∀ symbol address transactionId status,
    C (UtxoNursery.checkChainSwap symbol address transactionId status)
  evm : ∀ preimageHash values, C (EthereumNursery.chainLockupEvent preimageHash values)
  ark : ∀ vHtlc, C (ArkNursery.checkChainSwapLockup vHtlc {})

theorem chainChecks_of_free (ht : ChainLockupTasks 𝓡.SafeTask)
    (hw : ∀ id incoming amount status,
      status ∈ [transactionConfirmed, transactionMempool, transactionLockupFailed] →
        𝓡.logic.Free (userLockupAct id incoming amount status {}))
    (hz : ∀ id incoming, 𝓡.logic.Free (zeroConfRejectedAct id incoming)) :
    ChainChecks 𝓡.SafeTask where
  utxo _ _ _ _ := closed (uses_checkChainSwap free_plain ht
    (fun id incoming amount status hs => hw id incoming amount status
      (by rcases hs with rfl | rfl <;> simp)) hz _ _ _ _)
  evm _ _ := closed (uses_chainLockupEvent free_plain ht
    (fun swap incoming amount status _ hs => hw swap.id incoming amount status
      (by rcases hs with rfl | rfl <;> simp)) _ _)
  ark _ := closed (uses_checkChainSwapLockupArk free_plain ht
    (fun swap incoming amount _ => hw swap.id incoming amount _ (by simp)) _)

theorem safe_signChainRefund (hlock : ∀ k, 𝓡.lock k ≠ .refundSignature)
    (hread : ∀ id, 𝓡.relevant (.signRefund .chain id) = false)
    (heligible : ∀ id, 𝓡.relevant (.refundEligible .chain id) = false)
    (hsigned : ∀ id, 𝓡.relevant (.refundSigned .chain id) = false)
    (hw : ∀ id, 𝓡.logic.Free (chainRefundSignedAct id)) (id : Nat) (backend : Backend) :
    𝓡.logic.Safe (ChainSwapSigner.signRefund id backend) := by
  refine closed (uses_signChainRefund free_plain (free_locks hlock) ⟨?_, ?_, ?_⟩ (hw id) backend)
  · exact fun f => (quiet_read (hread id) f).free
  · exact (quiet_write (heligible id) fun _ => ⟨rfl, rfl⟩).free
  · exact (quiet_write (hsigned id) fun _ => ⟨rfl, rfl⟩).free

theorem chainTasks_of_locked (hk : 𝓡.lock k = .chainSwap) (hc : 𝓡.IgnoresClaims)
    (hca : ClaimActs 𝓡.FreeAct) (hlockup : ChainLockupTasks 𝓡.SafeTask)
    (hcheck : ∀ symbol address transactionId status,
      𝓡.logic.Safe (UtxoNursery.checkChainSwap symbol address transactionId status))
    (hconfirm : ∀ id, 𝓡.Locked k (confirmChainLockup id))
    (hexpire : ∀ id, 𝓡.Locked k (expireChainSwap id))
    (hsettle : ∀ swap preimage, 𝓡.Locked k (attemptSettleSwap (.chain swap) (some preimage)))
    (hsign : ∀ id backend, 𝓡.logic.Safe (ChainSwapSigner.signRefund id backend))
    (hpre : ∀ (swap : Instance ChainSwap) preimage,
      𝓡.logic.Free (chainUpdateAct swap { swap.row with preimage := some preimage } .other)) :
    ChainTasks 𝓡.SafeTask where
  toChainLockupTasks := hlockup
  checkChainSwap := hcheck
  confirmed id := (hconfirm id).safe hk
  expired id := (hexpire id).safe hk
  claimed swap preimage := by
    refine Locked.safe ((hsettle swap preimage).bind fun _ => Locked.of_quiet ?_) hk
    exact uses_removeFromClaimable hc.quiet (hc.quiet_lock (by decide)) swap.id
  claimedEvm swap preimage := (hsettle swap preimage).safe hk
  signRefund := hsign
  claimChainSwap id preimage := closed (uses_claimChainSwap hca hc.session hpre id preimage)

end Rules

end Boltz

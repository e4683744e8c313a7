import Boltz.Logic.Uses.Requests
import Boltz.Logic.Uses.Reverse

/-!
# Framing

A statement about one kind of swap has nothing to do with the tasks of the other kinds. `Frame`
says that a predicate contains every act that stays within the rows of a kind; then all tasks of
the kind consist of such acts.
-/

namespace Boltz

open Async SwapUpdateEvent

/-! ## Labels by kind of swap -/

def ServerSwap.isReverse : ServerSwap → Bool
  | .reverse _ => true
  | .chain _ => false

def Label.isReverse : Label → Bool
  | .other | .expireReverseSwap _ | .setReverseSwapExpired _ | .setMinerFeePaid _
  | .invoiceAccepted _ => true
  | .beginLockup swap | .sendLockup swap => swap.isReverse
  | .confirmationTracker type _ => type == .reverseSubmarine
  | _ => false

def Label.isChain : Label → Bool
  | .other | .expireChainSwap _ | .setChainSwapExpired _ | .loadLockup _
  | .chainLockupConfirmed _ | .setZeroConfRejected _ | .settleChainSwap _ => true
  | .beginLockup swap | .sendLockup swap => !swap.isReverse
  | .confirmationTracker type _ | .signRefund type _ | .refundEligible type _
  | .setRefundSignatureCreated type _ | .refundSigned type _ => type == .chain
  | _ => false

def Label.isSubmarine : Label → Bool
  | .other | .payInvoice _ _ | .rejectSelfPayment _ _ | .abandonSelfPayment _ | .abandonSwap _
  | .fetchForPayment _ | .expireSwap _ | .lockupFailed _ | .setInvoicePending _
  | .sendPayment _ | .updateStatusIfMatches _ | .fetchForInvoice _ | .setInvoice _ _ _
  | .invoiceSet _ _ _ _ => true
  | .signRefund type _ | .refundEligible type _ | .setRefundSignatureCreated type _
  | .refundSigned type _ => type == .submarine
  | _ => false

/-! ## Frames -/

/-- Every act with such a label that changes only what `put` sets. -/
def Frame {T : Type} (isKind : Label → Bool) (put : T → World → World) (P : OnActs) : Prop :=
  ∀ {β : Type} (a : Act Label World Answer β), isKind a.label = true →
    (∀ t w ω b w', a.run t w ω = some (b, w') → ∃ x, w' = put x w) → P a

abbrev ReverseFrame (P : OnActs) : Prop :=
  Frame Label.isReverse (fun x w => { w with reverseSwaps := x }) P

abbrev ChainFrame (P : OnActs) : Prop :=
  Frame Label.isChain (fun x w => { w with chainSwaps := x }) P

abbrev SubmarineFrame (P : OnActs) : Prop :=
  Frame Label.isSubmarine
    (fun (x : Table Swap × List LightningPayment × List Nat) w =>
      { w with swaps := x.1, lightningPayments := x.2.1, allowedRefunds := x.2.2 }) P

section frame

variable {T : Type} {isKind : Label → Bool} {put : T → World → World} {P : OnActs} {l : Label}

theorem Frame.write (hf : Frame isKind put P) (hl : isKind l = true) {f : World → World}
    (hw : ∀ w, ∃ x, f w = put x w) : P (writeAct l f) := by
  refine hf _ hl fun t w ω b w' he => ?_
  cases he
  exact hw w

theorem Frame.mark (hf : Frame isKind put P) (hput : ∀ w, ∃ x, w = put x w)
    (hl : isKind l = true) : P (writeAct l fun w => w) :=
  hf.write hl hput

theorem Frame.read (hf : Frame isKind put P) (hput : ∀ w, ∃ x, w = put x w)
    (hl : isKind l = true) {β : Type} (f : World → β) : P (readAct l f) := by
  refine hf _ hl fun t w ω b w' he => ?_
  cases he
  exact hput w

theorem Frame.ask (hf : Frame isKind put P) (hput : ∀ w, ∃ x, w = put x w)
    (hl : isKind l = true) {β : Type} (f : Answer → Option β) : P (askAct l f) := by
  refine hf _ hl fun t w ω b w' he => ?_
  obtain ⟨_, _, rfl, rfl⟩ := by simpa [askAct] using he
  exact hput w

end frame

section kinds

variable {P : OnActs} {C : M Unit → Prop} {l : Label}

theorem ReverseFrame.update (hf : ReverseFrame P) (hl : l.isReverse = true)
    (swap : Instance ReverseSwap) (new : ReverseSwap) : P (reverseUpdateAct swap new l) :=
  hf.write hl fun _ => ⟨_, rfl⟩

theorem ChainFrame.update (hf : ChainFrame P) (hl : l.isChain = true)
    (swap : Instance ChainSwap) (new : ChainSwap) : P (chainUpdateAct swap new l) :=
  hf.write hl fun _ => ⟨_, rfl⟩

theorem SubmarineFrame.update (hf : SubmarineFrame P) (hl : l.isSubmarine = true)
    (swap : Instance Swap) (new : Swap) : P (swapUpdateAct swap new l) :=
  hf.write hl fun w => ⟨(_, w.lightningPayments, w.allowedRefunds), rfl⟩

theorem SubmarineFrame.payments (hf : SubmarineFrame P) : Payments P := by
  intro β a hl hrun
  refine hf a (by rw [hl]; rfl) fun t w ω b w' he => ?_
  obtain ⟨x, rfl⟩ := hrun t w ω b w' he
  exact ⟨(w.swaps, x, w.allowedRefunds), rfl⟩

/-! ## The tasks of the backend -/

/-- Tasks about both kinds of swaps in which the server locks up. -/
structure SharedTasks (C : M Unit → Prop) : Prop where
  approval : ∀ swapId promise, C (approvalTask swapId promise)
  scan : C scanPendingTransactions
  refundConfirmed : ∀ swap, C (refundConfirmed swap)

structure ReverseTasks (C : M Unit → Prop) : Prop where
  accepted : ∀ invoice, C (LightningNursery.handleAcceptedInvoice invoice)
  invoiceExpired : ∀ id, C (invoiceExpiredHandler id)
  claimed : ∀ id preimage, C (reverseSwapClaimed id preimage)
  signClaim : ∀ id preimage, C (signReverseSwapClaim id preimage)
  confirmed : ∀ id, C (reverseLockupConfirmed id)
  expired : ∀ swap, C (reverseSwapExpired swap)

structure ChainTasks (C : M Unit → Prop) : Prop extends ChainLockupTasks C where
  checkChainSwap : ∀ symbol address transactionId status,
    C (UtxoNursery.checkChainSwap symbol address transactionId status)
  confirmed : ∀ id, C (chainLockupConfirmed id)
  expired : ∀ id, C (chainSwapExpired id)
  claimed : ∀ swap preimage, C (chainSwapClaimed swap preimage)
  claimedEvm : ∀ swap preimage, C (chainSwapClaimedEvm swap preimage)
  signRefund : ∀ id backend, C (ChainSwapSigner.signRefund id backend)
  claimChainSwap : ∀ id preimage, C (SwapRouter.claimChainSwap id preimage)

/-- What an entry does to chain swaps that some statements exclude: renegotiation, and the lockup
events of the other nurseries. -/
structure ChainEntry (C : M Unit → Prop) (e : Entry) : Prop where
  quote : ∀ id fee serverLockAmount values status,
    e = .acceptQuote id fee serverLockAmount values status →
      C (Renegotiator.acceptQuote id fee serverLockAmount values status)
  evm : ∀ preimageHash values, e = .evmLockup preimageHash values →
    C (EthereumNursery.chainLockupEvent preimageHash values)
  ark : ∀ vHtlc, e = .vhtlcCreated vHtlc → C (ArkNursery.checkChainSwapLockup vHtlc {})

structure SubmarineTasks (C : M Unit → Prop) : Prop where
  checkSwap : ∀ address transactionId status,
    C (UtxoNursery.checkSwap address transactionId status)
  lockupEvent : ∀ preimageHash values, C (EthereumNursery.swapLockupEvent preimageHash values)
  checkArk : ∀ vHtlc, C (ArkNursery.checkSubmarineLockup vHtlc)
  expired : ∀ swap, C (swapExpiredHandler swap)
  retry : C retryPendingInvoices
  prune : ∀ swapId, C (withLock .swap (pruneStaleSubmarineHolds swapId))
  signRefund : ∀ id, C (MusigSigner.signRefund id)
  signRefundArk : ∀ id, C (MusigSigner.signRefundArk id)
  paymentResolved : ∀ paymentHash nodeId status error,
    C (PendingPaymentTracker.paymentResolved paymentHash nodeId status error)

/-- Requests about claims and rescues. -/
structure ClaimTasks (C : M Unit → Prop) : Prop where
  sweep : ∀ symbol, C (DeferredClaimer.sweepSymbol symbol)
  submarineDetails : ∀ id, C (SwapRouter.getSubmarineClaimDetails id)
  claimSubmarine : ∀ id, C (SwapRouter.claimSubmarine id)
  chainDetails : ∀ id, C (SwapRouter.getChainSwapClaimDetails id)
  createRescue : ∀ id, C (AssetRescue.create id)
  broadcastRescue : ∀ id, C (AssetRescue.broadcast id)
  expireRescue : ∀ id, C (AssetRescue.expire id)

/-! ## Tasks of a kind that is framed -/

/-- Acts on rows that no kind of swap owns. -/
structure Base (P : OnActs) : Prop where
  plain : Plain P
  holds : Holds P
  refunds : Refunds P
  claims : Claims P
  locks : ClaimLocks P

/-- `C` contains the programs whose acts are all in `P`. -/
def Closed (P : OnActs) (C : M Unit → Prop) : Prop := ∀ {m : M Unit}, m.Uses P C → C m

theorem lockupActs_reverse (hf : ReverseFrame P) (hscan : C scanPendingTransactions)
    (swap : Instance ReverseSwap) : LockupActs P C (.reverse swap) where
  begin := hf.mark (fun _ => ⟨_, rfl⟩) rfl
  send := hf.ask (fun _ => ⟨_, rfl⟩) rfl _
  sent _ _ _ _ := ReverseFrame.update hf rfl _ _
  failed := ReverseFrame.update hf rfl _ _
  scan := hscan

theorem invoicePaid_of_frame (hcl : Closed P C) (hb : Base P) (hlock : Locks P .reverseSwap)
    (hf : ReverseFrame P) (hs : SharedTasks C) (id : Nat) : C (invoicePaidHandler id) :=
  hcl (uses_invoicePaidHandler hb.plain hb.holds hb.claims hb.locks.chainSwapsToClaim hlock
    hs.approval (lockupActs_reverse hf hs.scan) id)

theorem reverseTasks_of_frame (hcl : Closed P C) (hb : Base P) (hlock : Locks P .reverseSwap)
    (hf : ReverseFrame P) (hs : SharedTasks C) : ReverseTasks C := by
  have hp := hb.plain
  have hpaid := invoicePaid_of_frame hcl hb hlock hf hs
  have hsettled : ∀ (swap : Instance ReverseSwap) preimage,
      P (reverseUpdateAct swap (swap.row.settled preimage) .other) := fun _ _ =>
    ReverseFrame.update hf rfl _ _
  have hminer : C minerFeeInvoicePaid := hcl (uses_withLock hlock trivial)
  refine ⟨fun invoice => ?_, fun id => ?_, fun id preimage => ?_, fun id preimage => ?_,
    fun id => ?_, fun swap => ?_⟩
  · exact hcl (uses_handleAcceptedInvoice hp (fun _ => hf.mark (fun _ => ⟨_, rfl⟩) rfl)
      (fun _ => ReverseFrame.update hf rfl _ _) hpaid hminer invoice)
  · exact hcl (uses_withLock hlock
      (uses_expireInvoice hp (fun _ _ => ReverseFrame.update hf rfl _ _) id))
  · exact hcl (uses_withLock hlock (uses_settleReverseSwapInvoice hp hsettled id preimage))
  · exact hcl (uses_signReverseSwapClaim hp hlock hsettled
      (fun _ _ => ReverseFrame.update hf rfl _ _) id preimage)
  · exact hcl (uses_withLock hlock
      (uses_confirmReverseLockup hp (fun _ => ReverseFrame.update hf rfl _ _) id))
  · refine hcl (uses_withLock hlock (uses_expireReverseSwap hp hb.refunds
      (fun f => hf.read (fun _ => ⟨_, rfl⟩) rfl f) ?_))
    exact ⟨ReverseFrame.update hf rfl _ _, fun _ _ => ReverseFrame.update hf rfl _ _,
      hs.refundConfirmed⟩

theorem lockupActs_chain (hf : ChainFrame P) (hscan : C scanPendingTransactions)
    (swap : Instance ChainSwap) : LockupActs P C (.chain swap) where
  begin := hf.mark (fun _ => ⟨_, rfl⟩) rfl
  send := hf.ask (fun _ => ⟨_, rfl⟩) rfl _
  sent _ _ _ _ := ChainFrame.update hf rfl _ _
  failed := ChainFrame.update hf rfl _ _
  scan := hscan

theorem userLockupAct_of_frame (hf : ChainFrame P) (id : Nat) (incoming : LockupIdentity)
    (amount : Nat) (status : SwapUpdateEvent) (options : ChainSwapRepository.Options) :
    P (userLockupAct id incoming amount status options) := by
  refine hf _ rfl fun t w ω b w' he => ?_
  simp only [userLockupAct] at he
  split at he <;> cases he
  · exact ⟨w.chainSwaps, rfl⟩
  · exact ⟨_, rfl⟩

theorem chainLockupTasks_of_frame (hcl : Closed P C) (hb : Base P) (hlock : Locks P .chainSwap)
    (hf : ChainFrame P) (hs : SharedTasks C) : ChainLockupTasks C where
  lockup _ event := hcl (uses_chainSwapLockup hb.plain hb.holds hb.claims
    hb.locks.chainSwapsToClaim hlock hs.approval (lockupActs_chain hf hs.scan)
    (fun f => hf.read (fun _ => ⟨_, rfl⟩) rfl f) event)
  failed _ _ :=
    hcl (uses_withLock hlock (uses_chainLockupFailed hb.plain (ChainFrame.update hf rfl _ _)))
  zeroConfRejected := hcl (uses_withLock hlock trivial)

theorem chainCheckActs_of_frame (hp : Plain P) (hf : ChainFrame P) (ht : ChainLockupTasks C)
    (options : ChainSwapRepository.Options) : ChainCheckActs P C options where
  plain := hp
  lockup _ _ _ _ _ := userLockupAct_of_frame hf _ _ _ _ _
  zeroConfRejected _ _ := hf.write rfl fun _ => ⟨_, rfl⟩
  tasks := ht

theorem chainTasks_of_frame (hcl : Closed P C) (hb : Base P) (hc : ClaimActs P)
    (hsess : SessionActs P) (hlock : Locks P .chainSwap) (hrefund : Locks P .refundSignature)
    (hf : ChainFrame P) (hs : SharedTasks C) : ChainTasks C := by
  have hp := hb.plain
  have ht := chainLockupTasks_of_frame hcl hb hlock hf hs
  refine ⟨ht, fun _ _ _ _ => ?_, fun _ => ?_, fun _ => ?_, fun _ _ => ?_, fun _ _ => ?_,
    fun _ _ => ?_, fun _ _ => ?_⟩
  · exact hcl (uses_checkChainSwap hp ht (fun _ _ _ _ _ => userLockupAct_of_frame hf _ _ _ _ _)
      (fun _ _ => hf.write rfl fun _ => ⟨_, rfl⟩) _ _ _ _)
  · exact hcl (uses_withLock hlock
      (uses_confirmChainLockup hp fun _ => ChainFrame.update hf rfl _ _))
  · refine hcl (uses_withLock hlock (uses_expireChainSwap hp hb.refunds
      (fun f => hf.read (fun _ => ⟨_, rfl⟩) rfl f) fun _ => ?_))
    exact ⟨ChainFrame.update hf rfl _ _, fun _ _ => ChainFrame.update hf rfl _ _,
      hs.refundConfirmed⟩
  · exact hcl (uses_chainSwapClaimed hc hlock _ _)
  · exact hcl (uses_chainSwapClaimedEvm hc hlock _ _)
  · refine hcl (uses_signChainRefund hp hrefund ⟨fun f => ?_, ?_, ?_⟩ ?_ _)
    · exact hf.read (fun _ => ⟨_, rfl⟩) rfl f
    · exact hf.mark (fun _ => ⟨_, rfl⟩) rfl
    · exact hf.mark (fun _ => ⟨_, rfl⟩) rfl
    · exact hf.write rfl fun _ => ⟨_, rfl⟩
  · exact hcl (uses_claimChainSwap hc hsess (fun _ _ => ChainFrame.update hf rfl _ _) _ _)

theorem chainEntry_of_frame (hcl : Closed P C) (hb : Base P) (hrefund : Locks P .refundSignature)
    (hf : ChainFrame P) (ht : ChainLockupTasks C) (e : Entry) : ChainEntry C e where
  quote _ _ _ _ _ _ := hcl (uses_acceptQuote (chainCheckActs_of_frame hb.plain hf ht _) hrefund
    (fun _ _ _ _ _ => ChainFrame.update hf rfl _ _) _ _ _ _ _)
  evm _ _ _ := hcl (uses_chainLockupEvent hb.plain ht
    (fun _ _ _ _ _ _ => userLockupAct_of_frame hf _ _ _ _ _) _ _)
  ark _ _ := hcl (uses_checkChainSwapLockupArk hb.plain ht
    (fun _ _ _ _ => userLockupAct_of_frame hf _ _ _ _ _) _)

theorem paymentActs_of_frame (hf : SubmarineFrame P)
    (hacc : ∀ invoice, C (LightningNursery.htlcAccepted invoice)) (id : Nat) :
    PaymentActs P C id where
  read _ _ f := hf.read (fun _ => ⟨(_, _, _), rfl⟩) rfl f
  ask _ _ f := hf.ask (fun _ => ⟨(_, _, _), rfl⟩) rfl f
  mark := hf.mark (fun _ => ⟨(_, _, _), rfl⟩) rfl
  reject _ := hf.mark (fun _ => ⟨(_, _, _), rfl⟩) rfl
  update swap new l _ hl := by
    refine SubmarineFrame.update hf ?_ swap new
    simp only [List.mem_cons, List.not_mem_nil, or_false] at hl
    rcases hl with rfl | rfl | rfl | rfl <;> rfl
  accepted := hacc

theorem payerActs_of_frame (hb : Base P) (hc : ClaimActs P) (hlock : Locks P .swap)
    (hf : SubmarineFrame P) (hacc : ∀ invoice, C (LightningNursery.htlcAccepted invoice)) :
    PayerActs P C where
  claim := hc
  holds := hb.holds
  payments := SubmarineFrame.payments hf
  pay := paymentActs_of_frame hf hacc
  fetch _ _ f := hf.read (fun _ => ⟨(_, _, _), rfl⟩) rfl f
  rate _ _ := SubmarineFrame.update hf rfl _ _
  lock := hlock

theorem swapLockupAct_of_frame (hf : SubmarineFrame P) (id : Nat) (incoming : LockupIdentity)
    (amount : Nat) (status : SwapUpdateEvent) : P (swapLockupAct id incoming amount status) := by
  refine hf _ rfl fun t w ω b w' he => ?_
  simp only [swapLockupAct] at he
  split at he <;> cases he
  · exact ⟨(w.swaps, w.lightningPayments, w.allowedRefunds), rfl⟩
  · exact ⟨(_, w.lightningPayments, w.allowedRefunds), rfl⟩

theorem refundActs_of_frame (hf : SubmarineFrame P) (id : Nat) : RefundActs P .submarine id where
  read f := hf.read (fun _ => ⟨(_, _, _), rfl⟩) rfl f
  eligible := hf.mark (fun _ => ⟨(_, _, _), rfl⟩) rfl
  signed := hf.mark (fun _ => ⟨(_, _, _), rfl⟩) rfl

theorem submarineTasks_of_frame (hcl : Closed P C) (hb : Base P) (hc : ClaimActs P)
    (hlock : Locks P .swap) (hf : SubmarineFrame P)
    (hacc : ∀ invoice, C (LightningNursery.htlcAccepted invoice)) : SubmarineTasks C := by
  have hp := hb.plain
  have hpay := payerActs_of_frame hb hc hlock hf hacc
  have hrate : ∀ (swap : Instance Swap) rate,
      P (swapUpdateAct swap { swap.row with rate := some rate } .other) := fun _ _ =>
    SubmarineFrame.update hf rfl _ _
  have hcheck : SwapCheckActs P C :=
    { plain := hp
      lockup := fun _ _ _ _ _ => swapLockupAct_of_frame hf _ _ _ _
      zeroConfRejected := fun _ _ =>
        hf.write rfl fun w => ⟨(_, w.lightningPayments, w.allowedRefunds), rfl⟩
      refundAddress := fun _ _ => SubmarineFrame.update hf rfl _ _
      failed := fun _ _ => hcl (uses_swapLockupFailed hlock
        (fun f => hf.read (fun _ => ⟨(_, _, _), rfl⟩) rfl f) (SubmarineFrame.update hf rfl _ _))
      rejected := fun _ => hcl (uses_swapZeroConfRejected hp hlock hrate _)
      utxo := fun _ _ _ => hcl (uses_nurserySwapLockup hpay (uses_claimUtxo hc) _ _ _)
      ark := fun _ _ _ => hcl (uses_nurserySwapLockup hpay (uses_claimVtxo hc) _ _ _)
      evm := fun _ _ _ => hcl (uses_evmSwapLockup hpay _ _ _) }
  refine ⟨fun _ _ _ => ?_, fun _ _ => ?_, fun _ => ?_, fun _ => ?_, ?_, fun _ => ?_, fun _ => ?_,
    fun _ => ?_, fun _ _ _ _ => ?_⟩
  · exact hcl (uses_checkSwap hcheck _ _ _)
  · exact hcl (uses_swapLockupEvent hcheck _ _)
  · exact hcl (uses_checkSubmarineLockup hcheck _)
  · exact hcl (uses_swapExpiredHandler hlock
      (fun f => hf.read (fun _ => ⟨(_, _, _), rfl⟩) rfl f) (SubmarineFrame.update hf rfl _ _))
  · exact hcl (uses_retryPendingInvoices hpay)
  · exact hcl (uses_withLock hlock (uses_pruneStaleSubmarineHolds hp hb.holds _))
  · exact hcl (uses_signRefund hp (refundActs_of_frame hf _)
      (hf.write rfl fun w => ⟨(_, w.lightningPayments, w.allowedRefunds), rfl⟩))
  · exact hcl (uses_signRefundArk hp (refundActs_of_frame hf _)
      (hf.write rfl fun w => ⟨(_, w.lightningPayments, w.allowedRefunds), rfl⟩))
  · exact hcl (uses_setPaymentStatus (SubmarineFrame.payments hf) _ _ _ _)

theorem allowRefund_of_frame (hcl : Closed P C) (hp : Plain P) (hf : SubmarineFrame P)
    (id : Nat) : C (MusigSigner.allowRefund id) :=
  hcl (uses_allowRefund hp (fun _ => hf.write rfl fun w => ⟨(w.swaps, w.lightningPayments, _), rfl⟩)
    id)

theorem claimActs_of_chain (hb : Base P) (hs : SubmarineFrame P)
    (hclaimed : ∀ (swap : Instance ChainSwap) preimage minerFee,
      P (chainUpdateAct swap (swap.row.claimed preimage minerFee) (.settleChainSwap swap.id)))
    (hpending : ∀ (swap : Instance ChainSwap) preimage,
      P (chainUpdateAct swap (swap.row.claimPending preimage) (.settleChainSwap swap.id))) :
    ClaimActs P where
  plain := hb.plain
  claims := hb.claims
  locks := hb.locks
  claimed swap preimage minerFee := by
    cases swap with
    | submarine swap => exact SubmarineFrame.update hs rfl _ _
    | chain swap => exact hclaimed swap preimage minerFee
  pending swap preimage := by
    cases swap with
    | submarine swap => exact SubmarineFrame.update hs rfl _ _
    | chain swap => exact hpending swap preimage

theorem claimActs_of_frames (hb : Base P) (hc : ChainFrame P) (hs : SubmarineFrame P) :
    ClaimActs P :=
  claimActs_of_chain hb hs (fun _ _ _ => ChainFrame.update hc rfl _ _)
    fun _ _ => ChainFrame.update hc rfl _ _

theorem claimTasks_of_acts (hcl : Closed P C) (hc : ClaimActs P) (hs : SessionActs P) :
    ClaimTasks C where
  sweep _ := hcl (uses_sweepSymbol hc.plain hc.claims hc.locks hc.claimed _)
  submarineDetails _ := hcl (uses_getSubmarineClaimDetails hc _)
  claimSubmarine _ := hcl (uses_claimSubmarine hc hs _)
  chainDetails _ := hcl (uses_getChainSwapClaimDetails hc _)
  createRescue _ := hcl (uses_createRescue hc.plain hc.claims _)
  broadcastRescue _ := hcl (uses_broadcastRescue hc.plain hc.claims hs _)
  expireRescue _ := hcl (uses_expireRescue hc.claims _)

end kinds

end Boltz

import Boltz.Logic.Uses.Lockups

/-!
# Acts of the tasks about reverse swaps
-/

namespace Boltz

open Async SwapUpdateEvent

variable {P : OnActs} {C : M Unit → Prop}

/-! ## Reverse swaps -/

theorem uses_loadEligibleReverseSwap (hp : Plain P) (id : Nat) :
    (loadEligibleReverseSwap id).Uses P C := by
  refine .bind (uses_read (hp.read _)) fun swap => ?_
  split
  · trivial
  · split <;> trivial

theorem uses_lockupReverseSwap (hp : Plain P) (hc : Claims P) (hlock : Locks P .chainSwapsToClaim)
    {swap : Instance ReverseSwap} (ha : LockupActs P C (.reverse swap))
    (approval : SendApprovalAction) : (lockupReverseSwap swap approval).Uses P C :=
  .bind (uses_ask (hp.ask _)) fun _ => .when _ (uses_lockup hp hc hlock ha approval true)

theorem uses_invoicePaidHandler (hp : Plain P) (hh : Holds P) (hc : Claims P)
    (hclaim : Locks P .chainSwapsToClaim) (hlock : Locks P .reverseSwap)
    (hC : ∀ i p, C (approvalTask i p)) (ha : ∀ swap, LockupActs P C (.reverse swap)) (id : Nat) :
    (invoicePaidHandler id).Uses P C :=
  uses_withSendApproval hp hh hC (fun _ _ => uses_loadEligibleReverseSwap hp id) hlock
    fun swap approval =>
    uses_lockupReverseSwap hp hc hclaim (ha swap) approval

theorem uses_emitInvoicePaid (id : Nat) (hm : P (writeAct (.invoiceAccepted id) fun w => w))
    (hC : C (invoicePaidHandler id)) : (emitInvoicePaid id).Uses P C :=
  .bind (uses_mark hm) fun _ => uses_spawn hC

theorem uses_handleAcceptedInvoice (hp : Plain P)
    (hm : ∀ id, P (writeAct (.invoiceAccepted id) fun w => w))
    (hw : ∀ swap, P (setStatusAct (.reverse swap) minerFeePaid none (.setMinerFeePaid swap.id)))
    (hC : ∀ id, C (invoicePaidHandler id)) (hC' : C minerFeeInvoicePaid) (invoice : Nat) :
    (LightningNursery.handleAcceptedInvoice invoice).Uses P C := by
  refine .bind (uses_read (hp.read _)) fun swap => ?_
  split
  · trivial
  · split
    · refine .when _ (.bind (.when _ (uses_external hp)) fun _ => ?_)
      exact uses_emitInvoicePaid _ (hm _) (hC _)
    · refine .bind (uses_setStatus (hw _)) fun _ => .bind (uses_spawn hC') fun _ => ?_
      refine .bind (uses_external hp) fun _ => .bind (uses_ask (hp.ask _)) fun _ => .when _ ?_
      exact .bind (uses_external hp) fun _ => uses_emitInvoicePaid _ (hm _) (hC _)

theorem uses_htlcAccepted (hp : Plain P) {invoice : Nat}
    (hC : C (LightningNursery.handleAcceptedInvoice invoice)) :
    (LightningNursery.htlcAccepted invoice).Uses P C :=
  uses_withLock (hp.locks rfl) (.bind (uses_spawn hC) fun _ =>
    .bind (uses_ask (hp.ask _)) fun _ => trivial)

theorem uses_lookupExpiredInvoice (hp : Plain P) : lookupExpiredInvoice.Uses P C := by
  refine .bind (uses_ask (hp.ask _)) fun r => ?_
  split
  · trivial
  · trivial
  · trivial
  · exact .bind (uses_cancelReverseInvoices hp) fun _ => trivial

/-- What the lookup of an expired invoice says. -/
theorem uses_expiredInvoiceCancelled (hp : Plain P) :
    (lookupExpiredInvoice.catching fun _ => ask Answer.flag?).Uses P C :=
  .catching (uses_lookupExpiredInvoice hp) fun _ => uses_ask (hp.ask _)

theorem uses_expireInvoice (hp : Plain P)
    (hw : ∀ swap : Instance ReverseSwap, swap.row.status = swapCreated →
      P (setStatusAct (.reverse swap) invoiceExpired none .other)) (id : Nat) :
    (expireInvoice id).Uses P C := by
  refine .bind (uses_read (hp.read _)) fun swap => ?_
  split
  · trivial
  · rename_i swap
    split
    · trivial
    · rename_i hs
      refine .bind (uses_ask (hp.ask _)) fun _ => .when _ ?_
      refine .bind (uses_expiredInvoiceCancelled hp) fun _ => .when _ ?_
      exact .bind (uses_setStatus (hw swap (not_not.mp hs))) fun _ => trivial

theorem uses_checkExpiredInvoices (hp : Plain P) (hC : ∀ id, C (invoiceExpiredHandler id)) :
    InvoiceNursery.checkExpiredInvoices.Uses P C := by
  refine .bind (uses_read (hp.read _)) fun pending => .forEach fun swap => ?_
  exact .bind (uses_ask (hp.ask _)) fun _ => .when _ (uses_spawn (hC _))

/-- The row after `setInvoiceSettled`. -/
def ReverseSwap.settled (preimage : Nat) (s : ReverseSwap) : ReverseSwap :=
  { s with preimage := some preimage, status := invoiceSettled }

theorem uses_settleReverseSwapInvoice (hp : Plain P)
    (hw : ∀ swap preimage, P (reverseUpdateAct swap (swap.row.settled preimage) .other))
    (id preimage : Nat) : (settleReverseSwapInvoice id preimage).Uses P C := by
  refine .bind (uses_read (hp.read _)) fun swap => ?_
  split
  · trivial
  · split
    · trivial
    · refine .catching (.bind (uses_external hp) fun _ => ?_) fun _ => trivial
      refine .bind (uses_read (hp.read _)) fun submarine => .bind ?_ fun _ => ?_
      · split
        · exact .catching (uses_cancelReverseInvoices hp) fun _ => trivial
        · exact uses_external hp
      · exact .bind (uses_update_reverse (hw _ _)) fun _ => trivial

theorem uses_checkReverseSwapClaim (hp : Plain P) (hC : ∀ id p, C (reverseSwapClaimed id p))
    (input : UtxoNursery.SpentInput) : (UtxoNursery.checkReverseSwapClaim input).Uses P C := by
  refine .bind (uses_read (hp.read _)) fun swap => ?_
  split
  · trivial
  · split
    · exact uses_spawn (hC _ _)
    · trivial

theorem uses_evmReverseClaim (hp : Plain P) (hC : ∀ id p, C (reverseSwapClaimed id p))
    (preimageHash preimage : Nat) : (evmReverseClaim preimageHash preimage).Uses P C := by
  refine .bind (uses_read (hp.read _)) fun swap => ?_
  split
  · trivial
  · exact uses_spawn (hC _ _)

theorem uses_arkReverseClaim (hp : Plain P) (hC : ∀ id p, C (reverseSwapClaimed id p))
    (txid vout preimage : Nat) : (arkReverseClaim txid vout preimage).Uses P C := by
  refine .bind (uses_read (hp.read _)) fun swap => ?_
  split
  · trivial
  · exact .bind (uses_ask (hp.ask _)) fun _ => .when _ (uses_spawn (hC _ _))

/-- The part of `signReverseSwapClaim` that stores the preimage; `body` is what it does with the
nursery lock. -/
theorem uses_signReverseSwapClaim (hp : Plain P) (hlock : Locks P .reverseSwap)
    (hw : ∀ swap preimage, P (reverseUpdateAct swap (swap.row.settled preimage) .other))
    (hpre : ∀ (swap : Instance ReverseSwap) preimage,
      P (reverseUpdateAct swap { swap.row with preimage := some preimage } .other))
    (id preimage : Nat) : (signReverseSwapClaim id preimage).Uses P C := by
  refine uses_withLock (hp.locks rfl) (.bind (uses_read (hp.read _)) fun swap => ?_)
  split
  · trivial
  · refine .bind (uses_ask (hp.ask _)) fun _ => .bind (.throwIf _ _) fun _ => ?_
    refine .bind (.throwIf _ _) fun _ => .bind (uses_ask (hp.ask _)) fun _ => ?_
    refine .bind (.throwIf _ _) fun _ => .bind (uses_update_server (hpre _ _)) fun _ => ?_
    refine uses_withLock hlock (.bind (.when _ ?_) fun _ => uses_external hp)
    exact uses_settleReverseSwapInvoice hp hw _ _

theorem uses_confirmReverseLockup (hp : Plain P)
    (hw : ∀ swap, P (setStatusAct (.reverse swap) transactionConfirmed none .other))
    (id : Nat) : (confirmReverseLockup id).Uses P C := by
  refine .bind (uses_read (hp.read _)) fun swap => ?_
  split
  · trivial
  · split
    · trivial
    · exact .bind (uses_setStatus (hw _)) fun _ => trivial

theorem uses_checkReverseMempool (hp : Plain P) (hC : ∀ id, C (reverseLockupConfirmed id))
    (symbol : Nat) : (UtxoNursery.checkReverseMempool symbol).Uses P C := by
  refine uses_withLock (hp.locks rfl) (.bind (uses_read (hp.read _)) fun swaps => ?_)
  refine .forEach fun swap => .when _ (.bind (uses_ask (hp.ask _)) fun c => ?_)
  split
  · trivial
  · exact .when _ (uses_spawn (hC _))

theorem uses_checkExpiredReverseSwaps (hp : Plain P) (hC : ∀ swap, C (reverseSwapExpired swap))
    (watches : Currency → Bool) (height : Nat) :
    (checkExpiredReverseSwaps watches height).Uses P C :=
  .bind (uses_read (hp.read _)) fun _ => .forEach fun swap => .when _ (uses_spawn (hC swap))

end Boltz

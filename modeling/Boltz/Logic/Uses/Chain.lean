import Boltz.Logic.Uses.Lockups

/-!
# Acts of the tasks about chain swaps
-/

namespace Boltz

open Async SwapUpdateEvent

variable {P : OnActs} {C : M Unit → Prop}

/-! ## Chain swaps -/

theorem uses_getChainSwapForLockup {id : Nat} {l : Label}
    (hread : ∀ {β : Type} (f : World → β), P (readAct l f)) (event : Option (Nat × Nat)) :
    (getChainSwapForLockup id event l).Uses P C := by
  refine .bind (uses_read (hread _)) fun swap => ?_
  split
  · trivial
  · split_ifs <;> trivial

theorem uses_chainSwapLockup (hp : Plain P) (hh : Holds P) (hc : Claims P)
    (hclaim : Locks P .chainSwapsToClaim) (hlock : Locks P .chainSwap)
    (hC : ∀ i p, C (approvalTask i p)) (ha : ∀ swap, LockupActs P C (.chain swap)) {id : Nat}
    (hread : ∀ {β : Type} (f : World → β), P (readAct (.loadLockup id) f))
    (event : Option (Nat × Nat)) : (chainSwapLockup id event).Uses P C := by
  refine uses_withSendApproval hp hh hC (fun l hl => ?_) hlock fun swap approval =>
    uses_lockup hp hc hclaim (ha swap) approval false
  rcases hl with rfl | rfl
  · exact uses_getChainSwapForLockup hp.read event
  · exact uses_getChainSwapForLockup hread event

theorem uses_chainLockupFailed (hp : Plain P) {swap : Instance ChainSwap} {reason : SwapError}
    (hw : P (setStatusAct (.chain swap) transactionLockupFailed (some reason) .other)) :
    (chainLockupFailed swap reason).Uses P C := by
  refine .bind (uses_read (hp.read _)) fun loaded => ?_
  split
  · trivial
  · split
    · trivial
    · exact .bind (uses_setStatus hw) fun _ => trivial

theorem uses_checkAmount (hp : Plain P) (expectedAmount outputValue : Nat) :
    (checkAmount expectedAmount outputValue).Uses P C := by
  unfold checkAmount
  split
  · trivial
  · exact .bind (uses_ask (hp.ask _)) fun _ => trivial

theorem uses_rejectsZeroConf (hp : Plain P) (acceptZeroConf : Bool)
    (status : TransactionStatus) :
    (UtxoNursery.rejectsZeroConf acceptZeroConf status).Uses P C := by
  unfold UtxoNursery.rejectsZeroConf
  split
  · trivial
  · split
    · trivial
    · refine .bind (uses_ask (hp.ask _)) fun _ => ?_
      split
      · trivial
      · refine .bind (uses_external hp) fun _ => .bind (uses_ask (hp.ask _)) fun _ => ?_
        split
        · trivial
        · exact .bind (uses_ask (hp.ask _)) fun _ => trivial

/-- The transaction of `setUserLockupTransaction`. -/
def userLockupAct (id : Nat) (incoming : LockupIdentity) (amount : Nat)
    (status : SwapUpdateEvent) (options : ChainSwapRepository.Options) :
    Act Label World Answer LockupWriteOutcome where
  label := .other
  run := fun _ w _ => match w.chainSwaps.get id with
    | none => some (LockupWriteOutcome.rejected, w)
    | some row =>
      let r := ChainSwapRepository.userLockupWrite row incoming amount status options
      some (r.1, { w with chainSwaps := w.chainSwaps.modify id fun _ => r.2 })

theorem uses_setUserLockupTransaction (hp : Plain P) {swap : Instance ChainSwap}
    {incoming : LockupIdentity} {amount : Nat} {status : SwapUpdateEvent}
    {options : ChainSwapRepository.Options}
    (hw : P (userLockupAct swap.id incoming amount status options)) :
    (ChainSwapRepository.setUserLockupTransaction swap incoming amount status options).Uses P C :=
  .bind (uses_call hw) fun _ => .bind (uses_read (hp.read _)) fun _ => trivial

/-- The transaction of `setZeroConfRejected`. -/
def zeroConfRejectedAct (id : Nat) (incoming : LockupIdentity) : Act Label World Answer Unit :=
  writeAct (.setZeroConfRejected id) fun w =>
    { w with
      chainSwaps :=
        w.chainSwaps.modify id (ChainSwapRepository.zeroConfRejectedWrite · incoming) }

theorem uses_setZeroConfRejected (hp : Plain P) {swap : Instance ChainSwap}
    {incoming : LockupIdentity} (hw : P (zeroConfRejectedAct swap.id incoming)) :
    (ChainSwapRepository.setZeroConfRejected swap incoming).Uses P C :=
  .bind (uses_write hw) fun _ => .bind (uses_read (hp.read _)) fun _ => trivial

/-- The tasks that a user lockup of a chain swap starts. -/
structure ChainLockupTasks (C : M Unit → Prop) : Prop where
  lockup : ∀ id event, C (chainSwapLockup id event)
  failed : ∀ swap reason, C (chainSwapLockupFailed swap reason)
  zeroConfRejected : C chainZeroConfRejected

theorem uses_checkChainSwapOutput (hp : Plain P) (hC : ChainLockupTasks C)
    {swap : Instance ChainSwap} {options : ChainSwapRepository.Options}
    {transactionId vout outputValue : Nat}
    (hw : ∀ status, status = transactionConfirmed ∨ status = transactionMempool →
      P (userLockupAct swap.id ⟨transactionId, some vout⟩ outputValue status options))
    (hz : ∀ id incoming, P (zeroConfRejectedAct id incoming)) (status : TransactionStatus) :
    (UtxoNursery.checkChainSwapOutput swap transactionId vout outputValue status options).Uses
      P C := by
  unfold UtxoNursery.checkChainSwapOutput
  dsimp only
  split
  · trivial
  refine .bind (uses_setUserLockupTransaction hp (hw _ ?_)) fun r => ?_
  · split <;> simp
  obtain ⟨outcome, swap⟩ := r
  dsimp only
  split
  · trivial
  split
  · trivial
  refine .bind (uses_checkAmount hp _ _) fun reason => ?_
  split
  · exact uses_spawn (hC.failed _ _)
  refine .bind (uses_ask (hp.ask _)) fun _ => ?_
  split
  · exact uses_spawn (hC.failed _ _)
  split
  · exact uses_spawn (hC.lockup _ _)
  refine .bind (uses_rejectsZeroConf hp _ _) fun _ => ?_
  split
  · refine .bind (uses_setZeroConfRejected hp (hz _ _)) fun _ => ?_
    exact .when _ (uses_spawn hC.zeroConfRejected)
  · exact uses_spawn (hC.lockup _ _)

theorem uses_checkChainSwapTransaction (hp : Plain P) (hC : ChainLockupTasks C)
    {swap : Instance ChainSwap} {options : ChainSwapRepository.Options}
    (hw : ∀ id incoming amount status, status = transactionConfirmed ∨ status = transactionMempool →
      P (userLockupAct id incoming amount status options))
    (hz : ∀ id incoming, P (zeroConfRejectedAct id incoming)) (transactionId : Nat)
    (status : TransactionStatus) :
    (UtxoNursery.checkChainSwapTransaction swap transactionId status options).Uses P C := by
  refine .bind (uses_read (hp.read _)) fun output => ?_
  split
  · trivial
  · exact uses_checkChainSwapOutput hp hC (fun status hs => hw _ _ _ status hs) hz status

theorem uses_checkChainSwap (hp : Plain P) (hC : ChainLockupTasks C)
    (hw : ∀ id incoming amount status, status = transactionConfirmed ∨ status = transactionMempool →
      P (userLockupAct id incoming amount status {}))
    (hz : ∀ id incoming, P (zeroConfRejectedAct id incoming))
    (symbol address transactionId : Nat) (status : TransactionStatus) :
    (UtxoNursery.checkChainSwap symbol address transactionId status).Uses P C := by
  refine .bind (uses_read (hp.read _)) fun swap => ?_
  split
  · trivial
  · exact .when _ (uses_checkChainSwapTransaction hp hC hw hz _ _)

theorem uses_validateLockup (hp : Plain P) (values : EvmLockup) (timeoutBlockHeight : Nat)
    (expectedAmount : Option Nat) :
    (EthereumNursery.validateLockup values timeoutBlockHeight expectedAmount).Uses P C := by
  unfold EthereumNursery.validateLockup
  split
  · trivial
  · refine .bind (uses_ask (hp.ask _)) fun _ => ?_
    split
    · trivial
    split
    · trivial
    refine .bind ?_ fun reason => ?_
    · unfold EthereumNursery.checkAmount
      split
      · trivial
      split
      · trivial
      · exact .bind (uses_ask (hp.ask _)) fun _ => trivial
    · split
      · trivial
      · exact .bind (uses_ask (hp.ask _)) fun _ => trivial

theorem uses_checkChainSwapLockupEvm (hp : Plain P) (hC : ChainLockupTasks C)
    {swap : Instance ChainSwap} {options : ChainSwapRepository.Options}
    (hw : ∀ incoming amount status,
      swap.row.receivingData.currency.type.backend = .evm →
      status = transactionConfirmed ∨ status = transactionLockupFailed →
      P (userLockupAct swap.id incoming amount status options)) (values : EvmLockup) :
    (EthereumNursery.checkChainSwapLockup swap values options).Uses P C := by
  unfold EthereumNursery.checkChainSwapLockup Prog.when
  split
  · rename_i hevm
    refine uses_withLock (hp.locks rfl) ?_
    dsimp only
    split
    · trivial
    refine .bind (uses_validateLockup hp _ _ _) fun reason => ?_
    refine .bind (uses_setUserLockupTransaction hp (hw _ _ _ (by simpa using hevm) ?_))
      fun r => ?_
    · split <;> simp
    · obtain ⟨outcome, updated⟩ := r
      dsimp only
      split
      · trivial
      split
      · exact .when _ (uses_spawn (hC.failed _ _))
      · exact .when _ (uses_spawn (hC.lockup _ _))
  · trivial

theorem uses_chainLockupEvent (hp : Plain P) (hC : ChainLockupTasks C)
    (hw : ∀ (swap : Instance ChainSwap) incoming amount status,
      swap.row.receivingData.currency.type.backend = .evm →
      status = transactionConfirmed ∨ status = transactionLockupFailed →
      P (userLockupAct swap.id incoming amount status {})) (preimageHash : Nat)
    (values : EvmLockup) : (EthereumNursery.chainLockupEvent preimageHash values).Uses P C := by
  refine .bind (uses_read (hp.read _)) fun swap => ?_
  split
  · trivial
  · exact uses_checkChainSwapLockupEvm hp hC (hw _) values

theorem uses_checkChainSwapLockupArk (hp : Plain P) (hC : ChainLockupTasks C)
    {options : ChainSwapRepository.Options}
    (hw : ∀ (swap : Instance ChainSwap) incoming amount,
      swap.row.receivingData.currency.type.backend = .ark →
      P (userLockupAct swap.id incoming amount transactionConfirmed options))
    (vHtlc : CreatedVHtlc) : (ArkNursery.checkChainSwapLockup vHtlc options).Uses P C := by
  refine .bind (uses_read (hp.read _)) fun swap => ?_
  split
  · trivial
  · dsimp only
    split
    · trivial
    rename_i hark
    split
    · trivial
    refine .bind (uses_setUserLockupTransaction hp (hw _ _ _ (not_not.mp hark))) fun r => ?_
    obtain ⟨outcome, swap⟩ := r
    dsimp only
    split
    · trivial
    split
    · trivial
    split
    · exact uses_spawn (hC.failed _ _)
    refine .bind (uses_ask (hp.ask _)) fun _ => ?_
    split
    · exact uses_spawn (hC.failed _ _)
    · exact uses_spawn (hC.lockup _ _)

theorem uses_confirmChainLockup (hp : Plain P) {id : Nat}
    (hw : ∀ swap, P (setStatusAct (.chain swap) transactionServerConfirmed none
      (.chainLockupConfirmed id))) : (confirmChainLockup id).Uses P C := by
  refine .bind (uses_read (hp.read _)) fun swap => ?_
  split
  · trivial
  · split
    · trivial
    split
    · trivial
    · exact .bind (uses_setStatus (hw _)) fun _ => trivial

theorem uses_checkChainMempool (hp : Plain P) (hC : ∀ id, C (chainLockupConfirmed id))
    (symbol : Nat) : (UtxoNursery.checkChainMempool symbol).Uses P C := by
  refine uses_withLock (hp.locks rfl) (.bind (uses_read (hp.read _)) fun swaps => ?_)
  refine .forEach fun swap => .when _ (.bind (uses_ask (hp.ask _)) fun c => ?_)
  split
  · trivial
  · exact .when _ (uses_spawn (hC _))

theorem uses_checkExpiredChainSwaps (hp : Plain P) (hC : ∀ id, C (chainSwapExpired id))
    (watches : Currency → Bool) (height : Nat) :
    (checkExpiredChainSwaps watches height).Uses P C :=
  .bind (uses_read (hp.read _)) fun _ => .forEach fun _ => uses_spawn (hC _)

end Boltz

import Boltz.Logic.Uses.Lockups

/-!
# Acts of the cooperative and deferred claims
-/

namespace Boltz

open Async SwapUpdateEvent

variable {P : OnActs} {C : M Unit → Prop}

/-! ## Deferred and cooperative claims -/

/-- The row after `setMinerFee`. -/
def Swap.claimed (minerFee : Nat) (s : Swap) : Swap :=
  { s with minerFee := some minerFee, status := transactionClaimed }

/-- The row after `setClaimMinerFee`. -/
def ChainSwap.claimed (preimage minerFee : Nat) (s : ChainSwap) : ChainSwap :=
  { s with
    status := transactionClaimed
    preimage := some preimage
    receivingData := { s.receivingData with fee := some minerFee } }

/-- The write of `storeClaimed`. -/
def claimedAct (swap : ClaimSwap) (preimage minerFee : Nat) : Act Label World Answer Unit :=
  match swap with
  | .submarine swap => swapUpdateAct swap (swap.row.claimed minerFee) .other
  | .chain swap =>
    chainUpdateAct swap (swap.row.claimed preimage minerFee) (.settleChainSwap swap.id)

theorem uses_storeClaimed {swap : ClaimSwap} {preimage minerFee : Nat}
    (hw : P (claimedAct swap preimage minerFee)) :
    (storeClaimed swap preimage minerFee).Uses P C := by
  cases swap with
  | submarine swap => exact .bind (uses_update_swap hw) fun _ => trivial
  | chain swap => exact .bind (uses_update_chain hw) fun _ => trivial

/-- The locks of the two cooperative signers. -/
structure ClaimLocks (P : OnActs) : Prop where
  batchClaim : Locks P .batchClaim
  swapsToClaim : Locks P .swapsToClaim
  chainSwapsToClaim : Locks P .chainSwapsToClaim
  cooperativeBroadcast : Locks P .cooperativeBroadcast

theorem uses_createCoopDetails (hp : Plain P) (hc : Claims P) (object : Nat) :
    (CoopSignerBase.createCoopDetails object).Uses P C := by
  refine .bind (uses_read (hp.read _)) fun _ => .bind (.when _ (uses_external hp)) fun _ => ?_
  refine .bind (uses_external hp) fun _ => .bind (uses_external hp) fun _ => ?_
  exact .bind (uses_external hp) fun _ => uses_write (hc.write fun _ => ⟨_, rfl⟩)

/-- The acts with a session, for every nonce. -/
structure SessionActs (P : OnActs) : Prop where
  sign : ∀ nonce, P (writeAct (.signPartial nonce) fun w => w)
  broadcast : ∀ nonce {β : Type} (f : Answer → Option β), P (askAct (.broadcastSigned nonce) f)

theorem uses_broadcastCooperativeTransaction (hp : Plain P) (hs : SessionActs P) (nonce : Nat) :
    (CoopSignerBase.broadcastCooperativeTransaction nonce).Uses P C := by
  refine .bind (uses_ask (hp.ask _)) fun _ => .bind (.throwIf _ _) fun _ => ?_
  refine .bind (uses_mark (hs.sign nonce)) fun _ => ?_
  refine .bind (uses_ask (hs.broadcast nonce _)) fun _ => .bind (.throwIf _ _) fun _ => ?_
  refine .bind (uses_ask (hs.broadcast nonce _)) fun fee => ?_
  split <;> trivial

theorem uses_storeObjectClaimed (hp : Plain P)
    (hw : ∀ swap preimage minerFee, P (claimedAct swap preimage minerFee))
    (object minerFee : Nat) : (DeferredClaimer.storeObjectClaimed object minerFee).Uses P C := by
  refine .bind (uses_read (hp.read _)) fun toClaim => ?_
  split
  · exact uses_storeClaimed (hw _ _ _)
  · trivial

theorem uses_takeToClaim (hc : Claims P) (symbol : Nat) :
    (DeferredClaimer.takeToClaim symbol).Uses P C := by
  refine uses_call (hc _ rfl fun t w ω b w' he => ?_)
  cases he
  exact ⟨_, rfl⟩

theorem uses_claimChunk (hp : Plain P) (hc : Claims P) (hlock : Locks P .swapsToClaim)
    (hw : ∀ swap preimage minerFee, P (claimedAct swap preimage minerFee))
    (objects : List Nat) : (DeferredClaimer.claimChunk objects).Uses P C := by
  refine .catching (.bind (.bind (uses_ask (hp.ask _)) fun fee => ?_) fun _ => trivial) fun _ => ?_
  · split
    · trivial
    · exact .forEach fun object => uses_storeObjectClaimed hp hw object _
  · exact .bind (uses_withLock hlock (uses_write (hc.write fun _ => ⟨_, rfl⟩))) fun _ => trivial

theorem uses_claimChunks (hp : Plain P) (hc : Claims P) (hlock : Locks P .swapsToClaim)
    (hw : ∀ swap preimage minerFee, P (claimedAct swap preimage minerFee))
    (chunks : List (List Nat)) (claimed : Bool) :
    (DeferredClaimer.claimChunks chunks claimed).Uses P C := by
  induction chunks generalizing claimed with
  | nil => trivial
  | cons chunk chunks ih => exact .bind (uses_claimChunk hp hc hlock hw chunk) fun _ => ih _

theorem uses_sweepSymbol (hp : Plain P) (hc : Claims P) (hl : ClaimLocks P)
    (hw : ∀ swap preimage minerFee, P (claimedAct swap preimage minerFee))
    (symbol : Nat) : (DeferredClaimer.sweepSymbol symbol).Uses P C := by
  refine uses_withLock hl.batchClaim (.bind (uses_withLock hl.swapsToClaim ?_) fun objects => ?_)
  · exact uses_takeToClaim hc symbol
  · split
    · trivial
    · exact .bind (uses_claimChunks hp hc hl.swapsToClaim hw _ _) fun _ => .throwIf _ _

/-- The row after `setTransactionClaimPending`. -/
def ChainSwap.claimPending (preimage : Nat) (s : ChainSwap) : ChainSwap :=
  { s with preimage := some preimage, status := transactionClaimPending }

/-- The row after `setSwapStatus`. -/
def Swap.withStatus (status : SwapUpdateEvent) (reason : Option SwapError) (s : Swap) : Swap :=
  { s with status, failureReason := s.failureReason.or reason }

/-- The write of `deferClaim`. -/
def claimPendingAct (swap : ClaimSwap) (preimage : Nat) : Act Label World Answer Unit :=
  match swap with
  | .submarine swap =>
    swapUpdateAct swap (swap.row.withStatus transactionClaimPending none) .other
  | .chain swap =>
    chainUpdateAct swap (swap.row.claimPending preimage) (.settleChainSwap swap.id)

theorem uses_shouldBeDeferred (hp : Plain P) (swap : ClaimSwap) :
    (DeferredClaimer.shouldBeDeferred swap).Uses P C := by
  refine .bind (uses_read (hp.read _)) fun symbols => ?_
  split
  · trivial
  split
  · trivial
  split
  · trivial
  · exact uses_ask (hp.ask _)
  · trivial

theorem uses_setClaimPending {swap : ClaimSwap} {preimage : Nat}
    (hw : P (claimPendingAct swap preimage)) :
    (DeferredClaimer.setClaimPending swap preimage).Uses P C := by
  cases swap with
  | submarine swap => exact .bind (uses_update_swap hw) fun _ => trivial
  | chain swap => exact .bind (uses_update_chain hw) fun _ => trivial

theorem uses_setToClaim (hc : Claims P) (swap : ClaimSwap) (preimage : Nat) :
    (DeferredClaimer.setToClaim swap preimage).Uses P C :=
  uses_write (hc.write fun _ => ⟨_, rfl⟩)

theorem uses_deferClaim (hp : Plain P) (hc : Claims P) (hl : ClaimLocks P)
    (hw : ∀ swap preimage minerFee, P (claimedAct swap preimage minerFee))
    {swap : ClaimSwap} {preimage : Nat} (hpending : P (claimPendingAct swap preimage)) :
    (DeferredClaimer.deferClaim swap preimage).Uses P C := by
  refine .bind (uses_shouldBeDeferred hp swap) fun deferred => ?_
  split
  · trivial
  · refine .bind (uses_setClaimPending hpending) fun swap => ?_
    refine .bind (uses_withLock hl.swapsToClaim (uses_setToClaim hc swap preimage)) fun _ => ?_
    refine .bind (uses_ask (hp.ask _)) fun _ => ?_
    exact .bind (.when _ (uses_sweepSymbol hp hc hl hw _)) fun _ => trivial

theorem uses_getToClaimDetails (hp : Plain P) (hl : ClaimLocks P) (type : SwapType) (id : Nat)
    (currency : Currency) : (DeferredClaimer.getToClaimDetails type id currency).Uses P C := by
  unfold DeferredClaimer.getToClaimDetails
  split
  · trivial
  · exact uses_withLock hl.swapsToClaim (uses_read (hp.read _))

theorem uses_getCooperativeDetails (hp : Plain P) (hc : Claims P) (hl : ClaimLocks P)
    (swap : ClaimSwap) : (DeferredClaimer.getCooperativeDetails swap).Uses P C := by
  refine .bind (uses_ask (hp.ask _)) fun _ => .bind (.throwIf _ _) fun _ => ?_
  refine .bind (uses_ask (hp.ask _)) fun _ => .bind (.throwIf _ _) fun _ => ?_
  refine .bind (uses_getToClaimDetails hp hl _ _ _) fun object => ?_
  split
  · trivial
  · exact uses_createCoopDetails hp hc _

theorem uses_broadcastCooperative (hp : Plain P) (hc : Claims P) (hl : ClaimLocks P)
    (hs : SessionActs P)
    (hw : ∀ swap preimage minerFee, P (claimedAct swap preimage minerFee))
    (swap : ClaimSwap) : (DeferredClaimer.broadcastCooperative swap).Uses P C := by
  refine uses_withLock hl.batchClaim (.bind (uses_ask (hp.ask _)) fun _ => ?_)
  refine .bind (.throwIf _ _) fun _ => .bind (uses_getToClaimDetails hp hl _ _ _) fun object => ?_
  split
  · trivial
  · refine .bind (uses_read (hp.read _)) fun _ => .bind (.throwIf _ _) fun _ => ?_
    refine uses_withLock hl.swapsToClaim (.bind (uses_read (hp.read _)) fun nonce => ?_)
    split
    · trivial
    · refine .bind (uses_broadcastCooperativeTransaction hp hs _) fun fee => ?_
      refine .bind (uses_write (hc.write fun _ => ⟨_, rfl⟩)) fun _ => ?_
      exact uses_storeObjectClaimed hp hw _ _

end Boltz

import Boltz.Service.CooperativeBroadcasts

/-!
# Broadcast claims are not left pending

Once a node accepted a cooperative claim, the swap should be in no map of pending claims and stored
as claimed. It is exactly when nothing fails after the node accepted the claim, and the swap was not
in the map of the other signer, which neither caller looks at.
-/

namespace Boltz.CooperativeBroadcasts

open SwapUpdateEvent
open ClaimBatches (Key Entry PendingMaps Config)

variable {cfg : Config} {outcomes : Outcomes} {type : CurrencyType} {details : CooperativeDetails}
  {s : State cfg}

/-! ## What the calls do -/

/-- The signature of the client completes the claim. -/
def Outcomes.Signs (outcomes : Outcomes) : Prop :=
  outcomes.verifyPartial = .ok true ∧ outcomes.sign = .ok ()

def Reply.effective : Reply → Bool
  | .refused _ => false
  | .lost _ | .done => true

/-- The claim is broadcast, and its fee is known. -/
def Outcomes.Broadcasts (outcomes : Outcomes) (type : CurrencyType)
    (details : CooperativeDetails) : Prop :=
  outcomes.sendRawTransaction = .done ∧
    ∃ fee, calculateTransactionFee outcomes.getRawTransaction type details.transaction = .ok fee

theorem broadcastCooperativeTransaction_unsent
    (h : ¬(outcomes.Signs ∧ outcomes.sendRawTransaction.effective)) :
    ∃ failure, (broadcastCooperativeTransaction outcomes type details).run s =
      (.error failure, s) := by
  unfold broadcastCooperativeTransaction
  cases hverify : outcomes.verifyPartial with
  | error error => exact ⟨_, rfl⟩
  | ok verified =>
    cases verified with
    | false => exact ⟨_, rfl⟩
    | true =>
      cases hsign : outcomes.sign with
      | error error => exact ⟨_, rfl⟩
      | ok _ =>
        cases hsend : outcomes.sendRawTransaction with
        | refused error => exact ⟨_, rfl⟩
        | lost error => exact absurd ⟨⟨hverify, hsign⟩, by rw [hsend]; rfl⟩ h
        | done => exact absurd ⟨⟨hverify, hsign⟩, by rw [hsend]; rfl⟩ h

theorem broadcastCooperativeTransaction_failed (hsigns : outcomes.Signs)
    (hsent : outcomes.sendRawTransaction.effective)
    (hfailed : ¬outcomes.Broadcasts type details) :
    ∃ failure, (broadcastCooperativeTransaction outcomes type details).run s =
      (.error failure, s.accept details.transaction) := by
  unfold broadcastCooperativeTransaction
  rw [hsigns.1, hsigns.2]
  cases hsend : outcomes.sendRawTransaction with
  | refused error =>
    rw [hsend] at hsent
    cases hsent
  | lost error => exact ⟨_, rfl⟩
  | done =>
    cases hfee : calculateTransactionFee outcomes.getRawTransaction type details.transaction with
    | error error => exact ⟨_, rfl⟩
    | ok fee => exact absurd ⟨hsend, fee, hfee⟩ hfailed

theorem broadcastCooperativeTransaction_ok (hsigns : outcomes.Signs)
    (hbroadcast : outcomes.Broadcasts type details) :
    ∃ fee, (broadcastCooperativeTransaction outcomes type details).run s =
      (.ok fee, s.accept details.transaction) := by
  obtain ⟨hsend, fee, hfee⟩ := hbroadcast
  refine ⟨fee, ?_⟩
  unfold broadcastCooperativeTransaction
  rw [hsigns.1, hsigns.2, hsend, hfee]
  rfl


theorem bind_run {α β : Type} (x : CallM cfg α) (f : α → CallM cfg β) (s : State cfg) :
    (x >>= f).run s = match x.run s with
      | (.ok value, s') => (f value).run s'
      | (.error failure, s') => (.error failure, s') := by
  rw [ExceptT.run_bind]
  show StateT.bind x.run _ s = _
  unfold StateT.bind
  rcases x.run s with ⟨_ | _, s'⟩ <;> rfl

theorem get_bind_run {β : Type} (f : State cfg → CallM cfg β) (s : State cfg) :
    (get >>= f).run s = (f s).run s := rfl

/-! ## The two callers -/

section

variable (remove : State cfg → State cfg) (store : ℤ → State cfg → State cfg)

/-- What the two callers have in common. -/
def broadcastAndStore (outcomes : Outcomes) (type : CurrencyType) (details : CooperativeDetails) :
    CallM cfg Unit := do
  let fee ← broadcastCooperativeTransaction outcomes type details
  modify remove
  request outcomes.store (store fee)

variable {remove store}

theorem broadcastAndStore_unsent
    (h : ¬(outcomes.Signs ∧ outcomes.sendRawTransaction.effective)) :
    ((broadcastAndStore remove store outcomes type details).run s).2 = s := by
  have hunsent : ∃ failure, (broadcastCooperativeTransaction outcomes type details).run s =
      (.error failure, s) := broadcastCooperativeTransaction_unsent h
  obtain ⟨failure, hrun⟩ := hunsent
  rw [broadcastAndStore, bind_run, hrun]

theorem broadcastAndStore_failed (hsigns : outcomes.Signs)
    (hsent : outcomes.sendRawTransaction.effective)
    (hfailed : ¬outcomes.Broadcasts type details) :
    ((broadcastAndStore remove store outcomes type details).run s).2 =
      s.accept details.transaction := by
  have hlost : ∃ failure, (broadcastCooperativeTransaction outcomes type details).run s =
      (.error failure, s.accept details.transaction) :=
    broadcastCooperativeTransaction_failed hsigns hsent hfailed
  obtain ⟨failure, hrun⟩ := hlost
  rw [broadcastAndStore, bind_run, hrun]

theorem broadcastAndStore_ok (hsigns : outcomes.Signs)
    (hbroadcast : outcomes.Broadcasts type details) :
    ∃ fee, ((broadcastAndStore remove store outcomes type details).run s).2 =
      if outcomes.store.effective then store fee (remove (s.accept details.transaction))
      else remove (s.accept details.transaction) := by
  have hbroadcast : ∃ fee, (broadcastCooperativeTransaction outcomes type details).run s =
      (.ok fee, s.accept details.transaction) :=
    broadcastCooperativeTransaction_ok hsigns hbroadcast
  obtain ⟨fee, hrun⟩ := hbroadcast
  refine ⟨fee, ?_⟩
  rw [broadcastAndStore, bind_run, hrun]
  cases hstore : outcomes.store with
  | refused error => rfl
  | lost error => rfl
  | done => rfl

end

/-! ## Settled swaps -/

/-- The swap is in a map of pending claims, which a batch takes or a client can claim from. -/
def State.Pending (s : State cfg) (swap : Key) : Prop :=
  (∃ symbol, ∃ e ∈ s.deferred.maps.values symbol, e.swap = swap) ∨
    swap.type = .chain ∧ (s.swapsToClaim swap.id).isSome

structure State.Settled (s : State cfg) (swap : Key) : Prop where
  notPending : ¬s.Pending swap
  claimed : (s.rows swap).status = transactionClaimed

/-- A call that made a node accept the claim settles the swap, and any other call leaves the maps and
the row as they are. -/
def Consistent (swap : Key) (s s' : State cfg) : Prop :=
  (s'.accepted ≠ s.accepted → s'.Settled swap) ∧
    (s'.accepted = s.accepted →
      s'.deferred = s.deferred ∧ s'.swapsToClaim = s.swapsToClaim ∧ s'.rows = s.rows)

inductive Call where
  | broadcastCooperative (swap : Key)
  | signClaim (id preimage : ℕ) (theirSignature : Bool)
  deriving DecidableEq, Repr

namespace Call

def swap : Call → Key
  | broadcastCooperative swap => swap
  | signClaim id _ _ => ⟨.chain, id⟩

def run (outcomes : Outcomes) : Call → CallM cfg Unit
  | broadcastCooperative swap => DeferredClaimer.broadcastCooperative outcomes swap
  | signClaim id preimage theirSignature =>
    ChainSwapSigner.signClaim outcomes id preimage theirSignature

/-- The state that a call leaves behind. -/
def after (call : Call) (outcomes : Outcomes) (s : State cfg) : State cfg :=
  ((call.run outcomes).run s).2

/-- The details that the call goes on with. -/
def details? (outcomes : Outcomes) (s : State cfg) : Call → Option CooperativeDetails
  | broadcastCooperative swap =>
    if outcomes.isDisabled || (DeferredClaimer.getToClaimDetails s swap).isNone then none
    else s.cooperative swap
  | signClaim id _ theirSignature =>
    if outcomes.isDisabled || !theirSignature then none else (s.swapsToClaim id).join

/-- The swap is in the map of the other signer. -/
def PendingElsewhere (s : State cfg) : Call → Prop
  | broadcastCooperative swap => swap.type = .chain ∧ (s.swapsToClaim swap.id).isSome
  | signClaim id _ _ => ∃ symbol, ∃ e ∈ s.deferred.maps.values symbol, e.swap = ⟨.chain, id⟩

/-- Nothing fails once the node accepted the claim, and the swap is pending nowhere else. -/
def Completes (call : Call) (outcomes : Outcomes) (s : State cfg) : Prop :=
  ∀ details, call.details? outcomes s = some details → outcomes.Signs →
    outcomes.sendRawTransaction.effective →
      outcomes.Broadcasts (cfg.currencyType (cfg.chainCurrency call.swap)) details ∧
        (outcomes.store.effective ∨ (s.rows call.swap).status = transactionClaimed) ∧
        ¬call.PendingElsewhere s

end Call

/-! ## Maps after a call -/

theorem DeferredMaps.not_mem_delete {m : DeferredMaps cfg} {swap : Key} {symbol : ℕ} {e : Entry}
    (h : e ∈ (m.delete swap).maps.values symbol) : e.swap ≠ swap := by
  rintro rfl
  obtain ⟨t, ht⟩ := PendingMaps.mem_values h
  obtain ⟨htype, hsymbol⟩ := (m.delete e.swap).placed t symbol e ht
  subst hsymbol
  have hget : (m.delete e.swap).maps.get t (cfg.chainCurrency e.swap) =
      (m.maps.get e.swap.type (cfg.chainCurrency e.swap)).filter fun x => x.swap ≠ e.swap :=
    PendingMaps.get_update_same htype
  rw [hget] at ht
  have hne := (List.mem_filter.mp ht).2
  simp at hne

/-- What is found in the map of its type and symbol is taken by the next batch. -/
theorem mem_values_of_toClaim {swap : Key} {toClaim : Entry}
    (h : DeferredClaimer.getToClaimDetails s swap = some toClaim) :
    toClaim ∈ s.deferred.maps.values (cfg.chainCurrency swap) ∧ toClaim.swap = swap := by
  unfold DeferredClaimer.getToClaimDetails at h
  simp only at h
  split at h
  · cases h
  · refine ⟨?_, by simpa using List.find?_some h⟩
    have hmem := List.mem_of_find?_eq_some h
    unfold PendingMaps.get at hmem
    split at hmem
    · exact List.mem_append_left _ hmem
    · exact List.mem_append_right _ hmem

theorem DeferredClaimer.broadcastCooperative_run (swap : Key) :
    (DeferredClaimer.broadcastCooperative outcomes swap).run s =
      if outcomes.isDisabled then (.error .signaturesDisabled, s)
      else match DeferredClaimer.getToClaimDetails s swap, s.cooperative swap with
        | some toClaim, some details =>
          (broadcastAndStore (DeferredClaimer.removeToClaim · swap)
            (fun fee s => s.storeClaimed swap toClaim.preimage fee) outcomes
            (cfg.currencyType (cfg.chainCurrency swap)) details).run s
        | _, _ => (.error .notEligible, s) := by
  unfold DeferredClaimer.broadcastCooperative
  cases outcomes.isDisabled with
  | true => rfl
  | false =>
    simp only [Bool.false_eq_true, if_false, get_bind_run]
    cases DeferredClaimer.getToClaimDetails s swap with
    | none => rfl
    | some toClaim => cases s.cooperative swap <;> rfl

theorem ChainSwapSigner.signClaim_run (id preimage : ℕ) (theirSignature : Bool) :
    (ChainSwapSigner.signClaim outcomes id preimage theirSignature).run s =
      if outcomes.isDisabled then (.error .signaturesDisabled, s)
      else match s.swapsToClaim id with
        | some (some claimDetails) =>
          if theirSignature then
            (broadcastAndStore (ChainSwapSigner.removeFromClaimable · id)
              (fun fee s => s.storeClaimed ⟨.chain, id⟩ preimage fee) outcomes
              (cfg.currencyType (cfg.chainCurrency ⟨.chain, id⟩)) claimDetails).run s
          else (.error .invalidPartialSignature, s)
        | _ => (.error .notEligible, s) := by
  unfold ChainSwapSigner.signClaim
  cases outcomes.isDisabled with
  | true => rfl
  | false =>
    simp only [Bool.false_eq_true, if_false, get_bind_run]
    rcases s.swapsToClaim id with _ | _ | claimDetails
    · rfl
    · rfl
    · cases theirSignature <;> rfl

namespace Call

variable {call : Call}

/-- The entry is taken out of the map of the signer that is called. -/
def remove : Call → State cfg → State cfg
  | broadcastCooperative swap => (DeferredClaimer.removeToClaim · swap)
  | signClaim id _ _ => (ChainSwapSigner.removeFromClaimable · id)

theorem after_of_none (h : call.details? outcomes s = none) : call.after outcomes s = s := by
  cases call with
  | broadcastCooperative swap =>
    show ((DeferredClaimer.broadcastCooperative outcomes swap).run s).2 = s
    rw [DeferredClaimer.broadcastCooperative_run]
    simp only [details?] at h
    split
    · rfl
    · rename_i henabled
      split
      · rename_i toClaim details htoClaim hdetails
        simp [henabled, htoClaim, hdetails] at h
      · rfl
  | signClaim id preimage theirSignature =>
    show ((ChainSwapSigner.signClaim outcomes id preimage theirSignature).run s).2 = s
    rw [ChainSwapSigner.signClaim_run]
    simp only [details?] at h
    split
    · rfl
    · rename_i henabled
      split
      · rename_i claimDetails hdetails
        have hunsigned : theirSignature = false := by simpa [henabled, hdetails] using h
        rw [hunsigned]
        rfl
      · rfl

/-- With details, the call broadcasts the claim and stores it, out of a map that had the swap. -/
theorem after_of_some (h : call.details? outcomes s = some details) :
    ∃ preimage, call.after outcomes s =
      ((broadcastAndStore call.remove
        (fun fee s => s.storeClaimed call.swap preimage fee) outcomes
        (cfg.currencyType (cfg.chainCurrency call.swap)) details).run s).2 := by
  cases call with
  | broadcastCooperative swap =>
    simp only [details?] at h
    split at h
    · cases h
    · rename_i heligible
      simp only [Bool.or_eq_true, not_or, Bool.not_eq_true, Option.isNone_eq_false_iff,
        Option.isSome_iff_exists] at heligible
      obtain ⟨henabled, toClaim, htoClaim⟩ := heligible
      refine ⟨toClaim.preimage, ?_⟩
      show ((DeferredClaimer.broadcastCooperative outcomes swap).run s).2 = _
      rw [DeferredClaimer.broadcastCooperative_run, henabled, htoClaim, h]
      rfl
  | signClaim id preimage theirSignature =>
    simp only [details?] at h
    split at h
    · cases h
    · rename_i heligible
      simp only [Bool.or_eq_true, not_or, Bool.not_eq_true, Bool.not_eq_false'] at heligible
      obtain ⟨henabled, hsigned⟩ := heligible
      have hclaim : s.swapsToClaim id = some (some details) := Option.join_eq_some_iff.mp h
      refine ⟨preimage, ?_⟩
      show ((ChainSwapSigner.signClaim outcomes id preimage theirSignature).run s).2 = _
      rw [ChainSwapSigner.signClaim_run, henabled, hclaim, hsigned]
      rfl

end Call

/-! ## Consistency -/

theorem consistent_refl (swap : Key) (s : State cfg) : Consistent swap s s :=
  ⟨fun h => absurd rfl h, fun _ => ⟨rfl, rfl, rfl⟩⟩

/-- Once the node accepted the claim, all depends on the state that is left behind. -/
theorem consistent_iff_settled {swap : Key} {s s' : State cfg} {transaction : Transaction}
    (h : s'.accepted = transaction :: s.accepted) : Consistent swap s s' ↔ s'.Settled swap := by
  have hne : s'.accepted ≠ s.accepted := by
    rw [h]
    exact List.cons_ne_self transaction s.accepted
  constructor
  · intro hconsistent
    exact hconsistent.1 hne
  · intro hsettled
    exact ⟨fun _ => hsettled, fun heq => absurd heq hne⟩

namespace Call

variable {call : Call}

@[simp] theorem remove_accepted : (call.remove s).accepted = s.accepted := by
  cases call <;> rfl

@[simp] theorem remove_rows : (call.remove s).rows = s.rows := by
  cases call <;> rfl

/-- A claim is found in the map of the signer that is called, where its swap is still pending. -/
theorem pending_of_details (h : call.details? outcomes s = some details) :
    s.Pending call.swap := by
  cases call with
  | broadcastCooperative swap =>
    simp only [details?] at h
    split at h
    · cases h
    · rename_i heligible
      simp only [Bool.or_eq_true, not_or, Bool.not_eq_true, Option.isNone_eq_false_iff,
        Option.isSome_iff_exists] at heligible
      obtain ⟨-, toClaim, htoClaim⟩ := heligible
      obtain ⟨hmem, hswap⟩ := mem_values_of_toClaim htoClaim
      exact .inl ⟨_, toClaim, hmem, hswap⟩
  | signClaim id preimage theirSignature =>
    simp only [details?] at h
    split at h
    · cases h
    · refine .inr ⟨rfl, ?_⟩
      show (s.swapsToClaim id).isSome = true
      rw [Option.join_eq_some_iff.mp h]
      rfl

/-- The call takes the swap out of one map only. -/
theorem pending_remove_iff : (call.remove s).Pending call.swap ↔ call.PendingElsewhere s := by
  cases call with
  | broadcastCooperative swap =>
    refine or_iff_right ?_
    rintro ⟨symbol, e, he, hswap⟩
    exact DeferredMaps.not_mem_delete he hswap
  | signClaim id preimage theirSignature =>
    refine or_iff_left ?_
    rintro ⟨-, hsome⟩
    have hremoved : (Function.update s.swapsToClaim id none id).isSome = true := hsome
    rw [Function.update_self] at hremoved
    cases hremoved

theorem pendingElsewhere_accept (transaction : Transaction) :
    call.PendingElsewhere (s.accept transaction) ↔ call.PendingElsewhere s := by
  cases call <;> exact Iff.rfl

theorem storeClaimed_status (s : State cfg) (swap : Key) (preimage : ℕ) (minerFee : ℤ) :
    ((s.storeClaimed swap preimage minerFee).rows swap).status = transactionClaimed := by
  unfold State.storeClaimed
  simp only [Function.update_self]
  split <;> rfl

/-- What a call leaves behind that made the node accept a claim. -/
theorem after_of_sent (h : call.details? outcomes s = some details) (hsigns : outcomes.Signs)
    (hsent : outcomes.sendRawTransaction.effective) :
    (call.after outcomes s).accepted = details.transaction :: s.accepted ∧
      ((call.after outcomes s).Settled call.swap ↔
        outcomes.Broadcasts (cfg.currencyType (cfg.chainCurrency call.swap)) details ∧
          (outcomes.store.effective ∨ (s.rows call.swap).status = transactionClaimed) ∧
          ¬call.PendingElsewhere s) := by
  obtain ⟨preimage, hafter⟩ := after_of_some h
  by_cases hbroadcast :
      outcomes.Broadcasts (cfg.currencyType (cfg.chainCurrency call.swap)) details
  · obtain ⟨fee, hok⟩ : ∃ fee, call.after outcomes s = _ := by
      rw [hafter]
      exact broadcastAndStore_ok hsigns hbroadcast
    have hpending : (call.remove (s.accept details.transaction)).Pending call.swap ↔
        call.PendingElsewhere s :=
      pending_remove_iff.trans (pendingElsewhere_accept details.transaction)
    rw [hok]
    split
    · rename_i hstore
      refine ⟨remove_accepted, fun hsettled => ⟨hbroadcast, .inl hstore, ?_⟩, fun hall => ?_⟩
      · exact fun helsewhere => hsettled.notPending (hpending.mpr helsewhere)
      · have hnowhere := hall.2.2
        exact ⟨fun h => hnowhere (hpending.mp h), storeClaimed_status _ call.swap preimage fee⟩
    · rename_i hstore
      have hrows : (call.remove (s.accept details.transaction)).rows = s.rows := remove_rows
      refine ⟨remove_accepted, fun hsettled => ⟨hbroadcast, .inr ?_, ?_⟩, fun hall => ?_⟩
      · rw [← hrows]
        exact hsettled.claimed
      · exact fun helsewhere => hsettled.notPending (hpending.mpr helsewhere)
      · have hclaimed := hall.2.1.resolve_left hstore
        exact ⟨fun h => hall.2.2 (hpending.mp h), by rwa [hrows]⟩
  · rw [broadcastAndStore_failed hsigns hsent hbroadcast] at hafter
    rw [hafter]
    refine ⟨rfl, iff_of_false (fun hsettled => hsettled.notPending ?_) fun hall => hbroadcast hall.1⟩
    exact pending_of_details h

theorem after_of_unsent (h : ¬(outcomes.Signs ∧ outcomes.sendRawTransaction.effective)) :
    call.after outcomes s = s := by
  cases hdetails : call.details? outcomes s with
  | none => exact after_of_none hdetails
  | some details =>
    obtain ⟨preimage, hafter⟩ := after_of_some hdetails
    rw [hafter]
    exact broadcastAndStore_unsent h

end Call

/-- A call keeps the pending claims consistent with what the node accepted exactly when nothing fails
after the node accepted the claim, and the swap was not pending at the other signer. -/
theorem consistent_iff (call : Call) (outcomes : Outcomes) (s : State cfg) :
    Consistent call.swap s (call.after outcomes s) ↔ call.Completes outcomes s := by
  by_cases hsent : outcomes.Signs ∧ outcomes.sendRawTransaction.effective
  · cases hdetails : call.details? outcomes s with
    | none =>
      rw [Call.after_of_none hdetails]
      refine iff_of_true (consistent_refl call.swap s) fun details hsome => ?_
      rw [hdetails] at hsome
      cases hsome
    | some details =>
      obtain ⟨haccepted, hsettled⟩ := Call.after_of_sent hdetails hsent.1 hsent.2
      rw [consistent_iff_settled haccepted, hsettled]
      constructor
      · intro hall details' hdetails' _ _
        cases hdetails.symm.trans hdetails'
        exact hall
      · intro hcompletes
        exact hcompletes details hdetails hsent.1 hsent.2
  · rw [Call.after_of_unsent hsent]
    refine iff_of_true (consistent_refl call.swap s) fun details _ hsigns heffective => ?_
    exact absurd ⟨hsigns, heffective⟩ hsent

/-! ## A fee that is not known -/

def sampleSwap : Key := ⟨.submarine, 1⟩

def sampleConfig : Config where
  deferredClaimSymbols := [0]
  currencyType := fun _ => .bitcoinLike
  chainCurrency := fun _ => 0
  version := fun _ => .taproot
  swaps := [sampleSwap]
  nodup := by decide

theorem placed_empty : PendingMaps.Placed sampleConfig {} := by
  intro t symbol e he
  have hnil : PendingMaps.get {} t symbol = [] := ite_self _
  rw [hnil] at he
  cases he

def sampleClaim : Transaction := ⟨[⟨1, 0⟩], [⟨[0], some 900⟩]⟩

/-- A deferred claim whose details the client asked for. -/
def deferredState : State sampleConfig where
  rows := fun _ => { status := transactionClaimPending }
  deferred :=
    { maps := PendingMaps.set {} 0 ⟨sampleSwap, 7⟩
      placed := PendingMaps.placed_set placed_empty }
  cooperative := fun _ => some ⟨0, sampleClaim⟩
  swapsToClaim := fun _ => none

/-- The node does not find the lockup when it is asked for its amount. -/
def feeUnknown : Outcomes where
  getRawTransaction := fun _ => .error "No such mempool or blockchain transaction"

/-- The claim was broadcast, and its swap is still to be claimed. -/
theorem unknownFee_left_pending :
    ¬∀ (cfg : Config) (call : Call) (outcomes : Outcomes) (s : State cfg),
      Consistent call.swap s (call.after outcomes s) := by
  intro h
  have haccepted : (Call.after (.broadcastCooperative sampleSwap) feeUnknown deferredState).accepted =
      [sampleClaim] := rfl
  have hstatus : ((Call.after (.broadcastCooperative sampleSwap) feeUnknown deferredState).rows
      sampleSwap).status = transactionClaimPending := rfl
  have hsettled := (h sampleConfig (.broadcastCooperative sampleSwap) feeUnknown deferredState).1
    (by rw [haccepted]; decide)
  cases hstatus.symm.trans hsettled.claimed

end Boltz.CooperativeBroadcasts

import Boltz.Async.Runs
import Boltz.Logic.Payments
import Boltz.Safety.Expiry

/-!
# Settled swaps

A reverse swap is settled with `InvoiceSettled`, a chain swap with `TransactionClaimPending` and
then `TransactionClaimed`. Reverse swaps are settled with their lock; the claims of chain swaps are
stored with the lock by the nursery and without it by the cooperative signers. The confirmation
tracker writes through the swap it remembers, without any lock.
-/

namespace Boltz

open Async SwapUpdateEvent

/-- The server has claimed, or holds the preimage and is about to claim. -/
def ChainSwap.isClaimed (s : ChainSwap) : Bool :=
  [transactionClaimPending, transactionClaimed].contains s.status

/-- What a settled swap may become. -/
structure SettledIn (w w' : World) : Prop where
  reverse : ∀ id s, w.reverseSwaps.get id = some s → s.status = invoiceSettled →
    ∃ s', w'.reverseSwaps.get id = some s' ∧ s'.status = invoiceSettled
  claimed : ∀ id s, w.chainSwaps.get id = some s → s.status = transactionClaimed →
    ∃ s', w'.chainSwaps.get id = some s' ∧ s'.status = transactionClaimed
  pending : ∀ id s, w.chainSwaps.get id = some s → s.status = transactionClaimPending →
    ∃ s', w'.chainSwaps.get id = some s' ∧ s'.isClaimed = true

/-- A swap that was settled in any state of the run is settled. -/
def SettledKept (h : History) : Prop := ∀ e ∈ h.trace, SettledIn e.before h.world

def World.reverseSettled (w : World) (id : Nat) : Bool :=
  (w.reverseSwaps.get id).any (·.status == invoiceSettled)

def World.chainSettled (w : World) (id : Nat) : Bool := (w.chainSwaps.get id).any ChainSwap.isClaimed

/-- The swap that was queried last by an expiry, and the query found no final status. -/
def lastExpiring (past : List (Event Label World Answer)) : Option Nat :=
  past.findSome? fun e => match e.label with
    | .expireChainSwap id => some id
    | _ => none

/-- The lock of chain swaps is held by another task after an expiry queried the swap. -/
def expiryRunning (h : History) (task id : Nat) : Bool :=
  (h.world.locks .chainSwap).any (· != task) && lastExpiring h.trace == some id

/-- A claim may be stored: the lockup of the server is stored, the swap is not claimed yet and no
expiry of it is running. -/
def mayClaim (h : History) (task id : Nat) : Bool :=
  (h.world.chainSwaps.get id).any (fun s =>
    s.sendingData.transactionId.isSome && s.status != transactionClaimed) &&
    !expiryRunning h task id

/-- What the confirmation tracker, miner fees, confirmations and expiry find is not settled, and
claims are stored while nobody else acts on the swap. -/
def settledPolicy : Policy Entry Label World Answer where
  spawn _ := true
  allow l t h _ := match l with
    | .confirmationTracker .reverseSubmarine id => !h.world.reverseSettled id
    | .confirmationTracker .chain id => !h.world.chainSettled id
    | .setMinerFeePaid id => !h.world.reverseSettled id
    | .expireReverseSwap carried => !h.world.reverseSettled carried.id
    | .chainLockupConfirmed id => !h.world.chainSettled id
    | .expireChainSwap id =>
      !(h.world.chainSwaps.get id).any (·.status == transactionClaimPending)
    | .settleChainSwap id => mayClaim h t id
    | _ => true

/-! ## Reverse swaps -/

def ReverseSettled (o : RowObs ReverseSwap) : Prop :=
  ∃ s, o.now = some s ∧ s.status = invoiceSettled

/-- A reverse swap is settled with the lock only. -/
def reverseSettledLogic : RowLogic (Option ReverseSwap) Label.isReverse where
  relevant _ := false
  allow := settledPolicy.allow
  Inv _ := True
  Res _ := True
  Keep o o' := ReverseSettled o' → ReverseSettled o
  Any o o' := ReverseSettled o → ReverseSettled o'
  keep_refl _ h := h
  keep_trans h₁ h₂ h := h₁ (h₂ h)
  any_refl _ h := h
  any_trans h₁ h₂ h := h₂ (h₁ h)
  res_keep _ _ := trivial
  kind _ hl := by cases hl
  other := rfl

abbrev reverseSettledRules (id : Nat) : Rules Unit (Option ReverseSwap) :=
  reverseRules reverseSettledLogic id

namespace reverseSettledRules

variable {id : Nat} {ks : List Unit} {B C : RowObs ReverseSwap → Prop}

/-- The swap is not settled, if it is the one that is looked at. -/
def Unsettled (id swapId : Nat) (o : RowObs ReverseSwap) : Prop := swapId = id → ¬ReverseSettled o

theorem steady_unsettled (swapId : Nat) :
    (reverseSettledRules id).Steady [()] (Unsettled id swapId) := by
  intro o o' _ hkeep _ ho hid hs
  have hk : ReverseSettled o' → ReverseSettled o := hkeep () (by simp)
  exact ho hid (hk hs)

/-- A status that is not `InvoiceSettled` settles nothing. -/
theorem of_settled_save {old new s : ReverseSwap}
    (hnew : new.status = old.status ∨ new.status ≠ invoiceSettled)
    (hs : (old.save new s).status = invoiceSettled) : s.status = invoiceSettled := by
  have hsave : (old.save new s).status = saved old.status new.status s.status := rfl
  rw [hsave] at hs
  rcases hnew with heq | hne
  · rwa [heq, saved_self] at hs
  · rcases saved_cases old.status new.status s.status with hc | hc
    · rwa [hc] at hs
    · rw [hc] at hs
      exact absurd hs hne

/-- A write that is made while the swap is not settled, or leaves the status alone. -/
theorem does_update {swap : Instance ReverseSwap} {new : ReverseSwap} {l : Label}
    (hnew : new.status = swap.row.status ∨ new.status ≠ invoiceSettled)
    (hB : new.status = swap.row.status ∨ ∀ t h ω, B ((reverseSettledRules id).obs h) →
      settledPolicy.allow l t h ω = true →
        Unsettled id swap.id ((reverseSettledRules id).obs h))
    (hC : ∀ o o', (ReverseSettled o' → ReverseSettled o) → B o → C o') :
    (reverseSettledRules id).Does ks B (reverseUpdateAct swap new l) fun _ => C := by
  refine Rules.does_modify reverseRules.row rfl (fun o _ ho => hC o o (fun h => h) ho) ?_
  intro hid t h ω r hi hBo ha hr
  have hkeep : ReverseSettled ⟨some (swap.row.save new r), ((reverseSettledRules id).obs h).past⟩ →
      ReverseSettled ((reverseSettledRules id).obs h) := by
    rintro ⟨_, ⟨⟩, hs⟩
    exact ⟨r, hr, of_settled_save hnew hs⟩
  refine ⟨trivial, fun hset => ?_, fun _ _ => hkeep, hC _ _ hkeep hBo⟩
  rcases hB with heq | hun
  · obtain ⟨s, hs, hst⟩ := hset
    rw [show ((reverseSettledRules id).obs h).now = some r from hr] at hs
    cases hs
    refine ⟨_, rfl, ?_⟩
    have hsave : (swap.row.save new r).status = saved swap.row.status new.status r.status := rfl
    rw [hsave, heq, saved_self]
    exact hst
  · exact absurd hset (hun t h ω hBo ha hid)

theorem free_update {swap : Instance ReverseSwap} {new : ReverseSwap} {l : Label}
    (hnew : new.status = swap.row.status) :
    (reverseSettledRules id).logic.Free (reverseUpdateAct swap new l) :=
  Guarded.Does.free (C := fun _ _ => True)
    (does_update (.inl hnew) (.inl hnew) fun _ _ _ _ => trivial)

/-- A write that the policy admits for a swap that is not settled. -/
theorem free_admitted {swap : Instance ReverseSwap} {new : ReverseSwap} {l : Label}
    (hnew : new.status ≠ invoiceSettled)
    (hl : ∀ t h ω, settledPolicy.allow l t h ω = !h.world.reverseSettled swap.id) :
    (reverseSettledRules id).logic.Free (reverseUpdateAct swap new l) := by
  refine Guarded.Does.free (C := fun _ _ => True)
    (does_update (.inr hnew) (.inr fun t h ω _ ha => ?_) fun _ _ _ _ => trivial)
  rintro hid ⟨s, hs, hst⟩
  have hrow : h.world.reverseSwaps.get swap.id = some s := hid ▸ hs
  rw [hl, World.reverseSettled, hrow] at ha
  simp [hst] at ha

/-- A write with the lock, after the swap was found not settled. -/
theorem does_locked {swap : Instance ReverseSwap} {new : ReverseSwap} {l : Label}
    (hnew : new.status ≠ invoiceSettled) :
    (reverseSettledRules id).Does [()] (Unsettled id swap.id) (reverseUpdateAct swap new l)
      fun _ => Unsettled id swap.id :=
  does_update (.inr hnew) (.inr fun _ _ _ hB _ => hB) fun _ _ hk ho hid hs => ho hid (hk hs)

theorem does_settle (swap : Instance ReverseSwap) (preimage : Nat) :
    (reverseSettledRules id).KeepsRes ()
      (reverseUpdateAct swap (swap.row.settled preimage) .other) := by
  refine Rules.does_modify reverseRules.row rfl (fun _ _ _ => trivial) ?_
  intro hid t h ω r hi _ _ hr
  refine ⟨trivial, fun hset => ⟨_, rfl, ?_⟩, fun k hk => absurd (by simp) hk, trivial⟩
  obtain ⟨s, hs, hst⟩ := hset
  rw [show ((reverseSettledRules id).obs h).now = some r from hr] at hs
  cases hs
  have hsave : (swap.row.save (swap.row.settled preimage) r).status =
      saved swap.row.status invoiceSettled r.status := rfl
  rw [hsave]
  rcases saved_cases swap.row.status invoiceSettled r.status with hc | hc
  · rw [hc, hst]
  · exact hc

/-- A query with the lock that finds another status. -/
theorem does_find {l : Label} {swapId : Nat} {P : ReverseSwap → Prop}
    (hP : ∀ s, P s → s.status ≠ invoiceSettled) :
    (reverseSettledRules id).Does [()] (fun _ => True)
      (readAct l fun w => w.reverseSwaps.byId swapId)
      fun found o => ∀ swap, found = some swap → P swap.row → Unsettled id swap.id o := by
  refine Rules.does_read rfl fun t h ω _ _ _ swap hs hp hid hset => ?_
  obtain ⟨hsid, hrow⟩ := Table.byId_eq_some.mp hs
  obtain ⟨s, hnow, hst⟩ := hset
  have hget : h.world.reverseSwaps.get id = some s := hnow
  rw [← hid, hsid, hrow] at hget
  cases hget
  exact hP _ hp hst

theorem shared : SharedTasks (reverseSettledRules id).SafeTask := by
  refine Rules.sharedTasks_of_reverse (k := ()) reverseRules.ignoresChain rfl
    (fun swap client hfailed => ?_) fun swap status hs => ?_
  · -- the tracker stored the status already
    refine Rules.Locked.of_uses (uses_handleSwapSendFailed Rules.plain_keepsRes ?_ client)
    exact does_update (.inl hfailed.symm) (.inl hfailed.symm) fun _ _ _ _ => trivial
  · refine free_admitted ?_ fun _ _ _ => rfl
    rcases hs with rfl | rfl <;> simp [ReverseSwap.withStatus]

theorem lockupSpec (swap : Instance ReverseSwap) :
    (reverseSettledRules id).LockupSpec [()] (.reverse swap) (Unsettled id swap.id)
      (Unsettled id swap.id) (fun _ => Unsettled id swap.id) ((reverseSettledRules id).Res ()) := by
  refine Rules.lockupSpec_of_unseen rfl rfl (fun _ _ _ _ => ?_) ?_ (steady_unsettled swap.id)
    Rules.steady_own
  · exact (does_locked (by simp [ReverseSwap.withLockup])).mono (fun _ h => h) fun _ _ _ => trivial
  · exact (does_locked (by simp [ReverseSwap.withStatus])).mono (fun _ h => h) fun _ _ _ => trivial

theorem safe_invoicePaid (swapId : Nat) :
    (reverseSettledRules id).logic.Safe (invoicePaidHandler swapId) := by
  refine Rules.safe_invoicePaidHandler (k := ()) rfl reverseRules.quiet_holds
    reverseRules.ignoresClaims shared.scan ?_ lockupSpec fun _ _ _ => trivial
  rintro t h swap _ _ hs he hid ⟨s, hnow, hst⟩
  obtain ⟨hsid, hrow⟩ := Table.byId_eq_some.mp hs
  have hget : h.world.reverseSwaps.get id = some s := hnow
  rw [← hid, hsid, hrow] at hget
  cases hget
  unfold Rules.eligible at he
  rw [hst] at he
  cases he

/-- The invoice expires only while the swap waits for its lockup. -/
theorem locked_expireInvoice (swapId : Nat) :
    (reverseSettledRules id).Locked () (expireInvoice swapId) := by
  refine Guarded.Triple.act_bind (does_find (P := fun s => s.status = swapCreated)
    fun s hs => by simp [hs]) Guarded.steady_true fun found => ?_
  cases found with
  | none => exact .pure fun _ _ => trivial
  | some swap =>
    dsimp only
    split
    · exact .pure fun _ _ => trivial
    rename_i hcreated
    refine Guarded.Triple.conseq (B := Unsettled id swap.id) ?_
      (fun o ho => ho swap rfl (not_not.mp hcreated)) fun _ _ h => h
    have hsteady : (reverseSettledRules id).Steady [()] (Unsettled id swap.id) :=
      steady_unsettled swap.id
    refine Rules.triple_quiet_bind (uses_ask (Rules.quiet_plain.ask _)) hsteady (fun _ => ?_)
      fun _ _ _ => trivial
    refine .when (fun _ => ?_) fun _ _ _ => trivial
    refine Rules.triple_quiet_bind (uses_expiredInvoiceCancelled Rules.quiet_plain) hsteady
      (fun _ => ?_) fun _ _ _ => trivial
    refine .when (fun _ => ?_) fun _ _ _ => trivial
    exact Rules.triple_setStatus (does_locked (by simp [ReverseSwap.withStatus])) hsteady
      fun _ => .pure fun _ _ => trivial

theorem locked_confirm (swapId : Nat) :
    (reverseSettledRules id).Locked () (confirmReverseLockup swapId) := by
  refine Guarded.Triple.act_bind (does_find (P := fun s => s.status ≠ invoiceSettled)
    fun _ hs => hs) Guarded.steady_true fun found => ?_
  cases found with
  | none => exact .pure fun _ _ => trivial
  | some swap =>
    dsimp only
    split
    · exact .pure fun _ _ => trivial
    rename_i hopen
    have hne : swap.row.status ≠ invoiceSettled := by
      intro hs
      simp [hs, successSwapUpdateEvents] at hopen
    refine Guarded.Triple.conseq (B := Unsettled id swap.id) ?_ (fun o ho => ho swap rfl hne)
      fun _ _ h => h
    exact Rules.triple_setStatus (does_locked (by simp [ReverseSwap.withStatus]))
      (steady_unsettled swap.id) fun _ => .pure fun _ _ => trivial

/-- The query with the lock does not find the swap settled. -/
theorem does_expire (swap : Instance ReverseSwap) :
    (reverseSettledRules id).Does [()] (fun _ => True)
      (readAct (.expireReverseSwap swap) fun w => w.reverseSwaps.byId swap.id)
      fun _ => Unsettled id swap.id := by
  refine Rules.does_read rfl fun t h ω _ _ ha hid hset => ?_
  obtain ⟨s, hnow, hst⟩ := hset
  have hrow : h.world.reverseSwaps.get swap.id = some s := hid ▸ hnow
  have hopen : h.world.reverseSettled swap.id = false := by
    simpa [reverseRules, RowLogic.guarded, reverseSettledLogic, settledPolicy] using ha
  rw [World.reverseSettled, hrow] at hopen
  simp [hst] at hopen

theorem locked_expire (swap : Instance ReverseSwap) :
    (reverseSettledRules id).Locked () (expireReverseSwap swap) := by
  have hsteady : (reverseSettledRules id).Steady [()] (Unsettled id swap.id) :=
    steady_unsettled swap.id
  refine Guarded.Triple.act_bind (does_expire swap) Guarded.steady_true fun found => ?_
  refine Guarded.Triple.conseq (B := Unsettled id swap.id) (X := fun _ => Unsettled id swap.id) ?_
    (fun _ h => h) fun _ _ _ => trivial
  cases found with
  | none => exact .throw fun _ h => h
  | some queried =>
    dsimp only
    split
    · exact .pure fun _ h => h
    refine .of_uses (.catching ?_ fun _ => trivial) hsteady
    split
    · refine uses_refundSwap Rules.plain_does (Rules.within_does reverseRules.quiet_refunds)
        shared.refundConfirmed
        fun _ _ => ?_
      exact does_locked (by simp [ReverseSwap.withRefund])
    · exact .bind (uses_setStatus (does_locked (by simp [ReverseSwap.withStatus]))) fun _ => trivial

theorem tasks : ReverseTasks (reverseSettledRules id).SafeTask := by
  refine Rules.reverseTasks_of_locked (k := ()) rfl ?_ ?_ locked_expireInvoice ?_ ?_ locked_confirm
    locked_expire
  · exact Rules.safe_emitInvoicePaid (fun _ => rfl) safe_invoicePaid
  · exact fun swap => free_admitted (by simp [ReverseSwap.withStatus]) fun _ _ _ => rfl
  · exact fun swapId preimage => .of_uses (uses_settleReverseSwapInvoice Rules.plain_keepsRes
      does_settle swapId preimage)
  · exact fun swap preimage => free_update rfl

theorem invoice_kept {s : World} {h : History} {e : Event Label World Answer}
    (hr : Reaches settledPolicy start s h) (he : e ∈ h.trace) {row : ReverseSwap}
    (hrow : e.before.reverseSwaps.get id = some row) (hs : row.status = invoiceSettled) :
    ∃ s', h.world.reverseSwaps.get id = some s' ∧ s'.status = invoiceSettled := by
  have hinit : (reverseSettledRules id).logic.Inv ⟨s, []⟩ := ⟨trivial, fun _ _ => trivial⟩
  obtain ⟨h₁, h₂, u, hb, _, _, _, hrely₁, hrely₂⟩ :=
    Logic.rely_of_mem_trace (𝓛 := (reverseSettledRules id).logic) rfl
      (fun e _ => reverseRules.safe_start shared tasks safe_invoicePaid e) hinit hr he
  have hstart : ReverseSettled ((reverseSettledRules id).obs h₁) := by
    refine ⟨row, ?_, hs⟩
    change h₁.world.reverseSwaps.get id = some row
    rw [hb]
    exact hrow
  exact hrely₂.1 (hrely₁.1 hstart)

end reverseSettledRules

/-! ## Chain swaps -/

/-- What every write makes of a row, but the claims of the server. -/
structure ChainSwap.KeepsClaim (s s' : ChainSwap) : Prop where
  lockup : s'.sendingData.transactionId = s.sendingData.transactionId
  claimed : s'.isClaimed = true → s.isClaimed = true
  kept : s.isClaimed = true → s'.isClaimed = true
  final : s.status = transactionClaimed → s'.status = transactionClaimed

namespace ChainSwap

variable {s : ChainSwap}

theorem isClaimed_of_final (h : s.status = transactionClaimed) : s.isClaimed = true := by
  unfold isClaimed
  rw [h]
  rfl

theorem keepsClaim_of_status {s' : ChainSwap} (hst : s'.status = s.status)
    (htx : s'.sendingData.transactionId = s.sendingData.transactionId) : s.KeepsClaim s' := by
  have hc : s'.isClaimed = s.isClaimed := by
    unfold isClaimed
    rw [hst]
  exact ⟨htx, fun h => hc ▸ h, fun h => hc ▸ h, fun h => hst.trans h⟩

theorem keepsClaim_of_not_claimed {s' : ChainSwap} (hs : s.isClaimed = false)
    (hs' : s'.isClaimed = false)
    (htx : s'.sendingData.transactionId = s.sendingData.transactionId) : s.KeepsClaim s' := by
  refine ⟨htx, fun h => ?_, fun h => ?_, fun h => ?_⟩
  · rw [hs'] at h
    cases h
  · rw [hs] at h
    cases h
  · rw [isClaimed_of_final h] at hs
    cases hs

/-- A status outside of the claims leaves a row unclaimed. -/
theorem isClaimed_save {old new : ChainSwap} (hnew : new.isClaimed = false)
    (hs : s.isClaimed = false) : (old.save new s).isClaimed = false := by
  have hst : (old.save new s).status = saved old.status new.status s.status := rfl
  unfold isClaimed at hnew hs ⊢
  rw [hst]
  rcases saved_cases old.status new.status s.status with hc | hc
  · rw [hc, hs]
  · rw [hc, hnew]

/-- The lockups of users are stored in rows that are not claimed, in such statuses. -/
theorem keepsClaim_userLockup {incoming : LockupIdentity} {amount : Nat}
    {status : SwapUpdateEvent} {options : ChainSwapRepository.Options}
    (hstatus : [transactionClaimPending, transactionClaimed].contains status = false) :
    s.KeepsClaim
      (ChainSwapRepository.userLockupWrite s incoming amount status options).2 := by
  have htx : (ChainSwapRepository.userLockupWrite s incoming amount status
      options).2.sendingData.transactionId = s.sendingData.transactionId := by
    rw [ChainSwapRepository.userLockupWrite_sendingData]
  by_cases hup :
      (ChainSwapRepository.getUserLockupTransactionStatuses options).contains s.status = true
  · have hs : s.isClaimed = false := by
      unfold isClaimed
      cases hc : [transactionClaimPending, transactionClaimed].contains s.status with
      | false => rfl
      | true =>
        simp only [List.contains_eq_mem, List.mem_cons, List.not_mem_nil, or_false,
          decide_eq_true_eq] at hc
        unfold ChainSwapRepository.getUserLockupTransactionStatuses at hup
        rcases hc with hc | hc <;> rw [hc] at hup <;> split at hup <;> cases hup
    refine keepsClaim_of_not_claimed hs ?_ htx
    unfold ChainSwapRepository.userLockupWrite
    dsimp only
    split
    · exact hstatus
    · exact hs
  · rw [ChainSwapRepository.userLockupWrite_of_not_updatable (by simpa using hup)]
    exact keepsClaim_of_status rfl rfl

theorem keepsClaim_zeroConfRejected {incoming : LockupIdentity} :
    s.KeepsClaim (ChainSwapRepository.zeroConfRejectedWrite s incoming) := by
  rcases ChainSwapRepository.zeroConfRejectedWrite_cases s incoming with h | ⟨hmempool, h⟩
  · rw [h]
    exact keepsClaim_of_status rfl rfl
  · rw [h]
    refine keepsClaim_of_not_claimed ?_ rfl rfl
    unfold isClaimed
    rw [hmempool]
    rfl

/-- What a claim of the server makes of a row that is not final. -/
theorem claim_save {old new : ChainSwap} (hnew : new.isClaimed = true)
    (hs : s.isClaimed = true) : (old.save new s).isClaimed = true := by
  have hst : (old.save new s).status = saved old.status new.status s.status := rfl
  unfold isClaimed at hnew hs ⊢
  rw [hst]
  rcases saved_cases old.status new.status s.status with hc | hc
  · rw [hc, hs]
  · rw [hc, hnew]

end ChainSwap

def ChainClaimed (o : RowObs ChainSwap) : Prop := ∃ s, o.now = some s ∧ s.isClaimed = true

def ChainFinal (o : RowObs ChainSwap) : Prop :=
  ∃ s, o.now = some s ∧ s.status = transactionClaimed

/-- While a task holds the lock nobody else stores a lockup of the server, and while it expires
the swap nobody claims it. -/
def chainSettledLogic (id : Nat) : RowLogic (Option ChainSwap) Label.isChain where
  relevant l := match l with
    | .expireChainSwap _ => true
    | _ => false
  allow := settledPolicy.allow
  Inv o := ∀ s, o.now = some s → s.isClaimed = true → s.sendingData.transactionId.isSome = true
  Res _ := True
  Keep o o' := o'.past = o.past ∧
    o'.now.map (·.sendingData.transactionId) = o.now.map (·.sendingData.transactionId) ∧
    (lastExpiring o.past = some id → ChainClaimed o' → ChainClaimed o)
  Any o o' := (ChainClaimed o → ChainClaimed o') ∧ (ChainFinal o → ChainFinal o')
  keep_refl _ := ⟨rfl, rfl, fun _ h => h⟩
  keep_trans h₁ h₂ := by
    refine ⟨h₂.1.trans h₁.1, h₂.2.1.trans h₁.2.1, fun hl h => h₁.2.2 hl (h₂.2.2 ?_ h)⟩
    rw [h₁.1]
    exact hl
  any_refl _ := ⟨fun h => h, fun h => h⟩
  any_trans h₁ h₂ := ⟨fun h => h₂.1 (h₁.1 h), fun h => h₂.2 (h₁.2 h)⟩
  res_keep _ _ := trivial
  kind l hl := by cases l <;> simp_all [Label.isChain]
  other := rfl

abbrev chainSettledRules (id : Nat) : Rules Unit (Option ChainSwap) :=
  chainRules (chainSettledLogic id) (ofChain_row id)

namespace chainSettledRules

variable {id : Nat} {ks : List Unit} {B C : RowObs ChainSwap → Prop}

theorem moves_of_keepsClaim {o : RowObs ChainSwap} {s s' : ChainSwap}
    (hi : (chainSettledLogic id).Inv o) (hs : o.now = some s) (hk : s.KeepsClaim s') :
    (chainSettledLogic id).Inv ⟨some s', o.past⟩ ∧
      (chainSettledLogic id).Any o ⟨some s', o.past⟩ ∧
      (chainSettledLogic id).Keep o ⟨some s', o.past⟩ := by
  refine ⟨?_, ⟨?_, ?_⟩, rfl, ?_, fun _ => ?_⟩
  · rintro _ ⟨⟩ hc
    rw [hk.lockup]
    exact hi s hs (hk.claimed hc)
  · rintro ⟨r, hr, hc⟩
    rw [hs] at hr
    cases hr
    exact ⟨s', rfl, hk.kept hc⟩
  · rintro ⟨r, hr, hc⟩
    rw [hs] at hr
    cases hr
    exact ⟨s', rfl, hk.final hc⟩
  · rw [hs, Option.map_some, Option.map_some, hk.lockup]
  · rintro ⟨_, ⟨⟩, hc⟩
    exact ⟨s, hs, hk.claimed hc⟩

/-- A write that keeps the claim of the row, as far as the policy admits it. -/
theorem does_write {j : Nat} {f : ChainSwap → ChainSwap} {l : Label}
    (hl : (chainSettledRules id).relevant l = false)
    (hf : j = id → ∀ t h ω r, B ((chainSettledRules id).obs h) →
      settledPolicy.allow l t h ω = true → h.world.chainSwaps.get j = some r → r.KeepsClaim (f r))
    (hC : ∀ o o', (chainSettledLogic id).Keep o o' → B o → C o') :
    (chainSettledRules id).Does ks B
      (writeAct l fun w => setChainSwaps (w.chainSwaps.modify j f) w) fun _ => C := by
  refine Rules.does_modify chainRules.row hl
    (fun o _ ho => hC o o ((chainSettledLogic id).keep_refl o) ho) fun hj t h ω r hi hBo ha hr => ?_
  have hrow : h.world.chainSwaps.get j = some r := hj ▸ hr
  obtain ⟨hinv, hany, hkeep⟩ := moves_of_keepsClaim hi hr (hf hj t h ω r hBo ha hrow)
  exact ⟨hinv, hany, fun _ _ => hkeep, hC _ _ hkeep hBo⟩

theorem free_write {j : Nat} {f : ChainSwap → ChainSwap} {l : Label}
    (hl : (chainSettledRules id).relevant l = false)
    (hf : ∀ t h ω r, settledPolicy.allow l t h ω = true → h.world.chainSwaps.get j = some r →
      r.KeepsClaim (f r)) :
    (chainSettledRules id).logic.Free
      (writeAct l fun w => setChainSwaps (w.chainSwaps.modify j f) w) :=
  Guarded.Does.free (C := fun _ _ => True)
    (does_write hl (fun _ t h ω r _ => hf t h ω r) fun _ _ _ _ => trivial)

theorem keeps_save {swap : Instance ChainSwap} {new r : ChainSwap}
    (hst : new.status = swap.row.status)
    (htx : new.sendingData.transactionId = swap.row.sendingData.transactionId) :
    r.KeepsClaim (swap.row.save new r) := by
  refine ChainSwap.keepsClaim_of_status ?_ (chainExpiry.save_transactionId swap.row new r htx)
  have hsave : (swap.row.save new r).status = saved swap.row.status new.status r.status := rfl
  rw [hsave, hst, saved_self]

theorem free_update {swap : Instance ChainSwap} {new : ChainSwap} {l : Label}
    (hl : (chainSettledRules id).relevant l = false) (hst : new.status = swap.row.status)
    (htx : new.sendingData.transactionId = swap.row.sendingData.transactionId) :
    (chainSettledRules id).logic.Free (chainUpdateAct swap new l) :=
  free_write hl fun _ _ _ _ _ _ => keeps_save hst htx

/-- A write that the policy admits for a swap that is not settled. -/
theorem does_admitted {swap : Instance ChainSwap} {new : ChainSwap} {l : Label}
    (hl : (chainSettledRules id).relevant l = false) (hnew : new.isClaimed = false)
    (htx : new.sendingData.transactionId = swap.row.sendingData.transactionId)
    (ha : ∀ t h ω, settledPolicy.allow l t h ω = !h.world.chainSettled swap.id)
    (hC : ∀ o o', (chainSettledLogic id).Keep o o' → B o → C o') :
    (chainSettledRules id).Does ks B (chainUpdateAct swap new l) fun _ => C := by
  refine does_write hl (fun _ t h ω r _ hallow hrow => ?_) hC
  have hopen : r.isClaimed = false := by
    rw [ha, World.chainSettled, hrow] at hallow
    simpa using hallow
  exact ChainSwap.keepsClaim_of_not_claimed hopen (ChainSwap.isClaimed_save hnew hopen)
    (chainExpiry.save_transactionId swap.row new r htx)

/-- A claim is stored after the lockup of the server, and not while an expiry is running. -/
theorem claim_moves {o : RowObs ChainSwap} {swap : Instance ChainSwap} {new r : ChainSwap}
    (hr : o.now = some r) (hnew : new.isClaimed = true)
    (htx : new.sendingData.transactionId = swap.row.sendingData.transactionId)
    (hlockup : r.sendingData.transactionId.isSome = true) (hopen : r.status ≠ transactionClaimed) :
    (chainSettledLogic id).Inv ⟨some (swap.row.save new r), o.past⟩ ∧
      (chainSettledLogic id).Any o ⟨some (swap.row.save new r), o.past⟩ := by
  refine ⟨?_, ?_, ?_⟩
  · rintro _ ⟨⟩ _
    rw [chainExpiry.save_transactionId swap.row new r htx]
    exact hlockup
  · rintro ⟨s, hs, hc⟩
    rw [hr] at hs
    cases hs
    exact ⟨_, rfl, ChainSwap.claim_save hnew hc⟩
  · rintro ⟨s, hs, hc⟩
    rw [hr] at hs
    cases hs
    exact absurd hc hopen

theorem lastExpiring_obs (h : History) :
    lastExpiring ((chainSettledRules id).obs h).past = lastExpiring h.trace := by
  unfold lastExpiring
  change List.findSome? _ (h.trace.filter _) = _
  induction h.trace with
  | nil => rfl
  | cons e past ih =>
    cases hl : e.label <;> simp [chainRules, RowLogic.guarded, chainSettledLogic,
      hl] <;> exact ih

theorem of_mayClaim {h : History} {t j : Nat} {r : ChainSwap} (ha : mayClaim h t j = true)
    (hrow : h.world.chainSwaps.get j = some r) :
    r.sendingData.transactionId.isSome = true ∧ r.status ≠ transactionClaimed ∧
      ∀ u, h.world.locks .chainSwap = some u → u ≠ t → lastExpiring h.trace ≠ some j := by
  simp only [mayClaim, hrow, Option.any_some, Bool.and_eq_true, bne_iff_ne, ne_eq,
    Bool.not_eq_true'] at ha
  obtain ⟨⟨htx, hopen⟩, hexp⟩ := ha
  refine ⟨htx, hopen, fun u hu hne hlast => ?_⟩
  simp [expiryRunning, hu, hlast, hne] at hexp

theorem keeps_claim {swap : Instance ChainSwap} {new : ChainSwap} (hnew : new.isClaimed = true)
    (htx : new.sendingData.transactionId = swap.row.sendingData.transactionId) :
    (chainSettledRules id).KeepsRes () (chainUpdateAct swap new (.settleChainSwap swap.id)) := by
  refine Rules.does_modify chainRules.row rfl (fun _ _ _ => trivial) ?_
  intro hid t h ω r hi _ ha hr
  have hrow : h.world.chainSwaps.get swap.id = some r := hid ▸ hr
  obtain ⟨hlockup, hopen, _⟩ := of_mayClaim (t := t) ha hrow
  have hmoves : (chainSettledLogic id).Inv _ ∧ (chainSettledLogic id).Any _ _ :=
    claim_moves hr hnew htx hlockup hopen
  obtain ⟨hinv, hany⟩ := hmoves
  exact ⟨hinv, hany, fun k hk => absurd (by simp) hk, trivial⟩

theorem free_claim {swap : Instance ChainSwap} {new : ChainSwap} (hnew : new.isClaimed = true)
    (htx : new.sendingData.transactionId = swap.row.sendingData.transactionId) :
    (chainSettledRules id).logic.Free (chainUpdateAct swap new (.settleChainSwap swap.id)) := by
  refine Rules.free_modify chainRules.row rfl fun hid t h ω r hi ha hr o' ho' => ?_
  have hrow : h.world.chainSwaps.get swap.id = some r := hid ▸ hr
  obtain ⟨hlockup, hopen, hfree⟩ := of_mayClaim (t := t) ha hrow
  have hmoves : (chainSettledLogic id).Inv _ ∧ (chainSettledLogic id).Any _ _ :=
    claim_moves hr hnew htx hlockup hopen
  obtain ⟨hinv, hany⟩ := hmoves
  rw [ho']
  refine ⟨hinv, hany, fun _ _ => trivial, fun k u hu hne => ⟨rfl, ?_, fun hlast => ?_⟩⟩
  · have hnow : ((chainSettledRules id).obs h).now = some r := hr
    have hsave := chainExpiry.save_transactionId swap.row new r htx
    rw [hnow, Option.map_some, Option.map_some, hsave]
  · rw [lastExpiring_obs] at hlast
    exact absurd (hid ▸ hlast) (hfree u hu hne)

/-! ### With the lock -/

/-- No lockup of the server is stored, so that the swap is not claimed. -/
def NoLockup (id swapId : Nat) (o : RowObs ChainSwap) : Prop :=
  swapId = id → ∀ s, o.now = some s → s.sendingData.transactionId = none

theorem steady_noLockup (swapId : Nat) :
    (chainSettledRules id).Steady [()] (NoLockup id swapId) := by
  intro o o' _ hkeep _ ho hid s hs
  have hk : (chainSettledLogic id).Keep o o' := hkeep () (by simp)
  have htx := hk.2.1
  rw [hs] at htx
  cases hnow : o.now with
  | none => rw [hnow] at htx; cases htx
  | some r =>
    rw [hnow] at htx
    exact (Option.some.inj htx).trans (ho hid r hnow)

/-- A query with the lock that finds no lockup of the server. -/
theorem does_find {l : Label} {swapId : Nat} (hl : (chainSettledRules id).relevant l = false) :
    (chainSettledRules id).Does [()] (fun _ => True)
      (readAct l fun w => w.chainSwaps.byId swapId)
      fun found o => ∀ swap, found = some swap → swap.id = swapId ∧
        (swap.row.sendingData.transactionId = none → NoLockup id swapId o) := by
  refine Rules.does_read hl fun t h ω _ _ _ swap hs => ?_
  obtain ⟨hsid, hrow⟩ := Table.byId_eq_some.mp hs
  refine ⟨hsid, fun htx hid s hnow => ?_⟩
  have hget : h.world.chainSwaps.get id = some s := hnow
  rw [← hid, hrow] at hget
  cases hget
  exact htx

/-- A write with the lock, while no lockup of the server is stored. -/
theorem does_unlocked {swap : Instance ChainSwap} {new : ChainSwap} {l : Label}
    (hl : (chainSettledRules id).relevant l = false) (hnew : new.isClaimed = false) :
    (chainSettledRules id).Does [()] (NoLockup id swap.id) (chainUpdateAct swap new l)
      fun _ _ => True := by
  refine Rules.does_modify chainRules.row hl (fun _ _ _ => trivial) ?_
  intro hid t h ω r hi hB _ hr
  have hopen : r.isClaimed = false := by
    cases hc : r.isClaimed with
    | false => rfl
    | true =>
      have hsome := hi r hr hc
      rw [hB hid r hr] at hsome
      cases hsome
  have hnone : ¬ChainClaimed ((chainSettledRules id).obs h) := by
    rintro ⟨s, hs, hc⟩
    rw [show ((chainSettledRules id).obs h).now = some r from hr] at hs
    cases hs
    rw [hopen] at hc
    cases hc
  refine ⟨?_, ⟨fun hc => absurd hc hnone, ?_⟩, fun k hk => absurd (by simp) hk, trivial⟩
  · rintro _ ⟨⟩ hc
    rw [ChainSwap.isClaimed_save hnew hopen] at hc
    cases hc
  · rintro ⟨s, hs, hf⟩
    exact absurd ⟨s, hs, ChainSwap.isClaimed_of_final hf⟩ hnone

theorem shared : SharedTasks (chainSettledRules id).SafeTask := by
  refine Rules.sharedTasks_of_chain (k := ()) chainRules.ignoresReverse rfl
    (fun swap hfailed => ?_) fun swap status hs => ?_
  · -- the tracker stored the status already
    refine Rules.Locked.of_uses (uses_handleSwapSendFailed Rules.plain_keepsRes ?_ false)
    exact does_write rfl (fun _ _ _ _ _ _ _ _ => keeps_save hfailed.symm rfl) fun _ _ _ _ => trivial
  · refine Guarded.Does.free (C := fun _ _ => True)
      (does_admitted rfl ?_ rfl (fun _ _ _ => rfl) fun _ _ _ _ => trivial)
    rcases hs with rfl | rfl <;> rfl

theorem lockupSpec (swap : Instance ChainSwap) :
    (chainSettledRules id).LockupSpec [()] (.chain swap) (NoLockup id swap.id)
      (NoLockup id swap.id) (fun _ => NoLockup id swap.id) ((chainSettledRules id).Res ()) :=
  Rules.lockupSpec_of_unseen rfl rfl (fun _ _ _ _ => does_unlocked rfl rfl) (does_unlocked rfl rfl)
    (steady_noLockup swap.id) Rules.steady_own

theorem locked_failed (swap : Instance ChainSwap) (reason : SwapError) :
    (chainSettledRules id).Locked () (chainLockupFailed swap reason) := by
  refine Guarded.Triple.act_bind (does_find rfl) Guarded.steady_true fun found => ?_
  cases found with
  | none => exact .throw fun _ _ => trivial
  | some loaded =>
    dsimp only
    split
    · exact .pure fun _ _ => trivial
    rename_i htx
    refine Guarded.Triple.conseq (B := NoLockup id swap.id) ?_
      (fun o ho => (ho loaded rfl).2 (by simpa using htx)) fun _ _ h => h
    exact Rules.triple_setStatus (does_unlocked rfl rfl) (steady_noLockup swap.id)
      fun _ => .pure fun _ _ => trivial

theorem lockupTasks : ChainLockupTasks (chainSettledRules id).SafeTask where
  lockup swapId event := by
    refine Rules.safe_chainSwapLockup (k := ()) rfl chainRules.quiet_holds
      chainRules.ignoresClaims shared.scan ?_ lockupSpec fun _ _ _ => trivial
    refine (does_find rfl).mono (fun _ h => h) fun found o ho => ⟨trivial, fun swap hs hl => ?_⟩
    obtain ⟨hsid, hno⟩ := ho swap hs
    rw [hsid]
    simp only [Rules.lockable, Bool.and_eq_true, Option.isNone_iff_eq_none] at hl
    exact hno hl.1.2
  failed swap reason := (locked_failed swap reason).safe rfl
  zeroConfRejected := (Rules.Locked.pure (k := ()) ()).safe rfl

theorem locked_confirm (swapId : Nat) :
    (chainSettledRules id).Locked () (confirmChainLockup swapId) := by
  refine Guarded.Triple.act_bind (does_find rfl) Guarded.steady_true fun found => ?_
  cases found with
  | none => exact .pure fun _ _ => trivial
  | some swap =>
    dsimp only
    split
    · exact .pure fun _ _ => trivial
    split
    · exact .pure fun _ _ => trivial
    by_cases hsid : swap.id = swapId
    · subst hsid
      refine Guarded.Triple.conseq (B := fun _ => True) ?_ (fun _ _ => trivial) fun _ _ h => h
      refine Rules.triple_setStatus (R := fun _ => True) ?_ Guarded.steady_true
        fun _ => .pure fun _ _ => trivial
      exact does_admitted rfl rfl rfl (fun _ _ _ => rfl) fun _ _ _ _ => trivial
    · exact .absurd fun o ho => hsid (ho swap rfl).1

/-- The expiry of the swap is the last one that queried, and found it unclaimed. -/
def Expiring (id swapId : Nat) (o : RowObs ChainSwap) : Prop :=
  swapId = id → lastExpiring o.past = some id ∧ ¬ChainClaimed o

theorem steady_expiring (swapId : Nat) :
    (chainSettledRules id).Steady [()] (Expiring id swapId) := by
  intro o o' _ hkeep _ ho hid
  have hk : (chainSettledLogic id).Keep o o' := hkeep () (by simp)
  obtain ⟨hlast, hopen⟩ := ho hid
  refine ⟨?_, fun hc => hopen (hk.2.2 hlast hc)⟩
  rw [hk.1]
  exact hlast

/-- The query with the lock does not find a pending claim. -/
theorem does_expire (swapId : Nat) :
    (chainSettledRules id).Does [()] (fun _ => True)
      (readAct (.expireChainSwap swapId) fun w => w.chainSwaps.byId swapId)
      fun found o => ∀ swap, found = some swap → swap.id = swapId ∧
        (finalChainSwapEvents.contains swap.row.status = false → Expiring id swapId o) := by
  refine Rules.does_of_moves (fun t w ω b w' he => by cases he; rfl) ?_
  intro t h ω b w hi _ ha he
  cases he
  change (chainSettledRules id).Moves [()] _
    ((chainSettledRules id).obs (h.record t (.expireChainSwap swapId) ω h.world)) _
  rw [Guarded.obs_loud rfl]
  refine ⟨hi, ⟨fun h => h, fun h => h⟩, fun k hk => absurd (by simp) hk, fun swap hs => ?_⟩
  obtain ⟨hsid, hrow⟩ := Table.byId_eq_some.mp hs
  refine ⟨hsid, fun hfinal hid => ⟨by rw [← hid]; rfl, ?_⟩⟩
  rintro ⟨s, hnow, hc⟩
  have hget : h.world.chainSwaps.get id = some s := hnow
  rw [← hid, hrow] at hget
  cases hget
  have hpending : swap.row.status ≠ transactionClaimPending := by
    intro hst
    have hallow : (!(h.world.chainSwaps.get swapId).any (·.status == transactionClaimPending)) =
        true := ha
    rw [hrow] at hallow
    simp [hst] at hallow
  unfold ChainSwap.isClaimed at hc
  simp only [List.contains_eq_mem, List.mem_cons, List.not_mem_nil, or_false,
    decide_eq_true_eq] at hc
  rcases hc with hc | hc
  · exact hpending hc
  · rw [hc] at hfinal
    cases hfinal

/-- What expiry stores leaves the swap unclaimed. -/
theorem does_expiring {swap : Instance ChainSwap} {new : ChainSwap} {l : Label}
    (hl : (chainSettledRules id).relevant l = false) (hnew : new.isClaimed = false)
    (htx : new.sendingData.transactionId = swap.row.sendingData.transactionId) :
    (chainSettledRules id).Does [()] (Expiring id swap.id) (chainUpdateAct swap new l)
      fun _ => Expiring id swap.id := by
  refine does_write hl (fun hid t h ω r hB _ hrow => ?_) fun o o' hk ho hid => ?_
  · have hopen : r.isClaimed = false := by
      by_contra hc
      exact (hB hid).2 ⟨r, hid ▸ hrow, by simpa using hc⟩
    exact ChainSwap.keepsClaim_of_not_claimed hopen (ChainSwap.isClaimed_save hnew hopen)
      (chainExpiry.save_transactionId swap.row new r htx)
  · obtain ⟨hlast, hopen⟩ := ho hid
    exact ⟨by rw [hk.1]; exact hlast, fun hc => hopen (hk.2.2 hlast hc)⟩

theorem locked_expire (swapId : Nat) :
    (chainSettledRules id).Locked () (expireChainSwap swapId) := by
  refine Guarded.Triple.act_bind (does_expire swapId) Guarded.steady_true fun found => ?_
  cases found with
  | none => exact .throw fun _ _ => trivial
  | some swap =>
    dsimp only
    split
    · exact .pure fun _ _ => trivial
    rename_i hfinal
    by_cases hsid : swap.id = swapId
    · subst hsid
      refine Guarded.Triple.conseq (B := Expiring id swap.id) (X := fun _ => Expiring id swap.id)
        ?_ (fun o ho => (ho swap rfl).2 (by simpa using hfinal)) fun _ _ _ => trivial
      refine .of_uses (.catching ?_ fun _ => trivial) (steady_expiring swap.id)
      split
      · exact uses_refundSwap Rules.plain_does (Rules.within_does chainRules.quiet_refunds)
          shared.refundConfirmed fun _ _ => does_expiring rfl rfl rfl
      · exact .bind (uses_setStatus (does_expiring rfl rfl rfl)) fun _ => trivial
    · exact .absurd fun o ho => hsid (ho swap rfl).1

/-! ### Tasks -/

theorem claimActs : ClaimActs (chainSettledRules id).FreeAct :=
  chainRules.claimActs (fun _ _ _ => free_claim rfl rfl) fun _ _ => free_claim rfl rfl

theorem settleActs : ClaimActs ((chainSettledRules id).KeepsRes ()) :=
  chainRules.settleActs (fun _ _ _ => keeps_claim rfl rfl) fun _ _ => keeps_claim rfl rfl

theorem free_userLockup (j : Nat) (incoming : LockupIdentity) (amount : Nat)
    {status : SwapUpdateEvent} (options : ChainSwapRepository.Options)
    (hs : [transactionClaimPending, transactionClaimed].contains status = false) :
    (chainSettledRules id).logic.Free (userLockupAct j incoming amount status options) := by
  refine Guarded.Does.free (C := fun _ _ => True) ?_
  refine Rules.does_userLockup chainRules.row (fun _ _ _ => trivial) fun _ h r hi _ hr => ?_
  obtain ⟨hinv, hany, hkeep⟩ := moves_of_keepsClaim hi hr (ChainSwap.keepsClaim_userLockup hs)
  exact ⟨hinv, hany, fun _ _ => hkeep, trivial⟩

theorem free_zeroConfRejected (j : Nat) (incoming : LockupIdentity) :
    (chainSettledRules id).logic.Free (zeroConfRejectedAct j incoming) :=
  free_write rfl fun _ _ _ _ _ _ => ChainSwap.keepsClaim_zeroConfRejected

theorem free_refundSigned (j : Nat) :
    (chainSettledRules id).logic.Free (chainRefundSignedAct j) :=
  free_write rfl fun _ _ _ _ _ _ => ChainSwap.keepsClaim_of_status rfl rfl

theorem checks : Rules.ChainChecks (chainSettledRules id).SafeTask := by
  refine Rules.chainChecks_of_free lockupTasks (fun j incoming amount status hs => ?_)
    free_zeroConfRejected
  refine free_userLockup j incoming amount {} ?_
  simp only [List.mem_cons, List.not_mem_nil, or_false] at hs
  rcases hs with rfl | rfl | rfl <;> rfl

theorem tasks : ChainTasks (chainSettledRules id).SafeTask := by
  refine Rules.chainTasks_of_locked (k := ()) rfl chainRules.ignoresClaims claimActs lockupTasks
    checks.utxo locked_confirm locked_expire (fun swap preimage => ?_) ?_ fun swap preimage => ?_
  · exact .of_uses (uses_settleChain settleActs swap preimage)
  · exact Rules.safe_signChainRefund (fun _ => by simp [chainRules]) (fun _ => rfl)
      (fun _ => rfl) (fun _ => rfl) free_refundSigned
  · exact free_update rfl rfl rfl

theorem safe_acceptQuote (swapId fee serverLockAmount : Nat) (values : EvmLockup)
    (status : TransactionStatus) :
    (chainSettledRules id).logic.Safe
      (Renegotiator.acceptQuote swapId fee serverLockAmount values status) := by
  refine Rules.closed (uses_acceptQuote ⟨Rules.free_plain, ?_, free_zeroConfRejected,
    lockupTasks⟩ chainRules.refundLocks ?_ _ _ _ _ _)
  · intro j incoming amount status hs
    refine free_userLockup j incoming amount _ ?_
    simp only [List.mem_cons, List.not_mem_nil, or_false] at hs
    rcases hs with rfl | rfl | rfl <;> rfl
  · exact fun swap _ _ _ _ => free_update rfl rfl rfl

theorem safe_start (e : Entry) : (chainSettledRules id).logic.Safe (start e) := by
  refine chainRules.safe_start claimActs shared tasks e ⟨fun _ _ _ _ _ _ => ?_, ?_, ?_⟩
  · exact safe_acceptQuote _ _ _ _ _
  · exact fun preimageHash values _ => checks.evm preimageHash values
  · exact fun vHtlc _ => checks.ark vHtlc

/-- What is claimed in a state of the run stays claimed. -/
theorem claim_kept {s : World} {h : History} {e : Event Label World Answer}
    (hs : ∀ row, s.chainSwaps.get id = some row → row.isClaimed = true →
      row.sendingData.transactionId.isSome = true)
    (hr : Reaches settledPolicy start s h) (he : e ∈ h.trace) {row : ChainSwap}
    (hrow : e.before.chainSwaps.get id = some row) :
    (row.isClaimed = true → ∃ s', h.world.chainSwaps.get id = some s' ∧ s'.isClaimed = true) ∧
      (row.status = transactionClaimed →
        ∃ s', h.world.chainSwaps.get id = some s' ∧ s'.status = transactionClaimed) := by
  have hinit : (chainSettledRules id).logic.Inv ⟨s, []⟩ := ⟨fun row => hs row, fun _ _ => trivial⟩
  obtain ⟨h₁, h₂, u, hb, _, _, _, hrely₁, hrely₂⟩ :=
    Logic.rely_of_mem_trace (𝓛 := (chainSettledRules id).logic) rfl (fun e _ => safe_start e)
      hinit hr he
  have hnow : ((chainSettledRules id).obs h₁).now = some row := by
    change h₁.world.chainSwaps.get id = some row
    rw [hb]
    exact hrow
  have hany := (chainSettledLogic id).any_trans hrely₁.1 hrely₂.1
  exact ⟨fun hc => hany.1 ⟨row, hnow, hc⟩, fun hf => hany.2 ⟨row, hnow, hf⟩⟩

end chainSettledRules

/-! ## Every run -/

/-- A chain swap is claimed after its lockup only. -/
def ClaimsLockedUp (w : World) : Prop :=
  ∀ id s, w.chainSwaps.get id = some s → s.isClaimed = true →
    s.sendingData.transactionId.isSome = true

/-- A settled swap stays settled, in every run in which the writers that do not look at the stored
status with the lock of the swap find it unsettled. -/
theorem settled_kept {s : World} {h : History} (hs : ClaimsLockedUp s)
    (hr : Reaches settledPolicy start s h) : SettledKept h := by
  intro e he
  refine ⟨fun id row hrow hst => ?_, fun id row hrow hst => ?_, fun id row hrow hst => ?_⟩
  · exact reverseSettledRules.invoice_kept hr he hrow hst
  · exact (chainSettledRules.claim_kept (hs id) hr he hrow).2 hst
  · refine (chainSettledRules.claim_kept (hs id) hr he hrow).1 ?_
    unfold ChainSwap.isClaimed
    rw [hst]
    rfl

/-! ## Runs of one reverse swap on an EVM chain -/

def rootstock : Currency := { symbol := 1, type := .ether }

def etherWorld : World where
  reverseSwaps := Table.empty.put 1 { openReverseSwap with chainCurrency := rootstock }

/-- The hold invoice is accepted (tasks 0 and 1), the approver accepts (task 3), and the server
locks up in the transaction 5 and tracks it (task 2). -/
def lockupEther : List (Move Entry Answer) :=
  [.spawn (.htlcAccepted 7)] ++ steps 0 [.nothing, .nothing] ++
    steps 1 [.nothing, .nothing, .nothing] ++ steps 2 [.nothing, .nothing, .nothing] ++
    steps 3 [.nothing, .approval (some .accept), .nothing] ++
    steps 2 [.nothing, .nothing, .nothing, .nothing, .nothing, .flag true, .flag false,
      .flag true, .nothing, .send (.sent 5 0 1), .nothing, .nothing, .nothing, .nothing, .nothing]

/-- The user claims with the preimage 9 (tasks 5 and 6), and the invoice is settled (task 7). -/
def claimEther : List (Move Entry Answer) :=
  [.spawn (.evmClaim 0 9)] ++ steps 5 [.nothing, .nothing] ++ steps 6 [.nothing, .nothing] ++
    steps 7 [.nothing, .nothing, .flag true, .nothing, .flag true, .nothing, .nothing]

/-- The scan that the lockup started finds the receipt of the lockup (task 4). -/
def scanEther : List (Move Entry Answer) :=
  steps 4 [.nothing, .nothing, .maybe (some 1), .nothing, .nothing]

theorem settled_kept_scanned_first : ∃ h, Reaches settledPolicy start etherWorld h ∧
    h.trace.any (fun e => e.before.reverseSettled 1) = true ∧ SettledKept h := by
  obtain ⟨h, hr, hsettled⟩ := Reaches.of_run settledPolicy start etherWorld
    (lockupEther ++ scanEther ++ claimEther)
    (fun h => h.trace.any fun e => e.before.reverseSettled 1) (by decide +kernel)
  refine ⟨h, hr, hsettled, settled_kept (fun id s hs => ?_) hr⟩
  cases hs

/-- The lockup is found confirmed after the user claimed it: the tracker stores the status of the
confirmation over `InvoiceSettled`. -/
theorem confirmed_after_settled : ∃ h, Reaches Policy.free start etherWorld h ∧ ¬SettledKept h := by
  obtain ⟨h, hr, hback⟩ := Reaches.of_run Policy.free start etherWorld
    (lockupEther ++ claimEther ++ scanEther)
    (fun h => h.trace.any (fun e => e.before.reverseSettled 1) && !h.world.reverseSettled 1)
    (by decide +kernel)
  refine ⟨h, hr, fun hkept => ?_⟩
  rw [Bool.and_eq_true] at hback
  obtain ⟨e, he, hsettled⟩ := List.any_eq_true.mp hback.1
  unfold World.reverseSettled at hsettled hback
  cases hrow : e.before.reverseSwaps.get 1 with
  | none =>
    rw [hrow] at hsettled
    cases hsettled
  | some row =>
    rw [hrow] at hsettled
    obtain ⟨s', hs', hst⟩ := (hkept e he).reverse 1 row hrow (by simpa using hsettled)
    simp [hs', hst] at hback

end Boltz

import Boltz.Logic.Kinds

/-!
# Expiry and the lockups of the server

Expiry stores `SwapExpired` or refunds the lockup of the server. It decides by the transaction id
of the lockup: `expireChainSwap` by the one it queries with the lock, `expireReverseSwap` by the
one of the row that the event carries.
-/

namespace Boltz

open Async SwapUpdateEvent

/-- A step of expiry that moves a swap with a stored lockup of the server to `SwapExpired`. -/
def abandonsLockup (e : Event Label World Answer) : Bool :=
  match e.label with
  | .setReverseSwapExpired id =>
    (e.before.reverseSwaps.get id).any
        (fun s => s.transactionId.isSome && s.status != swapExpired) &&
      (e.after.reverseSwaps.get id).any (·.status == swapExpired)
  | .setChainSwapExpired id =>
    (e.before.chainSwaps.get id).any
        (fun s => s.sendingData.transactionId.isSome && s.status != swapExpired) &&
      (e.after.chainSwaps.get id).any (·.status == swapExpired)
  | _ => false

def NoLockupAbandoned (h : History) : Prop := ∀ e ∈ h.trace, abandonsLockup e = false

/-- The event of an expiry was read before the lockup that is stored now. -/
def staleExpiry (w : World) (carried : Instance ReverseSwap) : Bool :=
  carried.row.transactionId.isNone && (w.reverseSwaps.get carried.id).any fun s =>
    s.transactionId.isSome && !([swapExpired, transactionRefunded].contains s.status)

/-- No expiry of a reverse swap acts on a stale event. -/
def freshExpiry : Policy Entry Label World Answer where
  spawn _ := true
  allow l _ h _ := match l with
    | .expireReverseSwap carried => !staleExpiry h.world carried
    | _ => true

/-! ## The row of a swap -/

section row

variable {R : Type} {𝓡 : Rules Unit (Option R)} {tx : R → Option Nat} {id j : Nat}

/-- The transaction id of the lockup changes with the lock only, and every expiry found none. -/
structure GuardsLockup (𝓡 : Rules Unit (Option R)) (tx : R → Option Nat) : Prop where
  inv : ∀ o, 𝓡.Inv o ↔ ∀ e ∈ o.past, ∀ s, 𝓡.view e.before = some s → tx s = none
  keep : ∀ o o', 𝓡.Keep () o o' → o'.now.map tx = o.now.map tx
  any : ∀ o o', 𝓡.Any o o'

namespace GuardsLockup

/-- What expiry knows when it is about to store `SwapExpired`: no lockup is stored. -/
def Unlocked (tx : R → Option Nat) (id j : Nat) (o : Obs (Option R) Label World Answer) : Prop :=
  j = id → ∀ s, o.now = some s → tx s = none

theorem steady_unlocked (hg : GuardsLockup 𝓡 tx) : 𝓡.Steady [()] (Unlocked tx id j) := by
  intro o o' _ hkeep _ hB hid s hs
  have htx : o'.now.map tx = o.now.map tx := hg.keep o o' (hkeep () (by simp))
  rw [hs] at htx
  cases hnow : o.now with
  | none => rw [hnow] at htx; cases htx
  | some r =>
    rw [hnow] at htx
    have heq : tx s = tx r := Option.some.inj htx
    rw [heq]
    exact hB hid r hnow

theorem does_expire (hg : GuardsLockup 𝓡 tx) {l : Label} (hl : 𝓡.relevant l = decide (j = id))
    {f : World → World} (hlocks : ∀ w, (f w).locks = w.locks) :
    𝓡.Does [()] (Unlocked tx id j) (writeAct l f) fun _ _ => True := by
  refine Rules.does_of_moves (fun t w ω b w' he => by cases he; exact hlocks w) ?_
  intro t h ω b w hi hB _ he
  cases he
  refine ⟨(hg.inv _).mpr ?_, hg.any _ _, fun k hk => absurd (by simp) hk, trivial⟩
  change ∀ e ∈ (𝓡.obs (h.record t l ω _)).past, _
  by_cases hid : j = id
  · rw [Guarded.obs_loud (by simp [hl, hid])]
    intro e he s hs
    rcases List.mem_cons.mp he with rfl | he
    · exact hB hid s hs
    · exact (hg.inv (𝓡.obs h)).mp hi e he s hs
  · rw [Guarded.obs_changed (by simp [hl, hid])]
    exact (hg.inv (𝓡.obs h)).mp hi

end GuardsLockup

end row

/-! ## Reverse swaps -/

/-- The lockup of a reverse swap is stored with the lock only. -/
def reverseExpiryLogic (id : Nat) : RowLogic (Option ReverseSwap) Label.isReverse where
  relevant l := decide (l = .setReverseSwapExpired id)
  allow := freshExpiry.allow
  Inv o := ∀ e ∈ o.past, ∀ s, e.before.reverseSwaps.get id = some s → s.transactionId = none
  Res _ := True
  Keep o o' := o'.now.map (·.transactionId) = o.now.map (·.transactionId)
  Any _ _ := True
  keep_refl _ := rfl
  keep_trans h₁ h₂ := h₂.trans h₁
  any_refl _ := trivial
  any_trans _ _ := trivial
  res_keep _ _ := trivial
  kind l hl := by cases of_decide_eq_true hl; rfl
  other := by simp

abbrev reverseExpiry (id : Nat) : Rules Unit (Option ReverseSwap) :=
  reverseRules (reverseExpiryLogic id) id

namespace reverseExpiry

variable {id : Nat} {ks : List Unit}

theorem relevant_eq (l : Label) :
    (reverseExpiry id).relevant l = decide (l = .setReverseSwapExpired id) := rfl

/-- A write that does not set the transaction id keeps it, whoever makes it. -/
theorem does_update {swap : Instance ReverseSwap} {new : ReverseSwap} {l : Label}
    (hl : (reverseExpiry id).relevant l = false)
    (hnew : new.transactionId = swap.row.transactionId) :
    (reverseExpiry id).Does ks (fun _ => True) (reverseUpdateAct swap new l) fun _ _ => True := by
  refine Rules.does_modify reverseRules.row hl (fun _ _ _ => trivial) fun _ t h ω r hi _ _ hr => ?_
  refine ⟨hi, trivial, fun _ _ => ?_, trivial⟩
  have hsave : (swap.row.save new r).transactionId = r.transactionId := by
    simp [ReverseSwap.save, hnew]
  have hnow : ((reverseExpiry id).obs h).now = some r := hr
  change some (swap.row.save new r).transactionId = _
  rw [hnow, hsave]
  rfl

theorem free_update {swap : Instance ReverseSwap} {new : ReverseSwap} {l : Label}
    (hl : (reverseExpiry id).relevant l = false)
    (hnew : new.transactionId = swap.row.transactionId) :
    (reverseExpiry id).logic.Free (reverseUpdateAct swap new l) :=
  (does_update hl hnew).free

theorem does_setStatus (swap : Instance ReverseSwap) (status : SwapUpdateEvent)
    (reason : Option SwapError) {l : Label} (hl : (reverseExpiry id).relevant l = false) :
    (reverseExpiry id).Does ks (fun _ => True) (setStatusAct (.reverse swap) status reason l)
      fun _ _ => True :=
  does_update hl rfl

/-- With the lock, every write but the one of expiry is made. -/
theorem does_locked {swap : Instance ReverseSwap} {new : ReverseSwap} {l : Label}
    (hl : (reverseExpiry id).relevant l = false) :
    (reverseExpiry id).Does [()] (fun _ => True) (reverseUpdateAct swap new l)
      fun _ _ => True := by
  refine Rules.does_modify reverseRules.row hl (fun _ _ _ => trivial) fun _ t h ω r hi _ _ _ => ?_
  exact ⟨hi, trivial, fun k hk => absurd (by simp) hk, trivial⟩

theorem guards : GuardsLockup (reverseExpiry id) (·.transactionId) :=
  ⟨fun _ => Iff.rfl, fun _ _ h => h, fun _ _ => trivial⟩

theorem quiet_read (swap : Instance ReverseSwap) {β : Type} (f : World → β) :
    (reverseExpiry id).Quiet (readAct (.expireReverseSwap swap) f) :=
  Rules.quiet_read (by simp [relevant_eq]) f

theorem safe_refundConfirmed (swap : ServerSwap) :
    (reverseExpiry id).logic.Safe (refundConfirmed swap) :=
  Rules.safe_refundConfirmed_locked (k := ()) rfl swap

/-- The query with the lock finds out whether the event is stale; only a fresh event without a
lockup goes on to `SwapExpired`. -/
theorem locked_expire (swap : Instance ReverseSwap) :
    (reverseExpiry id).Locked () (expireReverseSwap swap) := by
  intro t h hA
  have hread : (reverseExpiry id).Does [()] ((reverseExpiry id).Res ())
      (readAct (.expireReverseSwap swap) fun w => w.reverseSwaps.byId swap.id)
      fun found o => ∀ queried, found = some queried →
        ¬(queried.row.status = swapExpired ∨ queried.row.status = transactionRefunded) →
        swap.row.transactionId = none → GuardsLockup.Unlocked (·.transactionId) id swap.id o := by
    refine Rules.does_read (by simp [relevant_eq]) ?_
    intro t h ω _ _ ha queried hq hs htx hid s hnow
    obtain ⟨hqid, hqrow⟩ := Table.byId_eq_some.mp hq
    have hrow : h.world.reverseSwaps.get swap.id = some s := hid ▸ hnow
    have hsq : queried.row = s := by rw [hqrow] at hrow; exact Option.some.inj hrow
    have hfresh : staleExpiry h.world swap = false := by
      simpa [reverseRules, RowLogic.guarded, reverseExpiryLogic, freshExpiry] using ha
    by_contra hne
    have hsome : s.transactionId.isSome = true := by
      cases hx : s.transactionId with
      | none => exact absurd hx hne
      | some x => rfl
    rw [hsq] at hs
    simp [staleExpiry, htx, hrow, hsome] at hfresh
    exact hs (or_iff_not_imp_left.mpr hfresh)
  refine Guarded.wp_does_bind hread Rules.steady_own hA fun found h₁ h₁A => ?_
  have hres : (reverseExpiry id).On [()] ((reverseExpiry id).Res ()) t h₁ :=
    h₁A.mono fun _ _ => trivial
  cases found with
  | none => exact hres
  | some queried =>
    dsimp only
    split
    · exact hres
    · rename_i hs
      rw [Logic.wp_catching]
      split
      · refine Logic.wp_mono (Rules.Locked.of_uses (uses_refundSwap Rules.plain_keepsRes
          reverseRules.refunds safe_refundConfirmed fun minerFee reason => ?_) t h₁ hres)
          fun r h₂ h₂A => ?_
        · exact does_update (by simp [relevant_eq]) rfl
        · cases r <;> exact h₂A
      · rename_i htx
        have hun : (reverseExpiry id).On [()]
            (GuardsLockup.Unlocked (·.transactionId) id swap.id) t h₁ := by
          refine h₁A.mono fun o ho => ho queried rfl ?_ ?_
          · simpa using hs
          · simpa using htx
        exact Rules.wp_setStatus
          (guards.does_expire (by simp [relevant_eq]) fun _ => rfl) guards.steady_unlocked hun
          fun _ h₂ h₂A => h₂A

theorem shared : SharedTasks (reverseExpiry id).SafeTask := by
  refine Rules.sharedTasks_of_reverse (k := ()) reverseRules.ignoresChain rfl
    (fun swap client _ => ?_) ?_
  · exact Rules.Locked.of_uses (uses_handleSwapSendFailed Rules.plain_keepsRes
      (does_setStatus swap _ _ (by simp [relevant_eq])) client)
  · intro swap status _
    exact free_update (by simp [relevant_eq]) rfl

theorem lockupSpec (swap : Instance ReverseSwap) :
    (reverseExpiry id).LockupSpec [()] (.reverse swap) (fun _ => True) (fun _ => True)
      (fun _ _ => True) ((reverseExpiry id).Res ()) :=
  Rules.lockupSpec_of_unseen (by simp [relevant_eq]) (by simp [relevant_eq])
    (fun _ _ _ _ => does_locked (by simp [relevant_eq])) (does_update (by simp [relevant_eq]) rfl)
    Guarded.steady_true Guarded.steady_true

theorem safe_invoicePaid (swapId : Nat) :
    (reverseExpiry id).logic.Safe (invoicePaidHandler swapId) :=
  Rules.safe_invoicePaidHandler (k := ()) rfl reverseRules.quiet_holds reverseRules.ignoresClaims
    shared.scan (fun _ _ _ _ _ _ _ => trivial) lockupSpec fun _ _ _ => trivial

theorem tasks : ReverseTasks (reverseExpiry id).SafeTask := by
  have hp : Plain ((reverseExpiry id).KeepsRes ()) := Rules.plain_keepsRes
  refine Rules.reverseTasks_of_locked (k := ()) rfl ?_ ?_ ?_ ?_ ?_ ?_ locked_expire
  · exact Rules.safe_emitInvoicePaid (fun _ => by simp [relevant_eq]) safe_invoicePaid
  · exact fun swap => free_update (by simp [relevant_eq]) rfl
  · exact fun swapId => .of_uses (uses_expireInvoice hp
      (fun _ _ => does_update (by simp [relevant_eq]) rfl) swapId)
  · exact fun swapId preimage => .of_uses (uses_settleReverseSwapInvoice hp
      (fun _ _ => does_update (by simp [relevant_eq]) rfl) swapId preimage)
  · exact fun swap preimage => free_update (by simp [relevant_eq]) rfl
  · exact fun swapId => .of_uses (uses_confirmReverseLockup hp
      (fun _ => does_update (by simp [relevant_eq]) rfl) swapId)

theorem inv_of_reaches {s : World} {h : History} (hr : Reaches freshExpiry start s h) :
    (reverseExpiry id).logic.Inv h := by
  refine Logic.inv_of_reaches rfl (fun e _ => ?_) ⟨fun e he => ?_, fun _ _ => trivial⟩ hr
  · exact reverseRules.safe_start shared tasks safe_invoicePaid e
  · cases he

end reverseExpiry

/-! ## Chain swaps -/

/-- The lockup of a chain swap is stored with the lock only. -/
def chainExpiryLogic (id : Nat) : RowLogic (Option ChainSwap) Label.isChain where
  relevant l := decide (l = .setChainSwapExpired id)
  allow := freshExpiry.allow
  Inv o := ∀ e ∈ o.past, ∀ s, e.before.chainSwaps.get id = some s →
    s.sendingData.transactionId = none
  Res _ := True
  Keep o o' := o'.now.map (·.sendingData.transactionId) = o.now.map (·.sendingData.transactionId)
  Any _ _ := True
  keep_refl _ := rfl
  keep_trans h₁ h₂ := h₂.trans h₁
  any_refl _ := trivial
  any_trans _ _ := trivial
  res_keep _ _ := trivial
  kind l hl := by cases of_decide_eq_true hl; rfl
  other := by simp

abbrev chainExpiry (id : Nat) : Rules Unit (Option ChainSwap) :=
  chainRules (chainExpiryLogic id) (ofChain_row id)

namespace chainExpiry

variable {id : Nat} {ks : List Unit}

theorem relevant_eq (l : Label) :
    (chainExpiry id).relevant l = decide (l = .setChainSwapExpired id) := rfl

/-- A write that leaves the transaction id of the lockup alone. -/
theorem does_write {j : Nat} {f : ChainSwap → ChainSwap} {l : Label}
    (hl : (chainExpiry id).relevant l = false)
    (hf : ∀ s, (f s).sendingData.transactionId = s.sendingData.transactionId) :
    (chainExpiry id).Does ks (fun _ => True)
      (writeAct l fun w => setChainSwaps (w.chainSwaps.modify j f) w) fun _ _ => True := by
  refine Rules.does_modify chainRules.row hl (fun _ _ _ => trivial) fun _ t h ω r hi _ _ hr => ?_
  refine ⟨hi, trivial, fun _ _ => ?_, trivial⟩
  have hnow : ((chainExpiry id).obs h).now = some r := hr
  change some (f r).sendingData.transactionId = _
  rw [hnow, hf r]
  rfl

theorem save_transactionId (old new s : ChainSwap)
    (hnew : new.sendingData.transactionId = old.sendingData.transactionId) :
    (old.save new s).sendingData.transactionId = s.sendingData.transactionId := by
  simp [ChainSwap.save, ChainSwapData.save, hnew]

theorem does_update {swap : Instance ChainSwap} {new : ChainSwap} {l : Label}
    (hl : (chainExpiry id).relevant l = false)
    (hnew : new.sendingData.transactionId = swap.row.sendingData.transactionId) :
    (chainExpiry id).Does ks (fun _ => True) (chainUpdateAct swap new l) fun _ _ => True :=
  does_write hl fun s => save_transactionId swap.row new s hnew

theorem free_update {swap : Instance ChainSwap} {new : ChainSwap} {l : Label}
    (hl : (chainExpiry id).relevant l = false)
    (hnew : new.sendingData.transactionId = swap.row.sendingData.transactionId) :
    (chainExpiry id).logic.Free (chainUpdateAct swap new l) :=
  (does_update hl hnew).free

theorem does_setStatus (swap : Instance ChainSwap) (status : SwapUpdateEvent)
    (reason : Option SwapError) {l : Label} (hl : (chainExpiry id).relevant l = false) :
    (chainExpiry id).Does ks (fun _ => True) (setStatusAct (.chain swap) status reason l)
      fun _ _ => True :=
  does_update hl rfl

theorem does_locked {swap : Instance ChainSwap} {new : ChainSwap} {l : Label}
    (hl : (chainExpiry id).relevant l = false) :
    (chainExpiry id).Does [()] (fun _ => True) (chainUpdateAct swap new l) fun _ _ => True := by
  refine Rules.does_modify chainRules.row hl (fun _ _ _ => trivial) fun _ t h ω r hi _ _ _ => ?_
  exact ⟨hi, trivial, fun k hk => absurd (by simp) hk, trivial⟩

theorem free_userLockup (j : Nat) (incoming : LockupIdentity) (amount : Nat)
    (status : SwapUpdateEvent) (options : ChainSwapRepository.Options) :
    (chainExpiry id).logic.Free (userLockupAct j incoming amount status options) := by
  refine Guarded.Does.free (C := fun _ _ => True) ?_
  refine Rules.does_userLockup chainRules.row (fun _ _ _ => trivial) fun _ h r hi _ hr => ?_
  refine ⟨hi, trivial, fun _ _ => ?_, trivial⟩
  have hnow : ((chainExpiry id).obs h).now = some r := hr
  have hsend := ChainSwapRepository.userLockupWrite_sendingData r incoming amount status options
  change (some _).map (fun s : ChainSwap => s.sendingData.transactionId) = _
  rw [hnow, Option.map_some, hsend]
  rfl

theorem free_zeroConfRejected (j : Nat) (incoming : LockupIdentity) :
    (chainExpiry id).logic.Free (zeroConfRejectedAct j incoming) :=
  Guarded.Does.free (does_write (by simp [relevant_eq]) fun s => by
    rw [ChainSwapRepository.zeroConfRejectedWrite_sendingData])

theorem free_refundSigned (j : Nat) : (chainExpiry id).logic.Free (chainRefundSignedAct j) :=
  Guarded.Does.free (does_write (by simp [relevant_eq]) fun _ => rfl)

theorem guards : GuardsLockup (chainExpiry id) (·.sendingData.transactionId) :=
  ⟨fun _ => Iff.rfl, fun _ _ h => h, fun _ _ => trivial⟩

theorem shared : SharedTasks (chainExpiry id).SafeTask := by
  refine Rules.sharedTasks_of_chain (k := ()) chainRules.ignoresReverse rfl (fun swap _ => ?_) ?_
  · exact Rules.Locked.of_uses (uses_handleSwapSendFailed Rules.plain_keepsRes
      (does_setStatus swap _ _ (by simp [relevant_eq])) false)
  · intro swap status _
    exact free_update (by simp [relevant_eq]) rfl

/-- The row that decides is the one queried with the lock. -/
theorem locked_expire (swapId : Nat) : (chainExpiry id).Locked () (expireChainSwap swapId) := by
  intro t h hA
  have hread : (chainExpiry id).Does [()] ((chainExpiry id).Res ())
      (readAct (.expireChainSwap swapId) fun w => w.chainSwaps.byId swapId)
      fun found o => ∀ swap, found = some swap → swap.row.sendingData.transactionId = none →
        GuardsLockup.Unlocked (·.sendingData.transactionId) id swap.id o := by
    refine Rules.does_read (by simp [relevant_eq]) ?_
    intro t h ω _ _ _ swap hq htx hid s hnow
    obtain ⟨hqid, hqrow⟩ := Table.byId_eq_some.mp hq
    have hrow : h.world.chainSwaps.get id = some s := hnow
    rw [← hid, hqid, hqrow] at hrow
    rw [← Option.some.inj hrow]
    exact htx
  refine Guarded.wp_does_bind hread Rules.steady_own hA fun found h₁ h₁A => ?_
  have hres : (chainExpiry id).On [()] ((chainExpiry id).Res ()) t h₁ :=
    h₁A.mono fun _ _ => trivial
  cases found with
  | none => exact hres
  | some swap =>
    dsimp only
    split
    · exact hres
    · rw [Logic.wp_catching]
      split
      · refine Logic.wp_mono (Rules.Locked.of_uses (uses_refundSwap Rules.plain_keepsRes
          chainRules.refunds shared.refundConfirmed fun minerFee reason => ?_) t h₁ hres)
          fun r h₂ h₂A => ?_
        · exact does_update (by simp [relevant_eq]) rfl
        · cases r <;> exact h₂A
      · rename_i htx
        have hun : (chainExpiry id).On [()]
            (GuardsLockup.Unlocked (·.sendingData.transactionId) id swap.id) t h₁ := by
          refine h₁A.mono fun o ho => ho swap rfl ?_
          simpa using htx
        exact Rules.wp_setStatus
          (guards.does_expire (by simp [relevant_eq]) fun _ => rfl) guards.steady_unlocked hun
          fun _ h₂ h₂A => h₂A

theorem lockupSpec (swap : Instance ChainSwap) :
    (chainExpiry id).LockupSpec [()] (.chain swap) (fun _ => True) (fun _ => True)
      (fun _ _ => True) ((chainExpiry id).Res ()) :=
  Rules.lockupSpec_of_unseen (by simp [relevant_eq]) (by simp [relevant_eq])
    (fun _ _ _ _ => does_locked (by simp [relevant_eq])) (does_update (by simp [relevant_eq]) rfl)
    Guarded.steady_true Guarded.steady_true

theorem lockupTasks : ChainLockupTasks (chainExpiry id).SafeTask where
  lockup swapId event := by
    have hq := Rules.quiet_read (𝓡 := chainExpiry id) (l := .loadLockup swapId)
      (by simp [relevant_eq]) fun w => w.chainSwaps.byId swapId
    refine Rules.safe_chainSwapLockup (k := ()) rfl chainRules.quiet_holds
      chainRules.ignoresClaims shared.scan (hq.does_of fun _ _ _ _ _ _ _ _ _ => ?_) lockupSpec
      fun _ _ _ => trivial
    exact ⟨trivial, fun _ _ _ => trivial⟩
  failed swap _ := (Rules.Locked.of_uses (k := ()) (uses_chainLockupFailed
    Rules.plain_keepsRes (does_setStatus swap _ _ (by simp [relevant_eq])))).safe rfl
  zeroConfRejected := (Rules.Locked.pure (k := ()) ()).safe rfl

theorem claimActs : ClaimActs (chainExpiry id).FreeAct :=
  chainRules.claimActs (fun _ _ _ => free_update (by simp [relevant_eq]) rfl)
    fun _ _ => free_update (by simp [relevant_eq]) rfl

theorem settleActs : ClaimActs ((chainExpiry id).KeepsRes ()) :=
  chainRules.settleActs (fun _ _ _ => does_update (by simp [relevant_eq]) rfl)
    fun _ _ => does_update (by simp [relevant_eq]) rfl

theorem checks : Rules.ChainChecks (chainExpiry id).SafeTask :=
  Rules.chainChecks_of_free lockupTasks (fun _ _ _ _ _ => free_userLockup _ _ _ _ _)
    free_zeroConfRejected

theorem tasks : ChainTasks (chainExpiry id).SafeTask := by
  refine Rules.chainTasks_of_locked (k := ()) rfl chainRules.ignoresClaims claimActs lockupTasks
    checks.utxo (fun swapId => ?_) locked_expire (fun swap preimage => ?_) ?_
    fun swap preimage => ?_
  · exact .of_uses (uses_confirmChainLockup Rules.plain_keepsRes
      fun swap => does_setStatus swap _ _ (by simp [relevant_eq]))
  · exact .of_uses (uses_settleChain settleActs swap preimage)
  · exact Rules.safe_signChainRefund (fun _ => by simp [chainRules])
      (fun _ => by simp [relevant_eq]) (fun _ => by simp [relevant_eq])
      (fun _ => by simp [relevant_eq]) free_refundSigned
  · exact free_update (by simp [relevant_eq]) rfl

theorem safe_acceptQuote (swapId fee serverLockAmount : Nat) (values : EvmLockup)
    (status : TransactionStatus) :
    (chainExpiry id).logic.Safe
      (Renegotiator.acceptQuote swapId fee serverLockAmount values status) := by
  refine Rules.closed (uses_acceptQuote ⟨Rules.free_plain, ?_, free_zeroConfRejected,
    lockupTasks⟩ chainRules.refundLocks ?_ _ _ _ _ _)
  · exact fun _ _ _ _ _ => free_userLockup _ _ _ _ _
  · exact fun swap _ _ _ _ => free_update (by simp [relevant_eq]) rfl

theorem inv_of_reaches {s : World} {h : History} (hr : Reaches freshExpiry start s h) :
    (chainExpiry id).logic.Inv h := by
  refine Logic.inv_of_reaches rfl (fun e _ => ?_) ⟨fun e he => ?_, fun _ _ => trivial⟩ hr
  · refine chainRules.safe_start claimActs shared tasks e ⟨fun _ _ _ _ _ _ => ?_, ?_, ?_⟩
    · exact safe_acceptQuote _ _ _ _ _
    · exact fun preimageHash values _ => checks.evm preimageHash values
    · exact fun vHtlc _ => checks.ark vHtlc
  · cases he

end chainExpiry

/-! ## Every run -/

/-- No lockup of the server is abandoned by expiry, in every run in which the expiry of a reverse
swap never acts on an event that is older than the lockup. -/
theorem no_lockup_abandoned {s : World} {h : History} (hr : Reaches freshExpiry start s h) :
    NoLockupAbandoned h := by
  intro e he
  unfold abandonsLockup
  split
  · rename_i id hl
    have hinv : (reverseExpiry id).logic.Inv h := reverseExpiry.inv_of_reaches hr
    have hmem : e ∈ ((reverseExpiry id).obs h).past :=
      List.mem_filter.mpr ⟨he, by simp [reverseExpiry.relevant_eq, hl]⟩
    cases hb : e.before.reverseSwaps.get id with
    | none => rfl
    | some row => simp [hinv.1 e hmem row hb]
  · rename_i id hl
    have hinv : (chainExpiry id).logic.Inv h := chainExpiry.inv_of_reaches hr
    have hmem : e ∈ ((chainExpiry id).obs h).past :=
      List.mem_filter.mpr ⟨he, by simp [chainExpiry.relevant_eq, hl]⟩
    cases hb : e.before.chainSwaps.get id with
    | none => rfl
    | some row => simp [hinv.1 e hmem row hb]
  · rfl

/-! ## Runs of one reverse swap -/

def bitcoin : Currency := { symbol := 0, type := .bitcoinLike }

/-- A reverse swap that was just created. -/
def openReverseSwap : ReverseSwap where
  preimageHash := 0
  invoice := 7
  minerFeeInvoice := none
  minerFeeInvoicePreimage := none
  version := .taproot
  chainCurrency := bitcoin
  timeoutBlockHeight := 10
  onchainAmount := 1000
  status := swapCreated
  failureReason := none
  transactionId := none
  transactionVout := none
  minerFee := none
  preimage := none

def reverseWorld : World := { reverseSwaps := Table.empty.put 1 openReverseSwap }

/-- The blocks that expire the swap: its row is read (task `n`), and its expiry is emitted. -/
def expireReverseSwaps (n : Nat) : List (Move Entry Answer) :=
  [.spawn (.checkExpiredReverseSwaps (fun _ => true) 10)] ++ steps n [.nothing, .nothing]

/-- The hold invoice is accepted (tasks 0 and 1), the approver accepts (task 3), and the server
sends the transaction of its lockup (task 2). -/
def sendReverseLockup : List (Move Entry Answer) :=
  [.spawn (.htlcAccepted 7)] ++ steps 0 [.nothing, .nothing] ++
    steps 1 [.nothing, .nothing, .nothing] ++ steps 2 [.nothing, .nothing, .nothing] ++
    steps 3 [.nothing, .approval (some .accept), .nothing] ++
    steps 2 [.nothing, .nothing, .nothing, .nothing, .nothing, .flag true, .flag false,
      .flag true, .nothing]

theorem no_lockup_abandoned_unlocked : ∃ h, Reaches freshExpiry start reverseWorld h ∧
    h.trace.any (fun e => e.label == .setReverseSwapExpired 1) = true ∧ NoLockupAbandoned h := by
  obtain ⟨h, hr, hexpired⟩ := Reaches.of_run freshExpiry start reverseWorld
    (expireReverseSwaps 0 ++ steps 1 [.nothing, .nothing, .nothing])
    (fun h => h.trace.any fun e => e.label == .setReverseSwapExpired 1) (by decide +kernel)
  exact ⟨h, hr, hexpired, no_lockup_abandoned hr⟩

/-- The swap expires (tasks 4 and 5) while its lockup is being sent with the lock (task 2). The
lockup is stored before the expiry gets the lock, and the expiry abandons it. -/
theorem stale_expiry_abandons_lockup :
    ∃ h, Reaches Policy.free start reverseWorld h ∧ ¬NoLockupAbandoned h := by
  obtain ⟨h, hr, habandoned⟩ := Reaches.of_run Policy.free start reverseWorld
    (sendReverseLockup ++ expireReverseSwaps 4 ++
      steps 2 [.send (.sent 5 0 1), .nothing, .nothing] ++
      steps 5 [.nothing, .nothing, .nothing])
    (fun h => h.trace.any abandonsLockup) (by decide +kernel)
  refine ⟨h, hr, fun hno => ?_⟩
  obtain ⟨e, he, hab⟩ := List.any_eq_true.mp habandoned
  rw [hno e he] at hab
  cases hab

end Boltz

import Boltz.Safety.Expiry

/-!
# The server locks up at most once

A reverse swap is locked up while its status is `SwapCreated` or `MinerFeePaid`, a chain swap while
its status is actionable and no lockup is stored. Both are checked with the lock of the swap, and
the result of the send is stored before the lock is given back.
-/

namespace Boltz

open Async SwapUpdateEvent

/-- The step broadcasts a lockup of the server for the swap. -/
def broadcastsLockup (type : SwapType) (id : Nat) (e : Event Label World Answer) : Bool :=
  match e.label with
  | .sendLockup swap => swap.type == type && swap.id == id && e.answer.send?.any (·.broadcast)
  | _ => false

def countLockups (type : SwapType) (id : Nat) (past : List (Event Label World Answer)) : Nat :=
  past.countP (broadcastsLockup type id)

def LocksUpOnce (h : History) : Prop := ∀ type id, countLockups type id h.trace ≤ 1

/-- A miner fee is stored only while the swap waits for its lockup, or before any lockup. Nothing
is renegotiated. -/
def timelyMinerFee : Policy Entry Label World Answer where
  spawn e := match e with
    | .acceptQuote .. => false
    | _ => true
  allow l _ h _ := match l with
    | .setMinerFeePaid id =>
      (h.world.reverseSwaps.get id).any Rules.eligible ||
        countLockups .reverseSubmarine id h.trace == 0
    | _ => true

/-- The labels of the sends of a swap. -/
def isSendOf (type : SwapType) (id : Nat) : Label → Bool
  | .sendLockup swap => swap.type == type && swap.id == id
  | _ => false

theorem isSendOf_of_broadcasts {type : SwapType} {id : Nat} {e : Event Label World Answer}
    (he : broadcastsLockup type id e = true) : isSendOf type id e.label = true := by
  unfold broadcastsLockup at he
  unfold isSendOf
  split at he
  · simp_all
  · cases he

theorem countLockups_filter (type : SwapType) (id : Nat)
    (past : List (Event Label World Answer)) :
    countLockups type id (past.filter fun e => isSendOf type id e.label) =
      countLockups type id past := by
  unfold countLockups
  rw [List.countP_filter]
  refine List.countP_congr fun e _ => ?_
  constructor
  · intro h
    simp only [Bool.and_eq_true] at h
    exact h.1
  · intro h
    simp only [Bool.and_eq_true]
    exact ⟨h, isSendOf_of_broadcasts h⟩

theorem countLockups_cons_le (type : SwapType) (id : Nat) (e : Event Label World Answer)
    (past : List (Event Label World Answer)) :
    countLockups type id (e :: past) ≤ countLockups type id past + 1 := by
  unfold countLockups
  rw [List.countP_cons]
  split <;> omega

/-! ## The lockup of one swap -/

section lockup

variable {R : Type} {𝓡 : Rules Unit (Option R)} {able : R → Bool} {server : ServerSwap} {id : Nat}

/-- The sends of the swap are counted, and once there is one, the swap is not able to be locked up
while its lock is free. -/
structure GuardsSends (𝓡 : Rules Unit (Option R)) (able : R → Bool) (type : SwapType)
    (id : Nat) : Prop where
  relevant : ∀ l, 𝓡.relevant l = isSendOf type id l
  inv : ∀ o, 𝓡.Inv o ↔ countLockups type id o.past ≤ 1
  res : ∀ o, 𝓡.Res () o ↔
    (0 < countLockups type id o.past → ¬∃ s, o.now = some s ∧ able s = true)
  keep : ∀ o o', 𝓡.Keep () o o' → countLockups type id o'.past = countLockups type id o.past
  any : ∀ o o', 𝓡.Any o o'

namespace GuardsSends

/-- Before the send: the swap that was loaded is `lockable`, and nothing was sent for it. -/
def Ready (𝓡 : Rules Unit (Option R)) (server : ServerSwap) (id : Nat) (lockable : Prop)
    (o : RowObs R) : Prop :=
  lockable ∧ 𝓡.Res () o ∧ (server.id = id → countLockups server.type id o.past = 0)

/-- After the send. -/
def Sent (𝓡 : Rules Unit (Option R)) (server : ServerSwap) (id : Nat) (lockable : Prop)
    (o : RowObs R) : Prop :=
  lockable ∧ (server.id ≠ id → 𝓡.Res () o)

variable {lockable : Prop}

theorem steady_ready (hg : GuardsSends 𝓡 able server.type id) :
    𝓡.Steady [()] (Ready 𝓡 server id lockable) := by
  intro o o' _ hkeep _ ho
  have hk : 𝓡.Keep () o o' := hkeep () (by simp)
  refine ⟨ho.1, 𝓡.res_keep hk ho.2.1, fun hid => ?_⟩
  rw [hg.keep o o' hk]
  exact ho.2.2 hid

theorem steady_sent : 𝓡.Steady [()] (Sent 𝓡 server id lockable) := by
  intro o o' _ hkeep _ ho
  have hk : 𝓡.Keep () o o' := hkeep () (by simp)
  exact ⟨ho.1, fun hid => 𝓡.res_keep hk (ho.2 hid)⟩

theorem does_send (hg : GuardsSends 𝓡 able server.type id) :
    𝓡.Does [()] (Ready 𝓡 server id lockable) (askAct (.sendLockup server) Answer.send?)
      fun _ => Sent 𝓡 server id lockable := by
  refine Rules.does_of_moves (fun t w ω b w' he => ?_) fun t h ω b w hi hB _ he => ?_
  · obtain ⟨_, _, rfl, rfl⟩ := by simpa [askAct] using he
    rfl
  · obtain ⟨_, _, rfl, rfl⟩ := by simpa [askAct] using he
    change 𝓡.Moves [()] _ (𝓡.obs (h.record t (.sendLockup server) ω h.world)) _
    by_cases hid : server.id = id
    · rw [Guarded.obs_loud (by simp [hg.relevant, isSendOf, hid])]
      refine ⟨(hg.inv _).mpr ?_, hg.any _ _, fun k hk => absurd (by simp) hk, hB.1,
        fun hne => absurd hid hne⟩
      have hzero := hB.2.2 hid
      have hle := countLockups_cons_le server.type id
        ⟨t, .sendLockup server, ω, h.world, h.world⟩ (𝓡.obs h).past
      change countLockups _ _ (_ :: _) ≤ 1
      omega
    · rw [Guarded.obs_quiet (by simp [hg.relevant, isSendOf, hid]) rfl]
      exact Rules.moves_refl hi ⟨hB.1, fun _ => hB.2.1⟩

/-- The result of the send closes the swap. -/
theorem does_close (hg : GuardsSends 𝓡 able server.type id) {get : World → Table R}
    {set : Table R → World → World} (hrow : 𝓡.RowOf get set id (fun v => v) fun x _ => x)
    {f : R → R} (hclosed : lockable → ∀ s, able (f s) = false) :
    𝓡.Does [()] (Sent 𝓡 server id lockable)
      (writeAct .other fun w => set ((get w).modify server.id f) w) fun _ => 𝓡.Res () := by
  refine Rules.does_modify hrow 𝓡.relevant_other (fun o hnone ho => ?_) ?_
  · by_cases hid : server.id = id
    · refine (hg.res o).mpr fun _ hopen => ?_
      obtain ⟨s, hs, _⟩ := hopen
      rw [hnone hid] at hs
      cases hs
    · exact ho.2 hid
  · intro hid t h ω r hi hB _ hr
    refine ⟨(hg.inv _).mpr ((hg.inv (𝓡.obs h)).mp hi), hg.any _ _, fun k hk => absurd (by simp) hk,
      (hg.res _).mpr fun _ hopen => ?_⟩
    obtain ⟨s, hs, ha⟩ := hopen
    cases hs
    rw [hclosed hB.1 r] at ha
    cases ha

theorem lockupSpec (hg : GuardsSends 𝓡 able server.type id)
    (hstore : ∀ transactionId fee amount stored, 𝓡.Does [()] (Sent 𝓡 server id lockable)
      (setServerLockupAct server transactionId amount fee stored) fun _ => 𝓡.Res ())
    (hfailed : 𝓡.Does [()] (Sent 𝓡 server id lockable)
      (setStatusAct server transactionFailed (some .coinsCouldNotBeSent) .other)
      fun _ => 𝓡.Res ()) :
    𝓡.LockupSpec [()] server (Ready 𝓡 server id lockable) (Ready 𝓡 server id lockable)
      (fun _ => Sent 𝓡 server id lockable) (𝓡.Res ()) where
  begin := (Rules.quiet_write (by rw [hg.relevant]; rfl) fun _ => ⟨rfl, rfl⟩).does
  send := does_send hg
  store transactionId _ fee amount stored := hstore transactionId fee amount stored
  unsent := hfailed.mono (fun _ ho => ⟨ho.1, fun _ => ho.2.1⟩) fun _ _ h => h
  failed _ _ := hfailed
  steady_ready := steady_ready hg
  steady_sending := steady_ready hg
  steady_sent _ := steady_sent
  steady_ended := Rules.steady_own

/-- Nothing was sent for a swap that is able to be locked up. -/
theorem ready_of_able (hg : GuardsSends 𝓡 able server.type id) {o : RowObs R} (hres : 𝓡.Res () o)
    (hl : lockable) (hable : server.id = id → ∃ s, o.now = some s ∧ able s = true) :
    Ready 𝓡 server id lockable o := by
  refine ⟨hl, hres, fun hid => ?_⟩
  by_contra hne
  exact (hg.res o).mp hres (Nat.pos_of_ne_zero hne) (hable hid)

end GuardsSends

end lockup

/-! ## Reverse swaps -/

/-- The swap could be locked up. -/
def OpenReverse (o : RowObs ReverseSwap) : Prop := ∃ s, o.now = some s ∧ Rules.eligible s = true

def reverseOnceLogic (id : Nat) : RowLogic (Option ReverseSwap) Label.isReverse where
  relevant := isSendOf .reverseSubmarine id
  allow := timelyMinerFee.allow
  Inv o := countLockups .reverseSubmarine id o.past ≤ 1
  Res o := 0 < countLockups .reverseSubmarine id o.past → ¬OpenReverse o
  Keep o o' := countLockups .reverseSubmarine id o'.past = countLockups .reverseSubmarine id o.past ∧
    (0 < countLockups .reverseSubmarine id o.past → OpenReverse o' → OpenReverse o)
  Any _ _ := True
  keep_refl _ := ⟨rfl, fun _ h => h⟩
  keep_trans h₁ h₂ := ⟨h₂.1.trans h₁.1, fun hn h => h₁.2 hn (h₂.2 (h₁.1 ▸ hn) h)⟩
  any_refl _ := trivial
  any_trans _ _ := trivial
  res_keep hk hr hn ho := by
    rw [hk.1] at hn
    exact hr hn (hk.2 hn ho)
  kind l hl := by
    cases l <;> simp_all [isSendOf, Label.isReverse]
    rename_i swap
    cases swap <;> simp_all [ServerSwap.type, ServerSwap.isReverse]
  other := rfl

abbrev reverseOnce (id : Nat) : Rules Unit (Option ReverseSwap) :=
  reverseRules (reverseOnceLogic id) id

namespace reverseOnce

variable {id : Nat} {ks : List Unit} {B : RowObs ReverseSwap → Prop}

theorem relevant_eq (l : Label) :
    (reverseOnce id).relevant l = isSendOf .reverseSubmarine id l := rfl

/-- What a write of the status makes of a row. -/
theorem eligible_save {old new s : ReverseSwap}
    (hnew : new.status = old.status ∨ Rules.eligible new = false)
    (he : Rules.eligible (old.save new s) = true) : Rules.eligible s = true := by
  unfold Rules.eligible ReverseSwap.save at *
  dsimp only at he
  rcases saved_cases old.status new.status s.status with h | h
  · rw [h] at he
    exact he
  · rcases hnew with hnew | hnew
    · rw [hnew, saved_self] at he
      exact he
    · rw [h, hnew] at he
      cases he

/-- A write that does not make the swap eligible. -/
theorem does_update {swap : Instance ReverseSwap} {new : ReverseSwap} {l : Label}
    (hl : (reverseOnce id).relevant l = false)
    (hnew : new.status = swap.row.status ∨ Rules.eligible new = false)
    (hB : ∀ o o', (reverseOnceLogic id).Keep o o' → B o → B o') :
    (reverseOnce id).Does ks B (reverseUpdateAct swap new l) fun _ => B := by
  refine Rules.does_modify reverseRules.row hl (fun o _ ho => ho) fun _ t h ω r hi hBo _ hr => ?_
  have hkeep : (reverseOnceLogic id).Keep ((reverseOnce id).obs h)
      ⟨some (swap.row.save new r), ((reverseOnce id).obs h).past⟩ := by
    refine ⟨rfl, fun _ ho => ?_⟩
    obtain ⟨s, hs, he⟩ := ho
    cases hs
    exact ⟨r, hr, eligible_save hnew he⟩
  exact ⟨hi, trivial, fun _ _ => hkeep, hB _ _ hkeep hBo⟩

theorem free_update {swap : Instance ReverseSwap} {new : ReverseSwap} {l : Label}
    (hl : (reverseOnce id).relevant l = false)
    (hnew : new.status = swap.row.status ∨ Rules.eligible new = false) :
    (reverseOnce id).logic.Free (reverseUpdateAct swap new l) :=
  Guarded.Does.free (does_update hl hnew fun _ _ _ h => h)

theorem keeps_update {swap : Instance ReverseSwap} {new : ReverseSwap} {l : Label}
    (hl : (reverseOnce id).relevant l = false)
    (hnew : new.status = swap.row.status ∨ Rules.eligible new = false) :
    (reverseOnce id).KeepsRes () (reverseUpdateAct swap new l) :=
  does_update hl hnew fun _ _ hk hr => (reverseOnceLogic id).res_keep hk hr

theorem keeps_setStatus (swap : Instance ReverseSwap) {status : SwapUpdateEvent}
    {reason : Option SwapError} (hs : [swapCreated, minerFeePaid].contains status = false) :
    (reverseOnce id).KeepsRes () (setStatusAct (.reverse swap) status reason .other) :=
  keeps_update rfl (.inr hs)

theorem count_obs (h : History) :
    countLockups .reverseSubmarine id ((reverseOnce id).obs h).past =
      countLockups .reverseSubmarine id h.trace :=
  countLockups_filter .reverseSubmarine id h.trace

/-- The miner fee is stored while the swap is eligible anyway, or before any lockup. -/
theorem free_minerFeePaid (swap : Instance ReverseSwap) : (reverseOnce id).logic.Free
    (setStatusAct (.reverse swap) minerFeePaid none (.setMinerFeePaid swap.id)) := by
  refine Guarded.Does.free (C := fun _ _ => True) ?_
  refine Rules.does_modify reverseRules.row rfl (fun _ _ _ => trivial) ?_
  intro hid t h ω r hi _ ha hr
  refine ⟨hi, trivial, fun _ _ => ⟨rfl, fun hn _ => ?_⟩, trivial⟩
  have hrow : h.world.reverseSwaps.get swap.id = some r := hid ▸ hr
  have hallow : (h.world.reverseSwaps.get swap.id).any Rules.eligible = true ∨
      countLockups .reverseSubmarine swap.id h.trace = 0 := by
    simpa [reverseRules, RowLogic.guarded, reverseOnceLogic, timelyMinerFee] using ha
  rw [hrow, hid] at hallow
  rcases hallow with he | hzero
  · exact ⟨r, hr, he⟩
  · rw [count_obs, hzero] at hn
    omega

theorem guards : GuardsSends (reverseOnce id) Rules.eligible .reverseSubmarine id :=
  ⟨fun _ => rfl, fun _ => Iff.rfl, fun _ => Iff.rfl, fun _ _ h => h.1, fun _ _ => trivial⟩

theorem closed_save {old new : ReverseSwap} (hnew : Rules.eligible new = false)
    (hold : Rules.eligible old = true) (s : ReverseSwap) :
    Rules.eligible (old.save new s) = false := by
  have hne : new.status ≠ old.status := by
    intro heq
    unfold Rules.eligible at hold hnew
    rw [heq, hold] at hnew
    cases hnew
  have hst : (old.save new s).status = new.status := saved_of_ne hne s.status
  unfold Rules.eligible at hnew ⊢
  rw [hst]
  exact hnew

theorem lockupSpec (swap : Instance ReverseSwap) :
    (reverseOnce id).LockupSpec [()] (.reverse swap)
      (GuardsSends.Ready (reverseOnce id) (.reverse swap) id (Rules.eligible swap.row = true))
      (GuardsSends.Ready (reverseOnce id) (.reverse swap) id (Rules.eligible swap.row = true))
      (fun _ =>
        GuardsSends.Sent (reverseOnce id) (.reverse swap) id (Rules.eligible swap.row = true))
      ((reverseOnce id).Res ()) :=
  guards.lockupSpec
    (fun _ _ _ _ => guards.does_close reverseRules.row fun hl s => closed_save rfl hl s)
    (guards.does_close reverseRules.row fun hl s => closed_save rfl hl s)

theorem shared : SharedTasks (reverseOnce id).SafeTask := by
  refine Rules.sharedTasks_of_reverse (k := ()) reverseRules.ignoresChain rfl
    (fun swap client _ => ?_) fun swap status hs => ?_
  · exact Rules.Locked.of_uses (uses_handleSwapSendFailed Rules.plain_keepsRes
      (keeps_setStatus swap rfl) client)
  · refine free_update rfl (.inr ?_)
    rcases hs with rfl | rfl <;> rfl

/-- A swap that is loaded with the lock and is eligible was never locked up. -/
theorem safe_invoicePaid (swapId : Nat) :
    (reverseOnce id).logic.Safe (invoicePaidHandler swapId) := by
  refine Rules.safe_invoicePaidHandler (k := ()) rfl reverseRules.quiet_holds
    reverseRules.ignoresClaims shared.scan ?_ lockupSpec fun swap o ho => ho.2.1
  intro t h swap _ hA hs he
  refine guards.ready_of_able hA.2 he fun hid => ⟨swap.row, ?_, he⟩
  obtain ⟨hsid, hrow⟩ := Table.byId_eq_some.mp hs
  have hswap : swap.id = id := hid
  change h.world.reverseSwaps.get id = some swap.row
  rw [← hswap, hsid]
  exact hrow

theorem locked_expire (swap : Instance ReverseSwap) :
    (reverseOnce id).Locked () (expireReverseSwap swap) := by
  refine .of_uses (uses_expireReverseSwap Rules.plain_keepsRes reverseRules.refunds
    (fun f => (Rules.quiet_read rfl f).does) ⟨?_, fun _ _ => ?_, shared.refundConfirmed⟩)
  · exact keeps_update rfl (.inr rfl)
  · exact keeps_update rfl (.inr rfl)

theorem tasks : ReverseTasks (reverseOnce id).SafeTask := by
  have hp : Plain ((reverseOnce id).KeepsRes ()) := Rules.plain_keepsRes
  refine Rules.reverseTasks_of_locked (k := ()) rfl ?_ free_minerFeePaid ?_ ?_ ?_ ?_ locked_expire
  · exact Rules.safe_emitInvoicePaid (fun _ => rfl) safe_invoicePaid
  · exact fun swapId => .of_uses (uses_expireInvoice hp
      (fun swap _ => keeps_setStatus swap rfl) swapId)
  · exact fun swapId preimage => .of_uses (uses_settleReverseSwapInvoice hp
      (fun _ _ => keeps_update rfl (.inr rfl)) swapId preimage)
  · exact fun swap preimage => free_update rfl (.inl rfl)
  · exact fun swapId => .of_uses (uses_confirmReverseLockup hp
      (fun swap => keeps_setStatus swap rfl) swapId)

theorem count_le_one {s : World} {h : History} (hr : Reaches timelyMinerFee start s h) :
    countLockups .reverseSubmarine id h.trace ≤ 1 := by
  have hinv : (reverseOnce id).logic.Inv h := by
    refine Logic.inv_of_reaches rfl (fun e _ => ?_) ⟨Nat.zero_le 1, fun _ _ hn => ?_⟩ hr
    · exact reverseRules.safe_start shared tasks safe_invoicePaid e
    · exact absurd hn (Nat.lt_irrefl 0)
  rw [← count_obs]
  exact hinv.1

end reverseOnce

/-! ## Chain swaps -/

/-- The swap could be locked up, or could get there. -/
def alive (s : ChainSwap) : Bool :=
  s.sendingData.transactionId.isNone &&
    ChainSwapRepository.defaultUserLockupTransactionStatuses.contains s.status

def OpenChain (o : RowObs ChainSwap) : Prop := ∃ s, o.now = some s ∧ alive s = true

def chainOnceLogic (id : Nat) : RowLogic (Option ChainSwap) Label.isChain where
  relevant := isSendOf .chain id
  allow := timelyMinerFee.allow
  Inv o := countLockups .chain id o.past ≤ 1
  Res o := 0 < countLockups .chain id o.past → ¬OpenChain o
  Keep o o' := countLockups .chain id o'.past = countLockups .chain id o.past ∧
    (OpenChain o' → OpenChain o)
  Any _ _ := True
  keep_refl _ := ⟨rfl, fun h => h⟩
  keep_trans h₁ h₂ := ⟨h₂.1.trans h₁.1, fun h => h₁.2 (h₂.2 h)⟩
  any_refl _ := trivial
  any_trans _ _ := trivial
  res_keep hk hr hn ho := by
    rw [hk.1] at hn
    exact hr hn (hk.2 ho)
  kind l hl := by
    cases l <;> simp_all [isSendOf, Label.isChain]
    rename_i swap
    cases swap <;> simp_all [ServerSwap.type, ServerSwap.isReverse]
  other := rfl

abbrev chainOnce (id : Nat) : Rules Unit (Option ChainSwap) :=
  chainRules (chainOnceLogic id) (ofChain_row id)

namespace chainOnce

variable {id : Nat} {ks : List Unit} {B : RowObs ChainSwap → Prop}

theorem relevant_eq (l : Label) : (chainOnce id).relevant l = isSendOf .chain id l := rfl

/-- A row that replaces `s` and is alive only if `s` was. -/
theorem keep_of_alive {o : RowObs ChainSwap} {s s' : ChainSwap} (hs : o.now = some s)
    (ha : alive s' = true → alive s = true) :
    (chainOnceLogic id).Keep o ⟨some s', o.past⟩ := by
  refine ⟨rfl, fun ho => ?_⟩
  obtain ⟨r, hr, hra⟩ := ho
  cases hr
  exact ⟨s, hs, ha hra⟩

theorem does_write {j : Nat} {f : ChainSwap → ChainSwap} {l : Label}
    (hl : (chainOnce id).relevant l = false) (hf : ∀ s, alive (f s) = true → alive s = true)
    (hB : ∀ o o', (chainOnceLogic id).Keep o o' → B o → B o') :
    (chainOnce id).Does ks B (writeAct l fun w => setChainSwaps (w.chainSwaps.modify j f) w)
      fun _ => B := by
  refine Rules.does_modify chainRules.row hl (fun o _ ho => ho) fun _ t h ω r hi hBo _ hr => ?_
  have hkeep : (chainOnceLogic id).Keep _ _ := keep_of_alive hr (hf r)
  exact ⟨hi, trivial, fun _ _ => hkeep, hB _ _ hkeep hBo⟩

/-- A status that no user lockup can be stored in. -/
def Dead (status : SwapUpdateEvent) : Prop :=
  ChainSwapRepository.defaultUserLockupTransactionStatuses.contains status = false

theorem alive_save {old new s : ChainSwap}
    (hstatus : new.status = old.status ∨ Dead new.status)
    (htx : new.sendingData.transactionId = old.sendingData.transactionId)
    (ha : alive (old.save new s) = true) : alive s = true := by
  unfold alive at *
  rw [chainExpiry.save_transactionId old new s htx] at ha
  have hst : (old.save new s).status = saved old.status new.status s.status := rfl
  rw [hst] at ha
  rcases hstatus with heq | hdead
  · rwa [heq, saved_self] at ha
  · rcases saved_cases old.status new.status s.status with hc | hc
    · rwa [hc] at ha
    · rw [hc, hdead] at ha
      simp at ha

theorem alive_userLockup {s : ChainSwap} {incoming : LockupIdentity} {amount : Nat}
    {status : SwapUpdateEvent}
    (ha : alive (ChainSwapRepository.userLockupWrite s incoming amount status {}).2 = true) :
    alive s = true := by
  unfold alive at *
  rw [ChainSwapRepository.userLockupWrite_sendingData, Bool.and_eq_true] at ha
  rw [Bool.and_eq_true]
  refine ⟨ha.1, ?_⟩
  by_contra hdead
  have hnot : (ChainSwapRepository.getUserLockupTransactionStatuses {}).contains s.status =
      false := by simpa [ChainSwapRepository.getUserLockupTransactionStatuses] using hdead
  rw [ChainSwapRepository.userLockupWrite_of_not_updatable hnot] at ha
  exact hdead ha.2

theorem alive_zeroConf {s : ChainSwap} {incoming : LockupIdentity}
    (ha : alive (ChainSwapRepository.zeroConfRejectedWrite s incoming) = true) :
    alive s = true := by
  unfold alive at *
  rw [ChainSwapRepository.zeroConfRejectedWrite_sendingData, Bool.and_eq_true] at ha
  rw [Bool.and_eq_true]
  refine ⟨ha.1, ?_⟩
  rcases ChainSwapRepository.zeroConfRejectedWrite_cases s incoming with h | ⟨hmempool, _⟩
  · rw [h] at ha
    exact ha.2
  · rw [hmempool]
    rfl

theorem free_update {swap : Instance ChainSwap} {new : ChainSwap} {l : Label}
    (hl : (chainOnce id).relevant l = false)
    (hstatus : new.status = swap.row.status ∨ Dead new.status)
    (htx : new.sendingData.transactionId = swap.row.sendingData.transactionId) :
    (chainOnce id).logic.Free (chainUpdateAct swap new l) :=
  Guarded.Does.free (does_write hl (fun _ => alive_save hstatus htx) fun _ _ _ h => h)

theorem keeps_update {swap : Instance ChainSwap} {new : ChainSwap} {l : Label}
    (hl : (chainOnce id).relevant l = false)
    (hstatus : new.status = swap.row.status ∨ Dead new.status)
    (htx : new.sendingData.transactionId = swap.row.sendingData.transactionId) :
    (chainOnce id).KeepsRes () (chainUpdateAct swap new l) :=
  does_write hl (fun _ => alive_save hstatus htx) fun _ _ hk hr =>
    (chainOnceLogic id).res_keep hk hr

theorem keeps_setStatus (swap : Instance ChainSwap) {status : SwapUpdateEvent}
    {reason : Option SwapError} {l : Label} (hl : (chainOnce id).relevant l = false)
    (hs : Dead status) :
    (chainOnce id).KeepsRes () (setStatusAct (.chain swap) status reason l) :=
  keeps_update hl (.inr hs) rfl

theorem free_userLockup (j : Nat) (incoming : LockupIdentity) (amount : Nat)
    (status : SwapUpdateEvent) :
    (chainOnce id).logic.Free (userLockupAct j incoming amount status {}) := by
  refine Guarded.Does.free (C := fun _ _ => True) ?_
  refine Rules.does_userLockup chainRules.row (fun _ _ _ => trivial) fun _ h r hi _ hr => ?_
  exact ⟨hi, trivial, fun _ _ => keep_of_alive hr alive_userLockup, trivial⟩

theorem free_zeroConfRejected (j : Nat) (incoming : LockupIdentity) :
    (chainOnce id).logic.Free (zeroConfRejectedAct j incoming) :=
  Guarded.Does.free (does_write rfl (fun _ => alive_zeroConf) fun _ _ _ h => h)

theorem free_refundSigned (j : Nat) : (chainOnce id).logic.Free (chainRefundSignedAct j) :=
  Guarded.Does.free (does_write rfl (fun _ h => h) fun _ _ _ h => h)

theorem guards : GuardsSends (chainOnce id) alive .chain id :=
  ⟨fun _ => rfl, fun _ => Iff.rfl, fun _ => Iff.rfl, fun _ _ h => h.1, fun _ _ => trivial⟩

theorem of_lockable {s : ChainSwap} {event : Option (Nat × Nat)}
    (h : Rules.lockable s event = true) :
    alive s = true ∧ actionableChainSwapLockupStatuses.contains s.status = true := by
  simp only [Rules.lockable, Bool.and_eq_true] at h
  obtain ⟨⟨⟨⟨_, hact⟩, _⟩, htx⟩, _⟩ := h
  refine ⟨?_, hact⟩
  unfold alive
  rw [htx, Bool.true_and]
  simp only [actionableChainSwapLockupStatuses, List.contains_eq_mem, List.mem_cons,
    List.not_mem_nil, or_false, decide_eq_true_eq] at hact
  rcases hact with hs | hs | hs <;> rw [hs] <;> rfl

theorem closed_by_failure {swap : ChainSwap} {reason : Option SwapError}
    (hl : ∃ event, Rules.lockable swap event = true) (s : ChainSwap) :
    alive (swap.save (swap.withStatus transactionFailed reason) s) = false := by
  obtain ⟨event, hl⟩ := hl
  have hact := (of_lockable hl).2
  have hne : transactionFailed ≠ swap.status := by
    intro heq
    rw [← heq] at hact
    cases hact
  have hst : (swap.save (swap.withStatus transactionFailed reason) s).status =
      transactionFailed := saved_of_ne hne s.status
  unfold alive
  rw [hst]
  simp [ChainSwapRepository.defaultUserLockupTransactionStatuses]

theorem closed_by_lockup {swap : ChainSwap} {transactionId amount fee : Nat} {vout : Option Nat}
    (hl : ∃ event, Rules.lockable swap event = true) (s : ChainSwap) :
    alive (swap.save (swap.withLockup transactionId amount fee vout) s) = false := by
  obtain ⟨event, hl⟩ := hl
  have halive := (of_lockable hl).1
  have hnone : swap.sendingData.transactionId = none := by
    unfold alive at halive
    simp only [Bool.and_eq_true, Option.isNone_iff_eq_none] at halive
    exact halive.1
  have htx : (swap.save (swap.withLockup transactionId amount fee vout) s).sendingData.transactionId
      = some transactionId := saved_of_ne (by rw [hnone]; exact Option.some_ne_none _) _
  unfold alive
  rw [htx]
  rfl

/-- The result of the send closes the swap: with the transaction id or with the status. -/
theorem lockupSpec (swap : Instance ChainSwap) :
    (chainOnce id).LockupSpec [()] (.chain swap)
      (GuardsSends.Ready (chainOnce id) (.chain swap) id
        (∃ event, Rules.lockable swap.row event = true))
      (GuardsSends.Ready (chainOnce id) (.chain swap) id
        (∃ event, Rules.lockable swap.row event = true))
      (fun _ => GuardsSends.Sent (chainOnce id) (.chain swap) id
        (∃ event, Rules.lockable swap.row event = true))
      ((chainOnce id).Res ()) :=
  guards.lockupSpec (fun _ _ _ _ => guards.does_close chainRules.row closed_by_lockup)
    (guards.does_close chainRules.row closed_by_failure)

theorem shared : SharedTasks (chainOnce id).SafeTask := by
  refine Rules.sharedTasks_of_chain (k := ()) chainRules.ignoresReverse rfl (fun swap _ => ?_)
    fun swap status hs => ?_
  · exact Rules.Locked.of_uses (uses_handleSwapSendFailed Rules.plain_keepsRes
      (keeps_setStatus swap rfl rfl) false)
  · refine free_update rfl (.inr ?_) rfl
    rcases hs with rfl | rfl <;> rfl

theorem lockupTasks : ChainLockupTasks (chainOnce id).SafeTask where
  lockup swapId event := by
    have hq := Rules.quiet_read (𝓡 := chainOnce id) (l := .loadLockup swapId) rfl
      fun w => w.chainSwaps.byId swapId
    refine Rules.safe_chainSwapLockup (k := ()) rfl chainRules.quiet_holds
      chainRules.ignoresClaims shared.scan ?_ lockupSpec fun _ _ ho => ho.2.1
    refine Rules.does_read rfl fun t h ω _ hA _ => ⟨hA.2, fun swap hs hl => ?_⟩
    refine guards.ready_of_able hA.2 ⟨event, hl⟩ fun hid => ⟨swap.row, ?_, (of_lockable hl).1⟩
    obtain ⟨hsid, hrow⟩ := Table.byId_eq_some.mp hs
    have hswap : swap.id = id := hid
    change h.world.chainSwaps.get id = some swap.row
    rw [← hswap, hsid]
    exact hrow
  failed swap _ := (Rules.Locked.of_uses (k := ()) (uses_chainLockupFailed
    Rules.plain_keepsRes (keeps_setStatus swap rfl rfl))).safe rfl
  zeroConfRejected := (Rules.Locked.pure (k := ()) ()).safe rfl

theorem claimActs : ClaimActs (chainOnce id).FreeAct :=
  chainRules.claimActs (fun _ _ _ => free_update rfl (.inr rfl) rfl)
    fun _ _ => free_update rfl (.inr rfl) rfl

theorem settleActs : ClaimActs ((chainOnce id).KeepsRes ()) :=
  chainRules.settleActs (fun _ _ _ => keeps_update rfl (.inr rfl) rfl)
    fun _ _ => keeps_update rfl (.inr rfl) rfl

theorem locked_expire (swapId : Nat) : (chainOnce id).Locked () (expireChainSwap swapId) := by
  refine .of_uses (uses_expireChainSwap Rules.plain_keepsRes chainRules.refunds
    (fun f => (Rules.quiet_read rfl f).does) fun swap => ⟨?_, fun _ _ => ?_,
      shared.refundConfirmed⟩)
  · exact keeps_update rfl (.inr rfl) rfl
  · exact keeps_update rfl (.inr rfl) rfl

theorem checks : Rules.ChainChecks (chainOnce id).SafeTask :=
  Rules.chainChecks_of_free lockupTasks (fun _ _ _ _ _ => free_userLockup _ _ _ _)
    free_zeroConfRejected

theorem tasks : ChainTasks (chainOnce id).SafeTask := by
  refine Rules.chainTasks_of_locked (k := ()) rfl chainRules.ignoresClaims claimActs lockupTasks
    checks.utxo (fun swapId => ?_) locked_expire (fun swap preimage => ?_) ?_
    fun swap preimage => ?_
  · exact .of_uses (uses_confirmChainLockup Rules.plain_keepsRes
      fun swap => keeps_setStatus swap rfl rfl)
  · exact .of_uses (uses_settleChain settleActs swap preimage)
  · exact Rules.safe_signChainRefund (fun _ => by simp [chainRules]) (fun _ => rfl)
      (fun _ => rfl) (fun _ => rfl) free_refundSigned
  · exact free_update rfl (.inl rfl) rfl

theorem count_le_one {s : World} {h : History} (hr : Reaches timelyMinerFee start s h) :
    countLockups .chain id h.trace ≤ 1 := by
  have hinv : (chainOnce id).logic.Inv h := by
    refine Logic.inv_of_reaches rfl (fun e he => ?_) ⟨Nat.zero_le 1, fun _ _ hn => ?_⟩ hr
    · refine chainRules.safe_start claimActs shared tasks e ⟨fun _ _ _ _ _ hquote => ?_, ?_, ?_⟩
      · rw [hquote] at he
        cases he
      · exact fun preimageHash values _ => checks.evm preimageHash values
      · exact fun vHtlc _ => checks.ark vHtlc
    · exact absurd hn (Nat.lt_irrefl 0)
  have hcount : countLockups .chain id ((chainOnce id).obs h).past =
      countLockups .chain id h.trace := countLockups_filter .chain id h.trace
  rw [← hcount]
  exact hinv.1

end chainOnce

/-! ## Every run -/

theorem countLockups_submarine (id : Nat) (past : List (Event Label World Answer)) :
    countLockups .submarine id past = 0 := by
  unfold countLockups
  rw [List.countP_eq_zero]
  intro e _
  unfold broadcastsLockup
  split
  · rename_i swap _
    cases swap <;> simp [ServerSwap.type]
  · simp

/-- The server locks up at most once for each swap, in every run in which a paid miner fee is
stored only while the swap waits for its lockup or was not locked up yet. -/
theorem locks_up_once {s : World} {h : History} (hr : Reaches timelyMinerFee start s h) :
    LocksUpOnce h := by
  intro type id
  cases type with
  | submarine => rw [countLockups_submarine]; omega
  | reverseSubmarine => exact reverseOnce.count_le_one hr
  | chain => exact chainOnce.count_le_one hr

/-! ## Runs of one reverse swap with a miner fee invoice -/

/-- A reverse swap whose miner fee is paid with the invoice 8. -/
def prepaidWorld : World where
  reverseSwaps := Table.empty.put 1
    { openReverseSwap with minerFeeInvoice := some 8, minerFeeInvoicePreimage := some 9 }

/-- The miner fee invoice is accepted (tasks `n` and `n + 1`) while the hold invoice is, and
`invoice.paid` is emitted. -/
def acceptMinerFee (n : Nat) : List (Move Entry Answer) :=
  [.spawn (.htlcAccepted 8)] ++ steps n [.nothing, .nothing] ++
    steps (n + 1) [.nothing, .nothing, .nothing, .flag true, .flag true, .flag true, .nothing,
      .nothing] ++
    steps n [.flag true, .nothing]

/-- The handler of `invoice.paid` (task `n`): the approver accepts (task `n + 1`), and the server
locks up. -/
def approveAndLockup (n : Nat) : List (Move Entry Answer) :=
  steps n [.nothing, .nothing, .nothing] ++
    steps (n + 1) [.nothing, .approval (some .accept), .nothing] ++
    steps n [.nothing, .nothing, .nothing, .nothing, .nothing, .flag true, .flag false,
      .flag true, .nothing, .send (.sent 5 0 1), .nothing, .nothing]

theorem locks_up_once_prepaid : ∃ h, Reaches timelyMinerFee start prepaidWorld h ∧
    countLockups .reverseSubmarine 1 h.trace = 1 ∧ LocksUpOnce h := by
  obtain ⟨h, hr, hsent⟩ := Reaches.of_run timelyMinerFee start prepaidWorld
    (acceptMinerFee 0 ++ approveAndLockup 3)
    (fun h => countLockups .reverseSubmarine 1 h.trace == 1) (by decide +kernel)
  exact ⟨h, hr, by simpa using hsent, locks_up_once hr⟩

/-- The miner fee invoice is reported again after the lockup: the swap becomes eligible, and the
server locks up for the second time. -/
theorem repeated_miner_fee_locks_up_twice :
    ∃ h, Reaches Policy.free start prepaidWorld h ∧ ¬LocksUpOnce h := by
  obtain ⟨h, hr, htwice⟩ := Reaches.of_run Policy.free start prepaidWorld
    (acceptMinerFee 0 ++ approveAndLockup 3 ++ acceptMinerFee 5 ++ approveAndLockup 8)
    (fun h => countLockups .reverseSubmarine 1 h.trace == 2) (by decide +kernel)
  refine ⟨h, hr, fun honce => ?_⟩
  have hle := honce .reverseSubmarine 1
  rw [beq_iff_eq.mp htwice] at hle
  omega

end Boltz

import Boltz.Safety.LockupOnce

/-!
# The lockup that the server acted on

A transaction of the user owns a chain swap: it is recorded in the row, and another transaction
can take over only after a lockup failed or its 0-conf was rejected. Those writes do not take the
lock of the send. A rejection while the server sends opens the swap to another transaction.
-/

namespace Boltz

open Async SwapUpdateEvent

/-- The lockup of the user that a row records: transaction, output and amount. -/
def ChainSwap.userLockup (s : ChainSwap) : Option Nat × Option Nat × Option Nat :=
  (s.receivingData.transactionId, s.receivingData.transactionVout, s.receivingData.amount)

/-- From the start of a send on, the stored lockup of the user is the one that the send was
accepted for. -/
def LockupKept (h : History) : Prop :=
  ∀ e ∈ h.trace, ∀ swap, e.label = .beginLockup (.chain swap) →
    swap.row.receivingData.transactionId.isSome = true →
    (h.world.chainSwaps.get swap.id).map ChainSwap.userLockup = some swap.row.userLockup

def Label.loaded? : Label → Option Nat
  | .loadLockup id => some id
  | _ => none

/-- The swap that was loaded last with the lock. -/
def lastLoaded (past : List (Event Label World Answer)) : Option Nat :=
  past.findSome? (·.label.loaded?)

/-- The rejection of a 0-conf lockup may come between the load of the swap and its send. -/
def rejectsDuringLockup (h : History) (id : Nat) : Bool :=
  (h.world.locks .chainSwap).isSome && lastLoaded h.trace == some id &&
    (h.world.chainSwaps.get id).any (·.status == transactionMempool)

/-- No 0-conf lockup is rejected while the server may be sending for it. The lockups of the user
are transactions on a UTXO chain, and nothing is renegotiated. -/
def timelyRejections : Policy Entry Label World Answer where
  spawn e := match e with
    | .acceptQuote .. | .evmLockup .. | .vhtlcCreated .. => false
    | _ => true
  allow l _ h _ := match l with
    | .setZeroConfRejected id => !rejectsDuringLockup h id
    | _ => true

/-- Every recorded lockup is an output that pays to the swap. -/
def RecordedOutputs (w : World) : Prop :=
  ∀ id s transactionId, w.chainSwaps.get id = some s →
    s.receivingData.transactionId = some transactionId →
    ∃ vout value, w.lockupOutput .chain id transactionId = some (vout, value) ∧
      s.receivingData.transactionVout = some vout ∧ s.receivingData.amount = some value

/-! ## Rows -/

/-- The outputs of transactions that pay to one swap. -/
abbrev Outputs := Nat → Option (Nat × Nat)

def ChainSwap.Recorded (outputs : Outputs) (s : ChainSwap) : Prop :=
  ∀ transactionId, s.receivingData.transactionId = some transactionId →
    ∃ vout value, outputs transactionId = some (vout, value) ∧
      s.receivingData.transactionVout = some vout ∧ s.receivingData.amount = some value

/-- No lockup of the user is stored in this status. -/
def ChainSwap.closed (s : ChainSwap) : Bool :=
  !ChainSwapRepository.defaultUserLockupTransactionStatuses.contains s.status

/-- A write that keeps the owner: only a rejected 0-conf lockup loses its swap. -/
structure ChainSwap.Tame (outputs : Outputs) (s s' : ChainSwap) : Prop where
  closed : s.closed = true → s'.closed = true
  owner : s.receivingData.transactionId.isSome = true → s.status ≠ transactionZeroConfRejected →
    s'.userLockup = s.userLockup ∧ s'.status ≠ transactionZeroConfRejected
  recorded : s'.Recorded outputs

namespace ChainSwap

variable {outputs : Outputs} {s : ChainSwap}

theorem ne_zeroConfRejected_of_closed (h : s.closed = true) :
    s.status ≠ transactionZeroConfRejected := by
  intro hs
  unfold closed at h
  rw [hs] at h
  cases h

theorem recorded_of_userLockup {s' : ChainSwap} (hr : s.Recorded outputs)
    (h : s'.userLockup = s.userLockup) : s'.Recorded outputs := by
  simp only [userLockup, Prod.mk.injEq] at h
  obtain ⟨hid, hvout, hamount⟩ := h
  unfold Recorded at hr ⊢
  rw [hid, hvout, hamount]
  exact hr

theorem tame_of_userLockup {s' : ChainSwap} (hr : s.Recorded outputs)
    (h : s'.userLockup = s.userLockup) (hst : s'.status = s.status ∨ s'.closed = true) :
    Tame outputs s s' := by
  refine ⟨fun hc => ?_, fun _ hz => ⟨h, ?_⟩, recorded_of_userLockup hr h⟩
  · rcases hst with heq | hc'
    · unfold closed at hc ⊢
      rwa [heq]
    · exact hc'
  · rcases hst with heq | hc'
    · rwa [heq]
    · exact ne_zeroConfRejected_of_closed hc'

theorem save_userLockup {old new : ChainSwap} (h : new.userLockup = old.userLockup) :
    (old.save new s).userLockup = s.userLockup := by
  simp only [userLockup, Prod.mk.injEq] at h
  obtain ⟨hid, hvout, hamount⟩ := h
  simp [userLockup, save, ChainSwapData.save, hid, hvout, hamount]

theorem tame_save {old new : ChainSwap} (hr : s.Recorded outputs)
    (h : new.userLockup = old.userLockup) (hst : new.status = old.status ∨ new.closed = true) :
    Tame outputs s (old.save new s) := by
  refine tame_of_userLockup hr (save_userLockup h) ?_
  have hsave : (old.save new s).status = saved old.status new.status s.status := rfl
  rcases hst with heq | hc
  · rw [hsave, heq, saved_self]
    exact .inl rfl
  · rcases saved_cases old.status new.status s.status with hs | hs
    · exact .inl (hsave.trans hs)
    · refine .inr ?_
      unfold closed at hc ⊢
      rwa [hsave, hs]

/-- A transaction that pays to the swap: it is recorded for a swap without an owner, it is the
owner already, or it takes over. -/
theorem tame_userLockupWrite {transactionId vout value : Nat} {status : SwapUpdateEvent}
    (hr : s.Recorded outputs) (hout : outputs transactionId = some (vout, value))
    (hst : status ≠ transactionZeroConfRejected) :
    Tame outputs s
      (ChainSwapRepository.userLockupWrite s ⟨transactionId, some vout⟩ value status {}).2 := by
  by_cases hc : s.closed = true
  · have hnot : (ChainSwapRepository.getUserLockupTransactionStatuses {}).contains s.status =
        false := by simpa [closed, ChainSwapRepository.getUserLockupTransactionStatuses] using hc
    rw [ChainSwapRepository.userLockupWrite_of_not_updatable hnot]
    exact tame_of_userLockup hr rfl (.inl rfl)
  unfold ChainSwapRepository.userLockupWrite
  dsimp only
  split
  swap
  · exact tame_of_userLockup hr rfl (.inl rfl)
  rename_i hwrite
  cases hid : s.receivingData.transactionId with
  | none =>
    simp only [hid, storedLockup, Option.map_none, decideLockupWrite] at hwrite ⊢
    split at hwrite
    · cases hwrite
    rename_i hup
    rw [if_neg hup]
    refine ⟨fun h => absurd h hc, fun h => ?_, ?_⟩
    · rw [hid] at h
      cases h
    · rintro _ ⟨⟩
      exact ⟨vout, value, hout, rfl, rfl⟩
  | some owner =>
    obtain ⟨v, a, hv, hvout, hamount⟩ := hr owner hid
    simp only [hid, hvout, storedLockup, Option.map_some, decideLockupWrite] at hwrite ⊢
    by_cases hsame : isSameLockup ⟨owner, some v⟩ ⟨transactionId, some vout⟩ = true
    · have heq : owner = transactionId ∧ v = vout := by simpa [isSameLockup] using hsame
      obtain ⟨rfl, rfl⟩ := heq
      rw [hv] at hout
      obtain ⟨-, rfl⟩ := Prod.mk.inj (Option.some.inj hout)
      have hkeep : s.userLockup = (some owner, some v, some a) := by
        simp [userLockup, hid, hvout, hamount]
      rw [if_pos hsame]
      refine ⟨fun h => absurd h hc, fun _ _ => ⟨?_, hst⟩, ?_⟩
      · rw [hkeep]
        simp [userLockup]
      · rintro _ ⟨⟩
        exact ⟨v, a, hv, rfl, rfl⟩
    · rw [if_neg hsame] at hwrite ⊢
      split at hwrite
      swap
      · cases hwrite
      rename_i htake
      rw [if_pos htake]
      refine ⟨fun h => absurd h hc, fun _ hz => ?_, ?_⟩
      · simp only [Bool.and_eq_true] at htake
        have hnot : s.status = transactionLockupFailed := by
          have hmem := htake.2
          simp only [canTakeOverLockup, lockupTakeoverStatuses, List.contains_eq_mem,
            List.mem_cons, List.not_mem_nil, or_false, decide_eq_true_eq] at hmem
          exact hmem.resolve_right hz
        exact absurd (by unfold closed; rw [hnot]; rfl) hc
      · rintro _ ⟨⟩
        exact ⟨vout, value, hout, rfl, rfl⟩

end ChainSwap

/-! ## Histories -/

def isBeginOf (id : Nat) : Label → Bool
  | .beginLockup (.chain swap) => swap.id == id
  | _ => false

def Begun (id : Nat) (past : List (Event Label World Answer)) : Prop :=
  ∃ e ∈ past, isBeginOf id e.label = true

abbrev LockupView := Option ChainSwap × Outputs

/-- The row records this lockup, and nobody can take over. -/
def Owned (o : Seen LockupView) (lockup : Option Nat × Option Nat × Option Nat) : Prop :=
  ∃ s, o.now.1 = some s ∧ s.userLockup = lockup ∧ s.status ≠ transactionZeroConfRejected

def Shut (o : Seen LockupView) : Prop := ∀ s, o.now.1 = some s → s.closed = true

theorem lastLoaded_filter (id : Nat) (past : List (Event Label World Answer)) :
    lastLoaded (past.filter fun e => e.label.loaded?.isSome || isBeginOf id e.label) =
      lastLoaded past := by
  unfold lastLoaded
  induction past with
  | nil => rfl
  | cons e past ih =>
    cases hl : e.label.loaded? with
    | none =>
      by_cases hb : isBeginOf id e.label = true
      · rw [List.filter_cons_of_pos (by simp [hb]), List.findSome?_cons, List.findSome?_cons, ih]
      · rw [List.filter_cons_of_neg (by simp [hl, hb]), ih, List.findSome?_cons, hl]
    | some j =>
      rw [List.filter_cons_of_pos (by simp [hl]), List.findSome?_cons, List.findSome?_cons, hl]

/-! ## One chain swap -/

/-- While a handler has the swap loaded with the lock, nobody else takes it over; when the send is
over, nobody can. -/
def lockupLogic (outputs : Outputs) (id : Nat) : RowLogic LockupView Label.isChain where
  relevant l := l.loaded?.isSome || isBeginOf id l
  allow := timelyRejections.allow
  Inv o := o.now.2 = outputs ∧ (∀ s, o.now.1 = some s → s.Recorded outputs) ∧
    (∀ e ∈ o.past, ∀ swap, e.label = .beginLockup (.chain swap) →
      swap.row.receivingData.transactionId.isSome = true → Owned o swap.row.userLockup) ∧
    (Begun id o.past → lastLoaded o.past ≠ some id → Shut o)
  Res o := Begun id o.past → Shut o
  Keep o o' := o'.past = o.past ∧ (Shut o → Shut o') ∧
    (lastLoaded o.past = some id → ∀ lockup, lockup.1.isSome = true → Owned o lockup →
      Owned o' lockup)
  Any _ _ := True
  keep_refl _ := ⟨rfl, fun h => h, fun _ _ _ h => h⟩
  keep_trans h₁ h₂ := by
    refine ⟨h₂.1.trans h₁.1, fun h => h₂.2.1 (h₁.2.1 h), fun hl lockup hk h => ?_⟩
    exact h₂.2.2 (by rw [h₁.1]; exact hl) lockup hk (h₁.2.2 hl lockup hk h)
  any_refl _ := trivial
  any_trans _ _ := trivial
  res_keep hk hr hb := hk.2.1 (hr (hk.1 ▸ hb))
  kind l hl := by
    cases l <;> simp_all [Label.loaded?, isBeginOf, Label.isChain]
    rename_i swap
    cases swap <;> simp_all [ServerSwap.isReverse]
  other := rfl

theorem ofChain_lockup (id : Nat) :
    OfChain fun w => ((w.chainSwaps.get id, w.lockupOutput .chain id) : LockupView) :=
  ⟨fun h₁ h₂ => by rw [h₁, h₂]⟩

abbrev lockupRules (outputs : Outputs) (id : Nat) : Rules Unit LockupView :=
  chainRules (lockupLogic outputs id) (ofChain_lockup id)

namespace lockupRules

variable {outputs : Outputs} {id : Nat} {ks : List Unit} {B : Seen LockupView → Prop}

theorem row : (lockupRules outputs id).RowOf (·.chainSwaps) setChainSwaps id Prod.fst
    fun x v => (x, v.2) where
  row_view _ := rfl
  view_set _ _ := rfl
  put_row _ := rfl
  locks_set _ _ := rfl

theorem relevant_eq (l : Label) :
    (lockupRules outputs id).relevant l = (l.loaded?.isSome || isBeginOf id l) := rfl

/-- What a tame write makes of what is seen. -/
theorem moves_of_tame {o : Seen LockupView} {s s' : ChainSwap}
    (hi : (lockupLogic outputs id).Inv o) (hs : o.now.1 = some s) (ht : s.Tame outputs s') :
    (lockupLogic outputs id).Inv ⟨(some s', o.now.2), o.past⟩ ∧
      (lockupLogic outputs id).Keep o ⟨(some s', o.now.2), o.past⟩ := by
  have howned : ∀ lockup, lockup.1.isSome = true → Owned o lockup →
      Owned ⟨(some s', o.now.2), o.past⟩ lockup := by
    rintro lockup hk ⟨r, hr, rfl, hz⟩
    rw [hs] at hr
    cases hr
    obtain ⟨heq, hz'⟩ := ht.owner hk hz
    exact ⟨s', rfl, heq, hz'⟩
  have hclosed : Shut o → Shut ⟨(some s', o.now.2), o.past⟩ := by
    rintro hc _ ⟨⟩
    exact ht.closed (hc s hs)
  refine ⟨⟨hi.1, ?_, fun e he swap hl hid => ?_, fun hb hn => ?_⟩, rfl, hclosed, fun _ => howned⟩
  · rintro _ ⟨⟩
    exact ht.recorded
  · exact howned _ hid (hi.2.2.1 e he swap hl hid)
  · exact hclosed (hi.2.2.2 hb hn)

theorem does_write {j : Nat} {f : ChainSwap → ChainSwap} {l : Label}
    (hl : (lockupRules outputs id).relevant l = false)
    (hf : ∀ s : ChainSwap, s.Recorded outputs → s.Tame outputs (f s))
    (hB : ∀ o o', (lockupLogic outputs id).Keep o o' → B o → B o') :
    (lockupRules outputs id).Does ks B
      (writeAct l fun w => setChainSwaps (w.chainSwaps.modify j f) w) fun _ => B := by
  refine Rules.does_modify row hl (fun o _ ho => ho) fun _ t h ω r hi hBo _ hr => ?_
  obtain ⟨hinv, hkeep⟩ := moves_of_tame hi hr (hf r (hi.2.1 r hr))
  exact ⟨hinv, trivial, fun _ _ => hkeep, hB _ _ hkeep hBo⟩

theorem free_update {swap : Instance ChainSwap} {new : ChainSwap} {l : Label}
    (hl : (lockupRules outputs id).relevant l = false)
    (hu : new.userLockup = swap.row.userLockup)
    (hst : new.status = swap.row.status ∨ new.closed = true) :
    (lockupRules outputs id).logic.Free (chainUpdateAct swap new l) :=
  Guarded.Does.free (does_write hl (fun _ hr => ChainSwap.tame_save hr hu hst) fun _ _ _ h => h)

theorem keeps_update {swap : Instance ChainSwap} {new : ChainSwap} {l : Label}
    (hl : (lockupRules outputs id).relevant l = false)
    (hu : new.userLockup = swap.row.userLockup)
    (hst : new.status = swap.row.status ∨ new.closed = true) :
    (lockupRules outputs id).KeepsRes () (chainUpdateAct swap new l) :=
  does_write hl (fun _ hr => ChainSwap.tame_save hr hu hst) fun _ _ hk hr =>
    (lockupLogic outputs id).res_keep hk hr

theorem free_refundSigned (j : Nat) :
    (lockupRules outputs id).logic.Free (chainRefundSignedAct j) :=
  Guarded.Does.free (does_write rfl
    (fun _ hr => ChainSwap.tame_of_userLockup hr rfl (.inl rfl)) fun _ _ _ h => h)

theorem free_userLockup {j transactionId vout value : Nat} {status : SwapUpdateEvent}
    (hout : j = id → outputs transactionId = some (vout, value))
    (hst : status = transactionConfirmed ∨ status = transactionMempool) :
    (lockupRules outputs id).logic.Free
      (userLockupAct j ⟨transactionId, some vout⟩ value status {}) := by
  refine Guarded.Does.free (C := fun _ _ => True) ?_
  refine Rules.does_userLockup row (fun _ _ _ => trivial) fun hj h r hi _ hr => ?_
  have hz : status ≠ transactionZeroConfRejected := by
    rcases hst with rfl | rfl <;> simp
  obtain ⟨hinv, hkeep⟩ := moves_of_tame hi hr
    (ChainSwap.tame_userLockupWrite (hi.2.1 r hr) (hout hj) hz)
  exact ⟨hinv, trivial, fun _ _ => hkeep, trivial⟩

theorem lastLoaded_obs (h : History) :
    lastLoaded ((lockupRules outputs id).obs h).past = lastLoaded h.trace :=
  lastLoaded_filter id h.trace

/-- A rejection that the policy admits comes before any send, and while nobody relies on the
owner of the swap. -/
theorem free_zeroConfRejected (j : Nat) (incoming : LockupIdentity) :
    (lockupRules outputs id).logic.Free (zeroConfRejectedAct j incoming) := by
  refine Rules.free_modify row rfl fun hj t h ω r hi ha hr o' ho' => ?_
  have hinv : (lockupLogic outputs id).Inv ((lockupRules outputs id).obs h) := hi.1
  rcases ChainSwapRepository.zeroConfRejectedWrite_cases r incoming with hw | ⟨hmempool, hw⟩
  · -- nothing is written
    obtain ⟨hinv', hkeep⟩ := moves_of_tame hinv hr
      (ChainSwap.tame_of_userLockup (hinv.2.1 r hr) rfl (.inl rfl))
    rw [hw] at ho'
    rw [ho']
    exact ⟨hinv', trivial, fun k hk => (lockupLogic outputs id).res_keep hkeep (hi.2 k hk),
      fun _ _ _ _ => hkeep⟩
  have hopen : ¬Shut ((lockupRules outputs id).obs h) := by
    intro hs
    have hclosed := hs r hr
    unfold ChainSwap.closed at hclosed
    rw [hmempool] at hclosed
    cases hclosed
  have hrow : h.world.chainSwaps.get j = some r := hj ▸ hr
  have hallow : h.world.locks .chainSwap = none ∨ lastLoaded h.trace ≠ some id := by
    have hnot : rejectsDuringLockup h j = false := by
      simpa [chainRules, RowLogic.guarded, lockupLogic, timelyRejections] using ha
    simp only [rejectsDuringLockup, hrow, Option.any_some, hmempool, beq_self_eq_true,
      Bool.and_true, Bool.and_eq_false_iff, beq_eq_false_iff_ne] at hnot
    rw [hj] at hnot
    rcases hnot with hfree | hlast
    · exact .inl (by simpa using hfree)
    · exact .inr hlast
  have hnone : ¬Begun id ((lockupRules outputs id).obs h).past := by
    intro hb
    rcases hallow with hfree | hlast
    · exact hopen (hi.2 () hfree hb)
    · exact hopen (hinv.2.2.2 hb (by rwa [lastLoaded_obs]))
  rw [hw] at ho'
  rw [ho']
  have hnever : ∀ e ∈ ((lockupRules outputs id).obs h).past, ∀ swap,
      e.label ≠ .beginLockup (.chain swap) := by
    intro e he swap hl
    refine hnone ⟨e, he, ?_⟩
    have hrel := (List.mem_filter.mp he).2
    rw [relevant_eq, hl] at hrel
    rw [hl]
    exact hrel
  refine ⟨⟨hinv.1, ?_, ?_, fun hb => absurd hb hnone⟩, trivial, ?_, ?_⟩
  · rintro _ ⟨⟩
    exact hinv.2.1 r hr
  · intro e he swap hl
    exact absurd hl (hnever e he swap)
  · exact fun _ _ hb => absurd hb hnone
  · intro k u hu _
    refine ⟨rfl, fun hs => absurd hs hopen, fun hlast => ?_⟩
    rw [lastLoaded_obs] at hlast
    rcases hallow with hfree | hne
    · have hheld : h.world.locks .chainSwap = some u := hu
      rw [hfree] at hheld
      cases hheld
    · exact absurd hlast hne

/-! ### Sends -/

/-- The states of a lockup: the swap that was loaded owns its row, and no send began for it. -/
def Ready (outputs : Outputs) (id : Nat) (swap : Instance ChainSwap) (o : Seen LockupView) :
    Prop :=
  (∃ event, Rules.lockable swap.row event = true) ∧ (lockupLogic outputs id).Res o ∧
    (swap.id = id → lastLoaded o.past = some id ∧
      (swap.row.receivingData.transactionId.isSome = true → Owned o swap.row.userLockup))

def Sending (outputs : Outputs) (id : Nat) (swap : Instance ChainSwap) (o : Seen LockupView) :
    Prop :=
  (∃ event, Rules.lockable swap.row event = true) ∧
    (swap.id ≠ id → (lockupLogic outputs id).Res o)

theorem steady_ready (swap : Instance ChainSwap) :
    (lockupRules outputs id).Steady [()] (Ready outputs id swap) := by
  intro o o' _ hkeep _ ho
  have hk : (lockupLogic outputs id).Keep o o' := hkeep () (by simp)
  refine ⟨ho.1, (lockupLogic outputs id).res_keep hk ho.2.1, fun hid => ?_⟩
  obtain ⟨hlast, howned⟩ := ho.2.2 hid
  exact ⟨by rw [hk.1]; exact hlast, fun hsome => hk.2.2 hlast _ hsome (howned hsome)⟩

theorem steady_sending (swap : Instance ChainSwap) :
    (lockupRules outputs id).Steady [()] (Sending outputs id swap) := by
  intro o o' _ hkeep _ ho
  have hk : (lockupLogic outputs id).Keep o o' := hkeep () (by simp)
  exact ⟨ho.1, fun hid => (lockupLogic outputs id).res_keep hk (ho.2 hid)⟩

theorem begun_cons {e : Event Label World Answer} {past : List (Event Label World Answer)}
    (he : isBeginOf id e.label = false) (hb : Begun id (e :: past)) : Begun id past := by
  obtain ⟨e', he', hl⟩ := hb
  rcases List.mem_cons.mp he' with rfl | he'
  · rw [he] at hl
    cases hl
  · exact ⟨e', he', hl⟩

/-- The load with the lock. A swap that is lockable was not sent for. -/
theorem does_load (swapId : Nat) (event : Option (Nat × Nat)) :
    (lockupRules outputs id).Does [()] ((lockupRules outputs id).Res ())
      (readAct (.loadLockup swapId) fun w => w.chainSwaps.byId swapId)
      fun found o => (lockupRules outputs id).Res () o ∧ ∀ swap, found = some swap →
        Rules.lockable swap.row event = true → Ready outputs id swap o := by
  refine Rules.does_of_moves (fun t w ω b w' he => by cases he; rfl) ?_
  intro t h ω b w hi hB _ he
  cases he
  have hinv : (lockupLogic outputs id).Inv ((lockupRules outputs id).obs h) := hi
  have hBegun : Begun id ((lockupRules outputs id).obs h).past →
      Shut ((lockupRules outputs id).obs h) := hB
  change (lockupRules outputs id).Moves [()] _
    ((lockupRules outputs id).obs (h.record t (.loadLockup swapId) ω h.world)) _
  rw [Guarded.obs_loud rfl]
  set e : Event Label World Answer := ⟨t, .loadLockup swapId, ω, h.world, h.world⟩ with he
  have hres : (lockupLogic outputs id).Res ⟨((lockupRules outputs id).obs h).now,
      e :: ((lockupRules outputs id).obs h).past⟩ := fun hb => hBegun (begun_cons rfl hb)
  refine ⟨⟨hinv.1, hinv.2.1, fun e' he' swap hl hid => ?_, fun hb _ => hres hb⟩, trivial,
    fun k hk => absurd (by simp) hk, hres, fun swap hs hl => ⟨⟨event, hl⟩, hres, fun hid => ?_⟩⟩
  · rcases List.mem_cons.mp he' with rfl | he'
    · cases hl
    · exact hinv.2.2.1 e' he' swap hl hid
  · obtain ⟨hsid, hrow⟩ := Table.byId_eq_some.mp hs
    refine ⟨?_, fun _ => ⟨swap.row, ?_, rfl, ?_⟩⟩
    · change some swapId = some id
      rw [← hsid, hid]
    · change h.world.chainSwaps.get id = some swap.row
      rw [← hid, hsid]
      exact hrow
    · intro hz
      have hact := (chainOnce.of_lockable hl).2
      rw [hz] at hact
      cases hact

theorem does_begin (swap : Instance ChainSwap) :
    (lockupRules outputs id).Does [()] (Ready outputs id swap)
      (writeAct (.beginLockup (.chain swap)) fun w => w) fun _ => Sending outputs id swap := by
  refine Rules.does_of_moves (fun t w ω b w' he => by cases he; rfl) ?_
  intro t h ω b w hi hB _ he
  cases he
  have hinv : (lockupLogic outputs id).Inv ((lockupRules outputs id).obs h) := hi
  change (lockupRules outputs id).Moves [()] _
    ((lockupRules outputs id).obs (h.record t (.beginLockup (.chain swap)) ω h.world)) _
  by_cases hid : swap.id = id
  · obtain ⟨hlast, howned⟩ := hB.2.2 hid
    rw [Guarded.obs_loud (by simp [relevant_eq, isBeginOf, hid])]
    refine ⟨⟨hinv.1, hinv.2.1, fun e he swap' hl hsome => ?_, fun _ hne => absurd hlast hne⟩,
      trivial, fun k hk => absurd (by simp) hk, hB.1, fun hne => absurd hid hne⟩
    rcases List.mem_cons.mp he with rfl | he
    · cases hl
      exact howned hsome
    · exact hinv.2.2.1 e he swap' hl hsome
  · rw [Guarded.obs_quiet (by simp [relevant_eq, isBeginOf, Label.loaded?, hid]) rfl]
    exact Rules.moves_refl hi ⟨hB.1, fun _ => hB.2.1⟩

/-- The result of the send closes the swap to other lockups. -/
theorem does_close {swap : Instance ChainSwap} {new : ChainSwap}
    (hu : new.userLockup = swap.row.userLockup) (hc : new.closed = true) :
    (lockupRules outputs id).Does [()] (Sending outputs id swap) (chainUpdateAct swap new .other)
      fun _ => (lockupLogic outputs id).Res := by
  refine Rules.does_modify row rfl (fun o hnone ho => ?_) ?_
  · by_cases hid : swap.id = id
    · intro _ s hs
      rw [hnone hid] at hs
      cases hs
    · exact ho.2 hid
  · intro hid t h ω r hi hB _ hr
    obtain ⟨hinv, _⟩ := moves_of_tame hi hr (ChainSwap.tame_save (hi.2.1 r hr) hu (.inr hc))
    refine ⟨hinv, trivial, fun k hk => absurd (by simp) hk, ?_⟩
    rintro _ _ ⟨⟩
    obtain ⟨event, hl⟩ := hB.1
    have hne : new.status ≠ swap.row.status := by
      intro heq
      have hact := (chainOnce.of_lockable hl).1
      unfold alive at hact
      unfold ChainSwap.closed at hc
      rw [heq] at hc
      simp_all
    have hst : (swap.row.save new r).status = new.status := saved_of_ne hne r.status
    unfold ChainSwap.closed at hc ⊢
    rwa [hst]

theorem does_fail (swap : Instance ChainSwap) :
    (lockupRules outputs id).Does [()] (Sending outputs id swap)
      (setStatusAct (.chain swap) transactionFailed (some .coinsCouldNotBeSent) .other)
      fun _ => (lockupRules outputs id).Res () :=
  does_close rfl rfl

theorem lockupSpec (swap : Instance ChainSwap) :
    (lockupRules outputs id).LockupSpec [()] (.chain swap) (Ready outputs id swap)
      (Sending outputs id swap) (fun _ => Sending outputs id swap)
      ((lockupRules outputs id).Res ()) where
  begin := does_begin swap
  send := (Rules.quiet_ask rfl _).does
  store _ _ _ _ _ := does_close rfl rfl
  unsent := (does_fail swap).mono (fun _ ho => ⟨ho.1, fun _ => ho.2.1⟩) fun _ _ h => h
  failed _ _ := does_fail swap
  steady_ready := steady_ready swap
  steady_sending := steady_sending swap
  steady_sent _ := steady_sending swap
  steady_ended := Rules.steady_own

/-! ### Tasks -/

theorem keeps_setStatus (swap : Instance ChainSwap) {status : SwapUpdateEvent}
    {reason : Option SwapError} {l : Label} (hl : (lockupRules outputs id).relevant l = false)
    (hc : (swap.row.withStatus status reason).closed = true) :
    (lockupRules outputs id).KeepsRes () (setStatusAct (.chain swap) status reason l) :=
  keeps_update hl rfl (.inr hc)

theorem shared : SharedTasks (lockupRules outputs id).SafeTask := by
  refine Rules.sharedTasks_of_chain (k := ()) chainRules.ignoresReverse rfl (fun swap _ => ?_)
    fun swap status hs => ?_
  · exact Rules.Locked.of_uses (uses_handleSwapSendFailed Rules.plain_keepsRes
      (keeps_setStatus swap rfl rfl) false)
  · refine free_update rfl rfl (.inr ?_)
    rcases hs with rfl | rfl <;> rfl

theorem lockupTasks : ChainLockupTasks (lockupRules outputs id).SafeTask where
  lockup swapId event := Rules.safe_chainSwapLockup (k := ()) rfl chainRules.quiet_holds
    chainRules.ignoresClaims shared.scan (does_load swapId event) lockupSpec fun _ _ ho => ho.2.1
  failed swap _ := (Rules.Locked.of_uses (k := ()) (uses_chainLockupFailed
    Rules.plain_keepsRes (keeps_setStatus swap rfl rfl))).safe rfl
  zeroConfRejected := (Rules.Locked.pure (k := ()) ()).safe rfl

/-- The output that is found is one of the outputs that pay to the swap. -/
theorem safe_checkChainSwap (symbol address transactionId : Nat) (status : TransactionStatus) :
    (lockupRules outputs id).logic.Safe
      (UtxoNursery.checkChainSwap symbol address transactionId status) := by
  refine Logic.Safe.bind (Logic.Safe.call (Rules.free_plain.read _)) fun found => ?_
  cases found with
  | none => exact Logic.Safe.pure ()
  | some swap =>
    refine .when _ (Rules.safe_read_bind rfl (fun t h hi _ => ?_) fun _ _ _ => rfl)
    cases hout : h.world.lockupOutput .chain swap.id transactionId with
    | none => exact Logic.Safe.pure ()
    | some output =>
      refine Rules.closed (uses_checkChainSwapOutput Rules.free_plain lockupTasks
        (fun status hs => free_userLockup (fun hid => ?_) hs) free_zeroConfRejected status)
      have hinv : (lockupLogic outputs id).Inv ((lockupRules outputs id).obs h) := hi.1
      have hpays : h.world.lockupOutput .chain id = outputs := hinv.1
      rw [← hpays, ← hid]
      exact hout

theorem claimActs : ClaimActs (lockupRules outputs id).FreeAct :=
  chainRules.claimActs (fun _ _ _ => free_update rfl rfl (.inr rfl))
    fun _ _ => free_update rfl rfl (.inr rfl)

theorem settleActs : ClaimActs ((lockupRules outputs id).KeepsRes ()) :=
  chainRules.settleActs (fun _ _ _ => keeps_update rfl rfl (.inr rfl))
    fun _ _ => keeps_update rfl rfl (.inr rfl)

theorem locked_expire (swapId : Nat) :
    (lockupRules outputs id).Locked () (expireChainSwap swapId) := by
  refine .of_uses (uses_expireChainSwap Rules.plain_keepsRes chainRules.refunds
    (fun f => (Rules.quiet_read rfl f).does) fun swap => ⟨?_, fun _ _ => ?_,
      shared.refundConfirmed⟩)
  · exact keeps_update rfl rfl (.inr rfl)
  · exact keeps_update rfl rfl (.inr rfl)

theorem tasks : ChainTasks (lockupRules outputs id).SafeTask := by
  refine Rules.chainTasks_of_locked (k := ()) rfl chainRules.ignoresClaims claimActs lockupTasks
    safe_checkChainSwap (fun swapId => ?_) locked_expire (fun swap preimage => ?_) ?_
    fun swap preimage => ?_
  · exact .of_uses (uses_confirmChainLockup Rules.plain_keepsRes
      fun swap => keeps_setStatus swap rfl rfl)
  · exact .of_uses (uses_settleChain settleActs swap preimage)
  · exact Rules.safe_signChainRefund (fun _ => by simp [chainRules]) (fun _ => rfl)
      (fun _ => rfl) (fun _ => rfl) free_refundSigned
  · exact free_update rfl rfl (.inl rfl)

theorem inv_of_reaches {w : World} {h : History} (hw : RecordedOutputs w)
    (hr : Reaches timelyRejections start w h) :
    (lockupRules (w.lockupOutput .chain id) id).logic.Inv h := by
  have hinit : (lockupRules (w.lockupOutput .chain id) id).logic.Inv ⟨w, []⟩ := by
    refine ⟨⟨rfl, fun s hs transactionId hid => hw id s transactionId hs hid, ?_, ?_⟩, ?_⟩
    · intro e he
      cases he
    · rintro ⟨e, he, _⟩
      cases he
    · rintro _ _ ⟨e, he, _⟩
      cases he
  refine Logic.inv_of_reaches rfl (fun e he => ?_) hinit hr
  refine chainRules.safe_start claimActs shared tasks e ⟨?_, ?_, ?_⟩
  · intro _ _ _ _ _ hquote
    rw [hquote] at he
    cases he
  · intro _ _ hevm
    rw [hevm] at he
    cases he
  · intro _ hark
    rw [hark] at he
    cases he

end lockupRules

/-! ## Every run -/

/-- From the start of a send on, the lockup of the user that the server acts on stays the recorded
one, in every run in which no 0-conf lockup is rejected between the load of its swap and the end
of the send. -/
theorem user_lockup_kept {w : World} {h : History} (hw : RecordedOutputs w)
    (hr : Reaches timelyRejections start w h) : LockupKept h := by
  intro e he swap hl hsome
  have hinv : (lockupRules (w.lockupOutput .chain swap.id) swap.id).logic.Inv h :=
    lockupRules.inv_of_reaches hw hr
  have hmem : e ∈ ((lockupRules (w.lockupOutput .chain swap.id) swap.id).obs h).past :=
    List.mem_filter.mpr ⟨he, by simp [lockupRules.relevant_eq, hl, isBeginOf]⟩
  obtain ⟨s, hs, heq, _⟩ := hinv.1.2.2.1 e hmem swap hl hsome
  have hrow : h.world.chainSwaps.get swap.id = some s := hs
  rw [hrow, Option.map_some, heq]

/-! ## Runs of one chain swap -/

def chainLeg (lockupAddress expectedAmount : Nat) : ChainSwapData where
  currency := bitcoin
  lockupAddress
  timeoutBlockHeight := 10
  expectedAmount
  amount := none
  fee := none
  transactionId := none
  transactionVout := none

/-- A chain swap that was just created. -/
def openChainSwap : ChainSwap where
  preimageHash := 0
  acceptZeroConf := true
  status := swapCreated
  failureReason := none
  fee := none
  preimage := none
  createdRefundSignature := false
  sendingData := chainLeg 21 900
  receivingData := chainLeg 20 1000

/-- The transactions 5 and 6 of the user pay to the swap. -/
def chainWorld : World where
  chainSwaps := Table.empty.put 1 openChainSwap
  lockupOutput type id transactionId :=
    match type, id, transactionId with
    | .chain, 1, 5 => some (0, 1000)
    | .chain, 1, 6 => some (1, 1200)
    | _, _, _ => none

theorem recordedOutputs_chainWorld : RecordedOutputs chainWorld := by
  intro id s transactionId hs hid
  simp only [chainWorld, Table.put, Table.empty] at hs
  split at hs
  · cases hs
    cases hid
  · cases hs

/-- The 0-conf transaction 5 is accepted (task 0), and its lockup event starts task 2. -/
def userLockup : List (Move Entry Answer) :=
  [.spawn (.checkOutputs 0 5 [20] .zeroConfSafe)] ++
    steps 0 [.nothing, .nothing, .nothing, .nothing, .nothing, .nothing, .flag false, .flag false,
      .flag true, .flag true, .flag false, .flag true, .nothing, .nothing]

/-- The approver accepts (task 3), and the send of task 2 begins. -/
def beginChainLockup : List (Move Entry Answer) :=
  steps 2 [.nothing, .nothing, .nothing] ++
    steps 3 [.nothing, .approval (some .accept), .nothing] ++
    steps 2 [.nothing, .nothing, .nothing, .nothing, .nothing, .flag false, .flag true, .nothing]

/-- The lockup of the server is stored. -/
def endChainLockup : List (Move Entry Answer) :=
  steps 2 [.send (.sent 9 0 1), .nothing, .nothing, .nothing, .nothing, .nothing, .nothing]

/-- The first `k` steps for the transaction 6 of the user (task `n`). -/
def competingLockup (n k : Nat) : List (Move Entry Answer) :=
  [.spawn (.checkOutputs 0 6 [20] .zeroConfSafe)] ++ steps n (List.replicate k .nothing)

/-- The transaction 5 is seen again (task 4), and its 0-conf is rejected this time. -/
def rejectZeroConf : List (Move Entry Answer) :=
  [.spawn (.checkOutputs 0 5 [20] .notSafe)] ++
    steps 4 [.nothing, .nothing, .nothing, .nothing, .nothing, .nothing, .flag false, .flag false,
      .nothing, .nothing, .nothing, .nothing]

theorem user_lockup_kept_competing : RecordedOutputs chainWorld ∧
    ∃ h, Reaches timelyRejections start chainWorld h ∧
      h.trace.any (fun e => isBeginOf 1 e.label) = true ∧ LockupKept h := by
  refine ⟨recordedOutputs_chainWorld, ?_⟩
  obtain ⟨h, hr, hbegun⟩ := Reaches.of_run timelyRejections start chainWorld
    (userLockup ++ beginChainLockup ++ competingLockup 4 5 ++ endChainLockup)
    (fun h => h.trace.any fun e => isBeginOf 1 e.label) (by decide +kernel)
  exact ⟨h, hr, hbegun, user_lockup_kept recordedOutputs_chainWorld hr⟩

/-- A send that was accepted for another lockup than the stored one. -/
def losesLockup (h : History) (e : Event Label World Answer) : Bool :=
  match e.label with
  | .beginLockup (.chain swap) =>
    swap.row.receivingData.transactionId.isSome &&
      (h.world.chainSwaps.get swap.id).map ChainSwap.userLockup != some swap.row.userLockup
  | _ => false

/-- The 0-conf of the transaction 5 is rejected while the server sends for it, and the
transaction 6 takes over. -/
theorem rejection_during_send_loses_lockup : RecordedOutputs chainWorld ∧
    ∃ h, Reaches Policy.free start chainWorld h ∧ ¬LockupKept h := by
  refine ⟨recordedOutputs_chainWorld, ?_⟩
  obtain ⟨h, hr, hlost⟩ := Reaches.of_run Policy.free start chainWorld
    (userLockup ++ beginChainLockup ++ rejectZeroConf ++ competingLockup 7 6 ++ endChainLockup)
    (fun h => h.trace.any (losesLockup h)) (by decide +kernel)
  refine ⟨h, hr, fun hkept => ?_⟩
  obtain ⟨e, he, hl⟩ := List.any_eq_true.mp hlost
  unfold losesLockup at hl
  split at hl
  · rename_i swap hlabel
    simp only [Bool.and_eq_true, bne_iff_ne] at hl
    exact hl.2 (hkept e he swap hlabel hl.1)
  · cases hl

end Boltz

import Boltz.Db.Repositories

/-!
# Ownership of the user lockup

The repositories of submarine and chain swaps write the lockup of the user through one decision
table. What they keep of it is a register: once a transaction is recorded, another one takes over
only from a status that allows it.
-/

namespace Boltz

open SwapUpdateEvent

/-! ## The register -/

/-- What the writes of lockups see of a swap. -/
structure LockupRegister where
  status : SwapUpdateEvent
  lockup : Option LockupIdentity
  deriving DecidableEq, Repr

/-- A call of `setLockupTransaction` or `setUserLockupTransaction`, which differ in the statuses
that they update, or of `setZeroConfRejected`. -/
inductive LockupCall where
  | setLockupTransaction (incoming : LockupIdentity) (target : SwapUpdateEvent)
      (updatable : SwapUpdateEvent → Bool)
  | setZeroConfRejected (incoming : LockupIdentity)

namespace LockupRegister

/-- The outcome of a call, where it has one, and the register after it. -/
def call (r : LockupRegister) : LockupCall → Option LockupWriteOutcome × LockupRegister
  | .setLockupTransaction incoming target updatable =>
    let decision := decideLockupWrite r.lockup incoming r.status target (updatable r.status)
    (some decision.outcome,
      if decision.write then ⟨target, some ⟨incoming.transactionId, decision.vout⟩⟩ else r)
  | .setZeroConfRejected incoming =>
    (none,
      if shouldWriteZeroConfRejection r.lockup incoming r.status then
        { r with status := transactionZeroConfRejected }
      else r)

/-- A swap for which no transaction was seen: none is recorded, so none is confirmed. -/
def WithoutLockup (r : LockupRegister) : Prop :=
  r.lockup = none ∧ r.status ≠ transactionConfirmed

/-- The registers that sequences of calls lead to. -/
inductive Reaches (r₀ : LockupRegister) : LockupRegister → Prop
  | start : Reaches r₀ r₀
  | call {r : LockupRegister} (c : LockupCall) : Reaches r₀ r → Reaches r₀ (r.call c).2

/-! ## One call -/

/-- What a call can do to the register. -/
theorem call_cases (r : LockupRegister) (c : LockupCall) :
    (r.call c).2 = r ∨
    (∃ incoming, c = .setZeroConfRejected incoming ∧ r.status = transactionMempool ∧
      r.lockup.isSome = true ∧ (r.call c).2 = { r with status := transactionZeroConfRejected }) ∨
    ∃ incoming target updatable vout, c = .setLockupTransaction incoming target updatable ∧
      updatable r.status = true ∧
      (r.call c).2 = ⟨target, some ⟨incoming.transactionId, vout⟩⟩ ∧
      ((r.lockup = none ∧ (r.call c).1 = some .acquired ∧ vout = incoming.vout) ∨
        (∃ e, r.lockup = some e ∧ isSameLockup e incoming = true ∧
          (r.call c).1 = some .idempotent ∧ vout = incoming.vout.or e.vout ∧
          (r.status = transactionConfirmed → target = transactionConfirmed)) ∨
        (∃ e, r.lockup = some e ∧ isSameLockup e incoming = false ∧
          (r.call c).1 = some .acquired ∧ canTakeOverLockup r.status = true)) := by
  cases c with
  | setZeroConfRejected incoming =>
    by_cases hw : shouldWriteZeroConfRejection r.lockup incoming r.status = true
    · obtain ⟨hm, e, he, _⟩ := of_shouldWriteZeroConfRejection hw
      refine .inr (.inl ⟨incoming, rfl, hm, by rw [he]; rfl, ?_⟩)
      simp only [call, if_pos hw]
    · refine .inl ?_
      simp only [call, if_neg hw]
  | setLockupTransaction incoming target updatable =>
    by_cases hup : updatable r.status = true
    swap
    · refine .inl ?_
      rw [Bool.not_eq_true] at hup
      simp only [call, hup, decideLockupWrite_of_not_updatable]
      rfl
    cases hr : r.lockup with
    | none =>
      refine .inr (.inr ⟨incoming, target, updatable, incoming.vout, rfl, hup, ?_, .inl ?_⟩)
      · simp [call, decideLockupWrite, hr, hup]
      · simp [call, decideLockupWrite, hr, hup]
    | some e =>
      by_cases hsame : isSameLockup e incoming = true
      · by_cases hdown : r.status = transactionConfirmed ∧ target ≠ transactionConfirmed
        · refine .inl ?_
          simp [call, decideLockupWrite, hr, hsame, hdown]
        · have hkeep : r.status = transactionConfirmed → target = transactionConfirmed := by
            intro hc
            by_contra hne
            exact hdown ⟨hc, hne⟩
          refine .inr (.inr ⟨incoming, target, updatable, incoming.vout.or e.vout, rfl, hup, ?_,
            .inr (.inl ⟨e, rfl, hsame, ?_, rfl, hkeep⟩)⟩)
          · simp only [call, decideLockupWrite, hr, hup, if_pos hsame]
            by_cases hc : r.status = transactionConfirmed
            · simp [hc, hkeep hc]
            · simp [hc]
          · simp [call, decideLockupWrite, hr, hsame]
      · by_cases htake : canTakeOverLockup r.status = true
        · refine .inr (.inr ⟨incoming, target, updatable, incoming.vout, rfl, hup, ?_,
            .inr (.inr ⟨e, rfl, by simpa using hsame, ?_, htake⟩)⟩)
          · simp [call, decideLockupWrite, hr, hup, hsame, htake]
          · simp [call, decideLockupWrite, hr, hup, hsame, htake]
        · refine .inl ?_
          simp [call, decideLockupWrite, hr, hup, hsame, htake]

/-- What holds of every call: a recorded lockup stays recorded, another transaction takes over
only from a takeover status that is updatable, a confirmed lockup stays confirmed, a known output
index survives idempotent calls, and a rejected call changes nothing. -/
structure Kept (r : LockupRegister) (c : LockupCall) : Prop where
  recorded : r.lockup.isSome = true → (r.call c).2.lockup.isSome = true
  takeover : ∀ e e', r.lockup = some e → (r.call c).2.lockup = some e' →
    e'.transactionId ≠ e.transactionId →
      r.status ∈ [transactionLockupFailed, transactionZeroConfRejected] ∧
      ∃ incoming target updatable, c = .setLockupTransaction incoming target updatable ∧
        updatable r.status = true
  confirmed : r.status = transactionConfirmed → (r.call c).2.status = transactionConfirmed
  vout : (r.call c).1 = some .idempotent → ∀ e v, r.lockup = some e → e.vout = some v →
    (r.call c).2.lockup = some e
  rejected : (r.call c).1 = some .rejected → (r.call c).2 = r

theorem isSameLockup_eq {e incoming : LockupIdentity} (h : isSameLockup e incoming = true) :
    incoming.transactionId = e.transactionId ∧
      ∀ v, e.vout = some v → incoming.vout.or e.vout = some v := by
  simp only [isSameLockup, Bool.and_eq_true, Bool.or_eq_true, beq_iff_eq,
    Option.isNone_iff_eq_none] at h
  refine ⟨h.1.symm, fun v hv => ?_⟩
  rcases h.2 with (hn | hn) | heq
  · rw [hv] at hn
    cases hn
  · rw [hn, hv]
    rfl
  · rw [← heq, hv]
    rfl

theorem mem_takeoverStatuses {status : SwapUpdateEvent} (h : canTakeOverLockup status = true) :
    status ∈ [transactionLockupFailed, transactionZeroConfRejected] := by
  simpa [canTakeOverLockup, lockupTakeoverStatuses] using h

/-- A register in which only a recorded lockup is confirmed. -/
def Sound (r : LockupRegister) : Prop := r.status = transactionConfirmed → r.lockup.isSome = true

theorem sound_call {r : LockupRegister} (h : r.Sound) (c : LockupCall) : (r.call c).2.Sound := by
  rcases r.call_cases c with heq | ⟨_, _, _, _, heq⟩ | ⟨_, _, _, _, _, _, heq, _⟩
  · rw [heq]
    exact h
  · rw [heq]
    rintro ⟨⟩
  · rw [heq]
    exact fun _ => rfl

theorem Reaches.sound {r₀ r : LockupRegister} (h₀ : r₀.WithoutLockup) (h : Reaches r₀ r) :
    r.Sound := by
  induction h with
  | start => exact fun hc => absurd hc h₀.2
  | call c _ ih => exact sound_call ih c

theorem kept_call {r : LockupRegister} (h : r.Sound) (c : LockupCall) : r.Kept c := by
  rcases r.call_cases c with heq | ⟨incoming, rfl, hm, hsome, heq⟩ |
    ⟨incoming, target, updatable, vout, rfl, hup, heq, hhow⟩
  · refine ⟨?_, fun e e' he he' hne => ?_, ?_, fun _ e v he _ => ?_, fun _ => heq⟩
    · rw [heq]
      exact id
    · rw [heq, he] at he'
      cases he'
      exact absurd rfl hne
    · rw [heq]
      exact id
    · rw [heq, he]
  · refine ⟨?_, fun e e' he he' hne => ?_, fun hc => ?_, fun ho => ?_, fun ho => ?_⟩
    · rw [heq]
      exact id
    · rw [heq] at he'
      rw [he] at he'
      cases he'
      exact absurd rfl hne
    · rw [hm] at hc
      cases hc
    · cases ho
    · cases ho
  · refine ⟨fun _ => by rw [heq]; rfl, fun e e' he he' hne => ?_, fun hc => ?_,
      fun ho e v he hv => ?_, fun ho => ?_⟩
    · rcases hhow with ⟨hnone, _⟩ | ⟨e₁, he₁, hsame, _⟩ | ⟨_, _, _, _, htake⟩
      · rw [he] at hnone
        cases hnone
      · rw [he] at he₁
        cases he₁
        rw [heq] at he'
        cases he'
        exact absurd (isSameLockup_eq hsame).1 hne
      · exact ⟨mem_takeoverStatuses htake, incoming, target, updatable, rfl, hup⟩
    · rw [heq]
      rcases hhow with ⟨hnone, _⟩ | ⟨_, _, _, _, _, hkeep⟩ | ⟨_, _, _, _, htake⟩
      · have hsome := h hc
        rw [hnone] at hsome
        cases hsome
      · exact hkeep hc
      · have hmem := mem_takeoverStatuses htake
        rw [hc] at hmem
        simp at hmem
    · rcases hhow with ⟨_, hacq, _⟩ | ⟨e₁, he₁, hsame, _, hvout, _⟩ | ⟨_, _, _, hacq, _⟩
      · rw [hacq] at ho
        cases ho
      · rw [he] at he₁
        cases he₁
        obtain ⟨hid, hor⟩ := isSameLockup_eq hsame
        rw [heq, hvout, hor v hv, hid, ← hv]
      · rw [hacq] at ho
        cases ho
    · rcases hhow with ⟨_, hacq, _⟩ | ⟨_, _, _, hidem, _⟩ | ⟨_, _, _, hacq, _⟩
      · rw [hacq] at ho
        cases ho
      · rw [hidem] at ho
        cases ho
      · rw [hacq] at ho
        cases ho

/-- A lockup that is ignored before the transaction is rejected in it. -/
theorem rejected_of_ignored {r : LockupRegister} {incoming : LockupIdentity}
    (h : shouldIgnoreCompetingLockup r.lockup incoming r.status = true)
    (target : SwapUpdateEvent) (updatable : SwapUpdateEvent → Bool) :
    (r.call (.setLockupTransaction incoming target updatable)).1 = some .rejected := by
  unfold shouldIgnoreCompetingLockup at h
  cases hr : r.lockup with
  | none => rw [hr] at h; cases h
  | some e =>
    rw [hr] at h
    simp only [Bool.and_eq_true, Bool.not_eq_true'] at h
    simp [call, decideLockupWrite, hr, h.1, h.2]

end LockupRegister

/-! ## The repositories -/

def Swap.lockupRegister (s : Swap) : LockupRegister :=
  ⟨s.status, storedLockup s.lockupTransactionId s.lockupTransactionVout⟩

def ChainSwap.lockupRegister (s : ChainSwap) : LockupRegister :=
  ⟨s.status, storedLockup s.receivingData.transactionId s.receivingData.transactionVout⟩

/-- A write of a repository does to the register what the call does, and keeps the whole row when
it is rejected. -/
structure Writes {T : Type} (register : T → LockupRegister) (row : T) (c : LockupCall)
    (outcome : Option LockupWriteOutcome) (row' : T) : Prop where
  outcome_eq : outcome = ((register row).call c).1
  register_eq : register row' = ((register row).call c).2
  rejected : outcome = some .rejected → row' = row

theorem decideLockupWrite_rejected {existing : Option LockupIdentity} {incoming : LockupIdentity}
    {current target : SwapUpdateEvent} {updatable : Bool}
    (h : (decideLockupWrite existing incoming current target updatable).outcome = .rejected) :
    (decideLockupWrite existing incoming current target updatable).write = false := by
  unfold decideLockupWrite at h ⊢
  cases existing with
  | none =>
    dsimp only at h ⊢
    split at h
    · rename_i hup
      rw [if_pos hup]
    · cases h
  | some e =>
    dsimp only at h ⊢
    split at h
    · cases h
    · rename_i hsame
      rw [if_neg hsame]
      split at h
      · cases h
      · rename_i htake
        rw [if_neg htake]

/-- The statuses that `SwapRepository.setLockupTransaction` updates. -/
def Swap.updatable (status : SwapUpdateEvent) : Bool :=
  !SwapRepository.lockupNonUpdatableStatuses.contains status

theorem writes_lockup (row : Swap) (incoming : LockupIdentity) (amount : Nat)
    (target : SwapUpdateEvent) :
    Writes Swap.lockupRegister row (.setLockupTransaction incoming target Swap.updatable)
      (some (SwapRepository.lockupWrite row incoming amount target).1)
      (SwapRepository.lockupWrite row incoming amount target).2 := by
  refine ⟨rfl, ?_, fun h => ?_⟩
  · exact apply_ite Swap.lockupRegister _ _ _
  · have hw := decideLockupWrite_rejected (Option.some.inj h)
    simp only [SwapRepository.lockupWrite, hw]
    rfl

theorem writes_userLockup (row : ChainSwap) (incoming : LockupIdentity) (amount : Nat)
    (target : SwapUpdateEvent) (options : ChainSwapRepository.Options) :
    Writes ChainSwap.lockupRegister row
      (.setLockupTransaction incoming target
        (ChainSwapRepository.getUserLockupTransactionStatuses options).contains)
      (some (ChainSwapRepository.userLockupWrite row incoming amount target options).1)
      (ChainSwapRepository.userLockupWrite row incoming amount target options).2 := by
  refine ⟨rfl, ?_, fun h => ?_⟩
  · exact apply_ite ChainSwap.lockupRegister _ _ _
  · have hw := decideLockupWrite_rejected (Option.some.inj h)
    simp only [ChainSwapRepository.userLockupWrite, hw]
    rfl

theorem writes_zeroConfRejected (row : Swap) (incoming : LockupIdentity) :
    Writes Swap.lockupRegister row (.setZeroConfRejected incoming) none
      (SwapRepository.zeroConfRejectedWrite row incoming) := by
  refine ⟨rfl, ?_, fun h => by cases h⟩
  exact apply_ite Swap.lockupRegister _ _ _

theorem writes_chainZeroConfRejected (row : ChainSwap) (incoming : LockupIdentity) :
    Writes ChainSwap.lockupRegister row (.setZeroConfRejected incoming) none
      (ChainSwapRepository.zeroConfRejectedWrite row incoming) := by
  refine ⟨rfl, ?_, fun h => by cases h⟩
  exact apply_ite ChainSwap.lockupRegister _ _ _

/-- The lockup of a swap is a register that is written once, except for takeovers: for every
sequence of calls with arbitrary statuses to update, from a swap without a lockup. The writes of
both repositories are such calls. -/
theorem lockup_ownership :
    (∀ r₀ r : LockupRegister, r₀.WithoutLockup → LockupRegister.Reaches r₀ r → ∀ c,
      r.Kept c ∧ ∀ incoming, shouldIgnoreCompetingLockup r.lockup incoming r.status = true →
        ∀ target updatable,
          (r.call (.setLockupTransaction incoming target updatable)).1 = some .rejected) ∧
    (∀ (row : Swap) incoming amount target,
      Writes Swap.lockupRegister row (.setLockupTransaction incoming target Swap.updatable)
        (some (SwapRepository.lockupWrite row incoming amount target).1)
        (SwapRepository.lockupWrite row incoming amount target).2 ∧
      Writes Swap.lockupRegister row (.setZeroConfRejected incoming) none
        (SwapRepository.zeroConfRejectedWrite row incoming)) ∧
    ∀ (row : ChainSwap) incoming amount target options,
      Writes ChainSwap.lockupRegister row
        (.setLockupTransaction incoming target
          (ChainSwapRepository.getUserLockupTransactionStatuses options).contains)
        (some (ChainSwapRepository.userLockupWrite row incoming amount target options).1)
        (ChainSwapRepository.userLockupWrite row incoming amount target options).2 ∧
      Writes ChainSwap.lockupRegister row (.setZeroConfRejected incoming) none
        (ChainSwapRepository.zeroConfRejectedWrite row incoming) := by
  refine ⟨fun r₀ r h₀ hr c => ⟨LockupRegister.kept_call (hr.sound h₀) c, ?_⟩, ?_, ?_⟩
  · exact fun incoming hi target updatable => LockupRegister.rejected_of_ignored hi target updatable
  · exact fun row incoming amount target =>
      ⟨writes_lockup row incoming amount target, writes_zeroConfRejected row incoming⟩
  · exact fun row incoming amount target options =>
      ⟨writes_userLockup row incoming amount target options,
        writes_chainZeroConfRejected row incoming⟩

/-- The rejected 0-conf transaction 5 loses the swap to the transaction 6. -/
theorem lockup_ownership_takeover :
    ∃ r : LockupRegister, LockupRegister.Reaches ⟨swapCreated, none⟩ r ∧
      r = ⟨transactionZeroConfRejected, some ⟨5, some 0⟩⟩ ∧
      (r.call (.setLockupTransaction ⟨6, none⟩ transactionConfirmed Swap.updatable)).2 =
        ⟨transactionConfirmed, some ⟨6, none⟩⟩ ∧
      ∀ c, r.Kept c := by
  have hr : LockupRegister.Reaches ⟨swapCreated, none⟩
      ⟨transactionZeroConfRejected, some ⟨5, some 0⟩⟩ :=
    .call (r := ⟨transactionMempool, some ⟨5, some 0⟩⟩) (.setZeroConfRejected ⟨5, none⟩)
      (.call (.setLockupTransaction ⟨5, some 0⟩ transactionMempool Swap.updatable) .start)
  refine ⟨_, hr, rfl, by decide, fun c => ?_⟩
  exact (lockup_ownership.1 _ _ ⟨rfl, by decide⟩ hr c).1

end Boltz

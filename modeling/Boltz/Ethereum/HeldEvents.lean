import Boltz.Ethereum.ConsolidatedEventHandler

/-!
# What happens to a lockup event

An event that was handed in is emitted, queued or waits for the lock. It is lost when another event
of the same log is queued before it, or when its transaction has no receipt for too long.
-/

namespace Boltz.ConsolidatedEventHandler

open Boltz.Async

set_option linter.unusedSectionVars false

namespace State

variable {V : Type} [DecidableEq V]

section Defs

variable (s : State V) (entry : LockupEventEntry V)

def Delivered : Prop :=
  .lockup entry ∈ s.forwarded ∨ ∃ e ∈ s.emitted, e.pending.event = entry

def Queued : Prop :=
  (∃ pending ∈ s.live, pending.event = entry) ∨
    ∃ pending, .handleEvent pending ∈ s.waiting ∧ pending.event = entry

def Holds : Prop := s.Delivered entry ∨ s.Queued entry

/-- The event that an operation loses. -/
def lostBy (required : Nat) : Op V → Option (LockupEventEntry V)
  | .acquire i =>
    match s.waiting[i]? with
    | some (.handleEvent pending) =>
      if s.pendingEvents.any fun p =>
        pendingEventKey p == pendingEventKey pending && p.event != pending.event
      then some pending.event
      else none
    | _ => none
  | .settle i =>
    match s.item i with
    | some (flush, ⟨pending, .answered receipt⟩) =>
      if processPendingEvent required s.time pending (some receipt) flush.latestBlockHeight = .drop
      then some pending.event
      else none
    | _ => none
  | _ => none

end Defs

section Proofs

variable {s s' : State V} {entry : LockupEventEntry V} {required i : Nat} {op : Op V}

/-- Nothing that is held is taken away. -/
theorem Holds.mono (h : s.Holds entry) (hforwarded : s.forwarded ⊆ s'.forwarded)
    (hemitted : ∀ e ∈ s.emitted, e ∈ s'.emitted) (hlive : s.live ⊆ s'.live)
    (hwaiting : ∀ job ∈ s.waiting, job ∈ s'.waiting) : s'.Holds entry := by
  rcases h with (hin | ⟨e, he, hevent⟩) | ⟨pending, hin, hevent⟩ | ⟨pending, hin, hevent⟩
  · exact .inl (.inl (hforwarded hin))
  · exact .inl (.inr ⟨e, hemitted e he, hevent⟩)
  · exact .inr (.inl ⟨pending, hlive hin, hevent⟩)
  · exact .inr (.inr ⟨pending, hwaiting _ hin, hevent⟩)

theorem Holds.frame (h : s.Holds entry) (hforwarded : s'.forwarded = s.forwarded)
    (hemitted : s'.emitted = s.emitted) (hlive : s'.live = s.live)
    (hwaiting : s'.waiting = s.waiting) : s'.Holds entry :=
  h.mono (hforwarded ▸ List.Subset.refl _) (fun _ he => hemitted ▸ he)
    (hlive ▸ List.Subset.refl _) fun _ hjob => hwaiting ▸ hjob

theorem Holds.handleEvent (h : s.Holds entry) (event : Event V) :
    (s.handleEvent required event).Holds entry := by
  unfold State.handleEvent
  split
  · exact h
  · split
    · exact h.mono (List.subset_append_left _ _) (fun _ he => he) (List.Subset.refl _)
        fun _ hjob => hjob
    · split
      · exact h.mono (List.subset_append_left _ _) (fun _ he => he) (List.Subset.refl _)
          fun _ hjob => hjob
      · exact h
      · exact h.mono (List.Subset.refl _) (fun _ he => he) (List.Subset.refl _)
          fun _ hjob => List.mem_append_left _ hjob

/-- What is handed in is held. -/
theorem holds_handleEvent (halive : s.destroyed = false)
    (hhash : entry.transactionHash.isSome = true) :
    (s.handleEvent required (.lockup entry)).Holds entry := by
  obtain ⟨txHash, htx⟩ := Option.isSome_iff_exists.mp hhash
  unfold State.handleEvent
  rw [if_neg (by simp [halive])]
  split
  · exact .inl (.inl (List.mem_append_right _ (List.mem_singleton_self _)))
  · simp only [classifyEvent, htx]
    exact .inr (.inr ⟨_, List.mem_append_right _ (List.mem_singleton_self _), rfl⟩)

theorem Holds.flushPendingEvents (h : s.Holds entry) (latest : Nat) :
    (s.flushPendingEvents latest).Holds entry := by
  unfold State.flushPendingEvents
  split
  · exact h
  · exact h.mono (List.Subset.refl _) (fun _ he => he) (List.Subset.refl _)
      fun _ hjob => List.mem_append_left _ hjob

/-! ## The lock -/

theorem Holds.startFlush (h : s.Holds entry) (hflush : s.flush = none) (latest : Nat) :
    (s.startFlush latest).Holds entry := by
  unfold State.startFlush
  split
  · exact h
  · refine h.mono (List.Subset.refl _) (fun _ he => he) ?_ fun _ hjob => hjob
    intro p hp
    rw [live_noFlush hflush] at hp
    simp only [State.live, live_requested]
    exact hp

theorem Holds.setPending (h : s.Holds entry) (hflush : s.flush = none)
    (pending : PendingEvent V) : (s.setPending pending).Holds entry := by
  unfold State.setPending
  split
  · exact h
  · refine h.mono (List.Subset.refl _) (fun _ he => he) ?_ fun _ hjob => hjob
    intro p hp
    rw [live_noFlush hflush] at hp
    simp only [State.live, hflush]
    exact List.mem_append_left _ hp

/-- The event of a job is queued, unless another event of its log is. -/
theorem holds_setPending {pending : PendingEvent V} (hflush : s.flush = none)
    (hsame : ∀ p ∈ s.pendingEvents, pendingEventKey p = pendingEventKey pending →
      p.event = pending.event) :
    (s.setPending pending).Holds pending.event := by
  unfold State.setPending
  split
  · rename_i hany
    obtain ⟨p, hp, hkey⟩ := List.any_eq_true.mp hany
    exact .inr (.inl ⟨p, (live_noFlush hflush).symm ▸ hp, hsame p hp (eq_of_beq hkey)⟩)
  · refine .inr (.inl ⟨pending, ?_, rfl⟩)
    simp only [State.live, hflush]
    exact List.mem_append_right _ (List.mem_singleton_self _)

/-- What the job that gets the lock does not hold is held without it. -/
theorem Holds.erase (h : s.Holds entry) {job : Job V} (hjob : s.waiting[i]? = some job) :
    ({ s with waiting := s.waiting.eraseIdx i } : State V).Holds entry ∨
      ∃ pending, job = .handleEvent pending ∧ pending.event = entry := by
  rcases h with hdelivered | hlive | ⟨pending, hin, hevent⟩
  · exact .inl (.inl hdelivered)
  · exact .inl (.inr (.inl hlive))
  · rcases mem_eraseIdx_or hjob hin with heq | hin
    · exact .inr ⟨pending, heq.symm, hevent⟩
    · exact .inl (.inr (.inr ⟨pending, hin, hevent⟩))

theorem Holds.acquire (h : s.Holds entry) (hstep : s.acquire i = some s')
    (hkept : s.lostBy required (.acquire i) ≠ some entry) : s'.Holds entry := by
  unfold State.acquire at hstep
  split at hstep
  · rename_i job hflush hjob
    rcases h.erase hjob with hrest | ⟨pending, rfl, rfl⟩
    · cases job with
      | handleEvent pending =>
        obtain rfl := Option.some.inj hstep
        exact hrest.setPending hflush pending
      | flushPendingEvents latest =>
        obtain rfl := Option.some.inj hstep
        exact hrest.startFlush hflush latest
    · obtain rfl := Option.some.inj hstep
      refine holds_setPending hflush fun p hp hkey => ?_
      by_contra hne
      refine hkept ?_
      simp only [lostBy, hjob]
      exact if_pos (List.any_eq_true.mpr ⟨p, hp, by simp [hkey, hne]⟩)
  · cases hstep

theorem processPendingEvent_eq_drop {now latest : Nat} {pending : PendingEvent V}
    {receipt : Option (Receipt V)} (hnone : receipt.bind (·.blockNumber) = none)
    (hold : now - pending.firstSeenTimestamp > pendingTimeoutMs) :
    processPendingEvent required now pending (some receipt) latest = .drop := by
  unfold processPendingEvent
  simp only [hnone]
  exact if_pos hold

theorem Holds.settle (h : s.Holds entry) (hstep : s.settle required i = some s')
    (hkept : s.lostBy required (.settle i) ≠ some entry) : s'.Holds entry := by
  obtain ⟨flush, item, hitem, hlive, -, hcases⟩ := settle_cases hstep
  rcases hcases with ⟨rfl, -⟩ | ⟨receipt, hanswered, hnone, hold, rfl⟩ | ⟨-, -, -, -, -, rfl⟩
  · exact h.frame rfl rfl (live_setItem_live hitem hlive rfl) rfl
  · obtain ⟨l₁, l₂, hbefore, hafter⟩ := live_setItem (s := s.drop item.pending) hitem hlive
      { item with lookup := .settled false }
    have hbefore : s.live = l₁ ++ [item.pending] ++ l₂ := hbefore
    rcases h with hdelivered | ⟨p, hin, hevent⟩ | hwaiting
    · exact .inl hdelivered
    · have hne : p ≠ item.pending := by
        rintro rfl
        refine hkept ?_
        simp only [lostBy, hitem]
        obtain ⟨pending, lookup⟩ := item
        obtain rfl : lookup = .answered receipt := hanswered
        simp only [if_pos (processPendingEvent_eq_drop hnone hold)]
        exact congrArg some hevent
      refine .inr (.inl ⟨p, ?_, hevent⟩)
      rw [hafter]
      rw [hbefore, List.mem_append, List.mem_append, List.mem_singleton] at hin
      rcases hin with (hin | hin) | hin
      · exact List.mem_append_left _ (List.mem_append_left _ hin)
      · exact absurd hin hne
      · exact List.mem_append_right _ hin
    · exact .inr (.inr hwaiting)
  · obtain ⟨l₁, l₂, hbefore, hafter⟩ := live_setItem (s := s.emit item.pending) hitem hlive
      { item with lookup := .settled false }
    have hbefore : s.live = l₁ ++ [item.pending] ++ l₂ := hbefore
    rcases h with (hin | ⟨e, he, hevent⟩) | ⟨p, hin, hevent⟩ | hwaiting
    · exact .inl (.inl hin)
    · exact .inl (.inr ⟨e, List.mem_append_left _ he, hevent⟩)
    · rw [hbefore, List.mem_append, List.mem_append, List.mem_singleton] at hin
      rcases hin with (hin | rfl) | hin
      · exact .inr (.inl ⟨p, hafter ▸ List.mem_append_left _ (List.mem_append_left _ hin), hevent⟩)
      · exact .inl (.inr ⟨_, List.mem_append_right _ (List.mem_singleton_self _), hevent⟩)
      · exact .inr (.inl ⟨p, hafter ▸ List.mem_append_right _ hin, hevent⟩)
    · exact .inr (.inr hwaiting)

/-- An event stays held until an operation loses it. -/
theorem holds_step (h : s.Holds entry) (hstep : s.step required op = some s')
    (halive : op ≠ .destroy) (hkept : s.lostBy required op ≠ some entry) : s'.Holds entry := by
  cases op with
  | tick ms =>
    obtain rfl := Option.some.inj hstep
    exact h.frame rfl rfl rfl rfl
  | chain height receipts =>
    obtain rfl := Option.some.inj hstep
    exact h.frame rfl rfl rfl rfl
  | handleEvent event =>
    obtain rfl := Option.some.inj hstep
    exact h.handleEvent event
  | flushPendingEvents latest =>
    obtain rfl := Option.some.inj hstep
    exact h.flushPendingEvents latest
  | acquire i => exact h.acquire hstep hkept
  | answer i =>
    obtain ⟨flush, item, hitem, hreq, rfl⟩ := answer_cases hstep
    exact h.frame rfl rfl (live_setItem_live hitem (isSettled_of_requested hreq) rfl) rfl
  | fail i =>
    obtain ⟨flush, item, hitem, hreq, rfl⟩ := fail_cases hstep
    exact h.frame rfl rfl (live_setItem_live hitem (isSettled_of_requested hreq) rfl) rfl
  | settle i => exact h.settle hstep hkept
  | release =>
    obtain ⟨flush, hflush, -, rfl⟩ := release_cases hstep
    exact h.frame rfl rfl (live_flush hflush).symm rfl
  | destroy => exact absurd rfl halive

theorem destroyed_handleEvent (event : Event V) :
    (s.handleEvent required event).destroyed = s.destroyed := by
  unfold State.handleEvent
  repeat' split
  all_goals rfl

theorem destroyed_step (hstep : s.step required op = some s') (halive : op ≠ .destroy) :
    s'.destroyed = s.destroyed := by
  cases op with
  | tick ms => exact Option.some.inj hstep ▸ rfl
  | chain height receipts => exact Option.some.inj hstep ▸ rfl
  | handleEvent event =>
    obtain rfl := Option.some.inj hstep
    exact destroyed_handleEvent event
  | flushPendingEvents latest =>
    obtain rfl := Option.some.inj hstep
    unfold State.flushPendingEvents
    split <;> rfl
  | acquire i =>
    obtain ⟨-, ⟨pending, rfl⟩ | ⟨latest, rfl⟩⟩ := acquire_cases hstep
    · unfold State.setPending
      split <;> rfl
    · unfold State.startFlush
      split <;> rfl
  | answer i =>
    obtain ⟨-, -, -, -, rfl⟩ := answer_cases hstep
    rfl
  | fail i =>
    obtain ⟨-, -, -, -, rfl⟩ := fail_cases hstep
    rfl
  | settle i =>
    obtain ⟨_, _, -, -, -, hcases⟩ := settle_cases hstep
    rcases hcases with ⟨rfl, -⟩ | ⟨-, -, -, -, rfl⟩ | ⟨-, -, -, -, -, rfl⟩ <;> rfl
  | release =>
    obtain ⟨-, -, -, rfl⟩ := release_cases hstep
    rfl
  | destroy => exact absurd rfl halive

end Proofs

end State

end Boltz.ConsolidatedEventHandler

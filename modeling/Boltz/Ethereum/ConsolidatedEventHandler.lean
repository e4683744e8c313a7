import Boltz.Async.Transitions
import Mathlib.Data.List.Basic
import Mathlib.Data.List.Nodup
import Mathlib.Logic.Function.Basic

/-!
# Lockup events of EVM contracts (`lib/wallet/ethereum/ConsolidatedEventHandler.ts`)

The chain may be replaced by any other one at any step (`Op.chain`). A lookup of a receipt is two
steps: the node answers with what it has then, and the answer is handled later. Decoded values of a
log are of any type `V`. What the full queue of the lock rejects is not handed in. `emitted`,
`dropped` and `queued` record what happened to queued events, an emission together with the chain it
happened on; `lost` is when a transaction was unmined last.
-/

namespace Boltz.ConsolidatedEventHandler

open Boltz.Async

set_option linter.unusedSectionVars false

inductive LockupName where
  | ethLockup
  | erc20Lockup
  deriving DecidableEq, Repr

inductive ClaimName where
  | ethClaim
  | erc20Claim
  deriving DecidableEq, Repr

structure LockupEventEntry (V : Type) where
  name : LockupName
  version : Nat
  transactionHash : Option Nat
  logIndex : Nat
  values : V
  deriving DecidableEq, Repr

structure ClaimEventEntry where
  name : ClaimName
  version : Nat
  transactionHash : Nat
  preimageHash : List UInt8
  preimage : List UInt8
  deriving DecidableEq, Repr

inductive Event (V : Type) where
  | lockup (entry : LockupEventEntry V)
  | claim (entry : ClaimEventEntry)
  deriving DecidableEq, Repr

def Event.isLockup {V : Type} : Event V → Bool
  | .lockup _ => true
  | .claim _ => false

structure PendingEvent (V : Type) where
  txHash : Nat
  firstSeenTimestamp : Nat
  event : LockupEventEntry V
  deriving DecidableEq, Repr

def pendingEventKey {V : Type} (pending : PendingEvent V) : LockupName × Nat × Nat :=
  (pending.event.name, pending.txHash, pending.event.logIndex)

inductive QueueResult (V : Type) where
  | queue (pending : PendingEvent V)
  | forward
  | drop

def defaultConfirmations : Nat := 1

def flushConcurrency : Nat := 16

def pendingTimeoutMs : Nat := 60 * 60 * 1000

/-- `requiredConfirmations` as the constructor keeps it. -/
def requiredConfirmationsOf (requiredConfirmations : Rat) : Nat :=
  if requiredConfirmations > 0 then requiredConfirmations.ceil.toNat else defaultConfirmations

def classifyEvent {V : Type} (event : Event V) (now : Nat) : QueueResult V :=
  match event with
  | .lockup entry =>
    match entry.transactionHash with
    | none => .drop
    | some txHash => .queue { txHash, firstSeenTimestamp := now, event := entry }
  | .claim _ => .forward

/-! ## The chain -/

structure Log (V : Type) where
  name : LockupName
  version : Nat
  index : Nat
  values : V
  deriving DecidableEq, Repr

structure Receipt (V : Type) where
  blockNumber : Option Nat
  status : Nat
  logs : List (Log V)
  deriving DecidableEq, Repr

section Receipts

variable {V : Type} [DecidableEq V]

/-- The transaction succeeded and still has the log of the event. -/
def Receipt.has (receipt : Receipt V) (event : LockupEventEntry V) : Bool :=
  receipt.status == 1 &&
    receipt.logs.contains
      { name := event.name, version := event.version, index := event.logIndex,
        values := event.values }

/-- The check of `processPendingEvent` on a receipt. -/
def deep (required : Nat) (receipt : Option (Receipt V)) (latestBlockHeight : Nat) : Bool :=
  (receipt.bind (·.blockNumber)).any fun blockHeight =>
    latestBlockHeight ≥ blockHeight + required - 1

end Receipts

inductive Processed where
  | keep
  | drop
  | emit
  deriving DecidableEq, Repr

/-- `none` is a lookup that failed. -/
def processPendingEvent {V : Type} (required now : Nat) (queued : PendingEvent V)
    (receipt : Option (Option (Receipt V))) (latestBlockHeight : Nat) : Processed :=
  match receipt with
  | none => .keep
  | some receipt =>
    match receipt.bind (·.blockNumber) with
    | none => if now - queued.firstSeenTimestamp > pendingTimeoutMs then .drop else .keep
    | some blockHeight =>
      let targetHeight := blockHeight + required - 1
      if latestBlockHeight ≥ targetHeight then .emit else .keep

/-! ## The handler -/

inductive Lookup (V : Type) where
  | requested
  | answered (receipt : Option (Receipt V))
  | failed
  | settled (kept : Bool)
  deriving DecidableEq, Repr

structure Item (V : Type) where
  pending : PendingEvent V
  lookup : Lookup V := .requested
  deriving DecidableEq, Repr

def Item.isSettled {V : Type} (item : Item V) : Bool :=
  match item.lookup with
  | .settled _ => true
  | _ => false

/-- What is left of an item; nothing when it is settled and not kept. -/
def Item.live {V : Type} (item : Item V) : Option (PendingEvent V) :=
  match item.lookup with
  | .settled false => none
  | _ => some item.pending

/-- `flushPendingEvents` while it holds the lock. -/
structure Flush (V : Type) where
  latestBlockHeight : Nat
  items : List (Item V)

/-- What waits for the lock. -/
inductive Job (V : Type) where
  | handleEvent (pending : PendingEvent V)
  | flushPendingEvents (latestBlockHeight : Nat)

structure Emission (V : Type) where
  pending : PendingEvent V
  receipt : Option (Receipt V)
  height : Nat

structure Dropped (V : Type) where
  pending : PendingEvent V
  time : Nat
  lastMined : Option Nat

structure State (V : Type) where
  time : Nat
  height : Nat
  receipts : Nat → Option (Receipt V)
  lost : Nat → Option Nat := fun _ => none
  pendingEvents : List (PendingEvent V) := []
  destroyed : Bool := false
  waiting : List (Job V) := []
  flush : Option (Flush V) := none
  flushes : Nat := 0
  forwarded : List (Event V) := []
  queued : List (PendingEvent V) := []
  emitted : List (Emission V) := []
  dropped : List (Dropped V) := []

inductive Op (V : Type) where
  | tick (ms : Nat)
  | chain (height : Nat) (receipts : Nat → Option (Receipt V))
  | handleEvent (event : Event V)
  /-- A block, a rescan or `checkTransaction` asks for a flush. -/
  | flushPendingEvents (latestBlockHeight : Nat)
  | acquire (i : Nat)
  | answer (i : Nat)
  | fail (i : Nat)
  | settle (i : Nat)
  | release
  | destroy

namespace State

variable {V : Type} [DecidableEq V] (required : Nat) (s : State V)

def isMined (txHash : Nat) : Bool := ((s.receipts txHash).bind (·.blockNumber)).isSome

def lastMined (txHash : Nat) : Option Nat :=
  if s.isMined txHash then some s.time else s.lost txHash

def chain (height : Nat) (receipts : Nat → Option (Receipt V)) : State V :=
  { s with height, receipts, lost := s.lastMined }

def handleEvent (event : Event V) : State V :=
  if s.destroyed then s
  else if required ≤ 1 then { s with forwarded := s.forwarded ++ [event] }
  else
    match classifyEvent event s.time with
    | .forward => { s with forwarded := s.forwarded ++ [event] }
    | .drop => s
    | .queue pending => { s with waiting := s.waiting ++ [.handleEvent pending] }

def flushPendingEvents (latestBlockHeight : Nat) : State V :=
  if s.destroyed then s
  else { s with waiting := s.waiting ++ [.flushPendingEvents latestBlockHeight] }

/-- `pendingEvents.set` unless the key is there. -/
def setPending (pending : PendingEvent V) : State V :=
  if s.pendingEvents.any fun p => pendingEventKey p == pendingEventKey pending then s
  else { s with pendingEvents := s.pendingEvents ++ [pending], queued := s.queued ++ [pending] }

def startFlush (latestBlockHeight : Nat) : State V :=
  if s.destroyed || s.pendingEvents.isEmpty then s
  else
    let items : List (Item V) := s.pendingEvents.map fun pending => { pending }
    { s with flush := some { latestBlockHeight, items } }

def acquire (i : Nat) : Option (State V) :=
  match s.flush, s.waiting[i]? with
  | none, some job =>
    let s' : State V := { s with waiting := s.waiting.eraseIdx i }
    match job with
    | .handleEvent pending => some (s'.setPending pending)
    | .flushPendingEvents latestBlockHeight => some (s'.startFlush latestBlockHeight)
  | _, _ => none

/-- The item `i` of the flush that is under way. -/
def item (i : Nat) : Option (Flush V × Item V) :=
  s.flush.bind fun flush => (flush.items[i]?).map fun item => (flush, item)

def setItem (flush : Flush V) (i : Nat) (item : Item V) : State V :=
  { s with flush := some { flush with items := flush.items.set i item } }

/-- `mapConcurrent` waits for all items of the chunks before. -/
def isRequested (flush : Flush V) (i : Nat) (item : Item V) : Bool :=
  item.lookup == .requested &&
    (flush.items.take (i / flushConcurrency * flushConcurrency)).all Item.isSettled

def answer (i : Nat) : Option (State V) :=
  match s.item i with
  | some (flush, item) =>
    if isRequested flush i item then
      let lookup := .answered (s.receipts item.pending.txHash)
      some (s.setItem flush i { item with lookup })
    else none
  | none => none

def fail (i : Nat) : Option (State V) :=
  match s.item i with
  | some (flush, item) =>
    if isRequested flush i item then some (s.setItem flush i { item with lookup := .failed })
    else none
  | none => none

def emit (pending : PendingEvent V) : State V :=
  let emission : Emission V :=
    { pending, receipt := s.receipts pending.txHash, height := s.height }
  { s with emitted := s.emitted ++ [emission] }

def drop (pending : PendingEvent V) : State V :=
  let dropped : Dropped V := { pending, time := s.time, lastMined := s.lastMined pending.txHash }
  { s with dropped := s.dropped ++ [dropped] }

def process (flush : Flush V) (i : Nat) (pending : PendingEvent V)
    (receipt : Option (Option (Receipt V))) : State V :=
  match processPendingEvent required s.time pending receipt flush.latestBlockHeight with
  | .keep => s.setItem flush i { pending, lookup := .settled true }
  | .drop => (s.drop pending).setItem flush i { pending, lookup := .settled false }
  | .emit => (s.emit pending).setItem flush i { pending, lookup := .settled false }

def settle (i : Nat) : Option (State V) :=
  match s.item i with
  | some (flush, item) =>
    match item.lookup with
    | .answered receipt => some (s.process required flush i item.pending (some receipt))
    | .failed => some (s.process required flush i item.pending none)
    | _ => none
  | none => none

def release : Option (State V) :=
  match s.flush with
  | some flush =>
    if flush.items.all Item.isSettled then
      let pendingEvents := flush.items.filterMap Item.live
      some { s with pendingEvents, flush := none, flushes := s.flushes + 1 }
    else none
  | none => none

/-- The queued events that are neither emitted nor dropped. -/
def live : List (PendingEvent V) :=
  match s.flush with
  | some flush => flush.items.filterMap Item.live
  | none => s.pendingEvents

def step : Op V → Option (State V)
  | .tick ms => some { s with time := s.time + ms }
  | .chain height receipts => some (s.chain height receipts)
  | .handleEvent event => some (s.handleEvent required event)
  | .flushPendingEvents latestBlockHeight => some (s.flushPendingEvents latestBlockHeight)
  | .acquire i => s.acquire i
  | .answer i => s.answer i
  | .fail i => s.fail i
  | .settle i => s.settle required i
  | .release => s.release
  | .destroy => some { s with destroyed := true, pendingEvents := [] }

/-- The handler after its constructor, on any chain. -/
def start (time height : Nat) (receipts : Nat → Option (Receipt V)) : State V :=
  { time, height, receipts }

end State

/-! ## Chains that keep the outcome of a transaction -/

section Policy

variable {V : Type} [DecidableEq V] (required : Nat)

/-- When it was emitted, the receipt had the log and enough blocks. -/
def Emission.confirmed (e : Emission V) : Bool :=
  e.receipt.any fun receipt =>
    receipt.has e.pending.event &&
      receipt.blockNumber.any fun blockHeight => required ≤ e.height + 1 - blockHeight

/-- When it was dropped, there was no receipt for the whole timeout. -/
def Dropped.timedOut (d : Dropped V) : Bool :=
  d.time - d.pending.firstSeenTimestamp > pendingTimeoutMs &&
    d.lastMined.all fun mined => d.time - mined > pendingTimeoutMs

namespace State

variable (s : State V)

/-- What a chain has for an answered lookup that is deep enough. -/
def sameAnswer (flush : Flush V) (item : Item V) (height : Nat)
    (receipts : Nat → Option (Receipt V)) : Bool :=
  match item.lookup with
  | .answered receipt =>
    !deep required receipt flush.latestBlockHeight ||
      (receipts item.pending.txHash == receipt && flush.latestBlockHeight ≤ height)
  | _ => true

/-- A receipt that is deep enough for a flush is of a transaction that succeeded, with the log of
the event, on a chain as high as the flush was told, and stays until its answer is handled. An event
that is older than the timeout and has no receipt did not lose it within the timeout. -/
def admits : Op V → Bool
  | .chain height receipts =>
    match s.flush with
    | some flush => flush.items.all fun item => sameAnswer required flush item height receipts
    | none => true
  | .answer i =>
    match s.item i with
    | some (flush, item) =>
      let receipt := s.receipts item.pending.txHash
      !deep required receipt flush.latestBlockHeight ||
        (flush.latestBlockHeight ≤ s.height && receipt.any (·.has item.pending.event))
    | none => true
  | .settle i =>
    match s.item i with
    | some (_, ⟨pending, .answered receipt⟩) =>
      (receipt.bind (·.blockNumber)).isSome ||
        (s.lastMined pending.txHash).all fun mined =>
          s.time - mined > pendingTimeoutMs ||
            s.time - pending.firstSeenTimestamp ≤ pendingTimeoutMs
    | _ => true
  | _ => true

/-- Every lookup of the event that is answered finds it deep enough. -/
def finds (pending : PendingEvent V) (s : State V) : Op V → Bool
  | .answer i =>
    match s.item i with
    | some (flush, item) =>
      item.pending != pending ||
        deep required (s.receipts pending.txHash) flush.latestBlockHeight
    | none => true
  | .fail i => (s.item i).all fun (_, item) => item.pending != pending
  | .destroy => false
  | _ => true

end State

end Policy

section Proofs

variable {V : Type} [DecidableEq V] {required : Nat} {s s' : State V} {pending : PendingEvent V}
  {flush : Flush V} {item : Item V} {i : Nat}

theorem one_lt_requiredConfirmationsOf {c : Rat} (hc : 1 < c) : 1 < requiredConfirmationsOf c := by
  have hceil : (1 : Int) < c.ceil := Rat.lt_ceil_iff.mpr hc
  have hzero : ((0 : Int) : Rat) < c := Rat.lt_ceil_iff.mp (Int.lt_trans Int.one_pos hceil)
  have hpos : c > 0 := by rwa [Rat.intCast_zero] at hzero
  rw [requiredConfirmationsOf, if_pos hpos]
  omega

theorem processPendingEvent_emit {now latest : Nat} {receipt : Option (Option (Receipt V))}
    (h : processPendingEvent required now pending receipt latest = .emit) :
    ∃ r b, receipt = some (some r) ∧ r.blockNumber = some b ∧ b + required - 1 ≤ latest := by
  unfold processPendingEvent at h
  split at h
  · exact Processed.noConfusion h
  · next receipt =>
    split at h
    · split at h
      · exact Processed.noConfusion h
      · exact Processed.noConfusion h
    · next b hb =>
      obtain ⟨r, rfl, hr⟩ := Option.bind_eq_some_iff.mp hb
      by_cases hdeep : latest ≥ b + required - 1
      · exact ⟨r, b, rfl, hr, hdeep⟩
      · rw [if_neg hdeep] at h
        exact Processed.noConfusion h

theorem processPendingEvent_drop {now latest : Nat} {receipt : Option (Option (Receipt V))}
    (h : processPendingEvent required now pending receipt latest = .drop) :
    ∃ r, receipt = some r ∧ r.bind (·.blockNumber) = none ∧
      now - pending.firstSeenTimestamp > pendingTimeoutMs := by
  unfold processPendingEvent at h
  split at h
  · exact Processed.noConfusion h
  · next receipt =>
    split at h
    · next hnone =>
      by_cases hold : now - pending.firstSeenTimestamp > pendingTimeoutMs
      · exact ⟨receipt, rfl, hnone, hold⟩
      · rw [if_neg hold] at h
        exact Processed.noConfusion h
    · next b _ =>
      by_cases hdeep : latest ≥ b + required - 1
      · rw [if_pos hdeep] at h
        exact Processed.noConfusion h
      · rw [if_neg hdeep] at h
        exact Processed.noConfusion h

theorem processPendingEvent_of_deep {now latest : Nat} {receipt : Option (Receipt V)}
    (h : deep required receipt latest = true) :
    processPendingEvent required now pending (some receipt) latest = .emit := by
  obtain ⟨b, hb, hdeep⟩ := (Option.any_eq_true _ _).mp h
  unfold processPendingEvent
  simp only [hb]
  exact if_pos (of_decide_eq_true hdeep)

namespace State

theorem item_eq_some :
    s.item i = some (flush, item) ↔ s.flush = some flush ∧ flush.items[i]? = some item := by
  unfold State.item
  constructor
  · intro h
    obtain ⟨flush', hflush, hmap⟩ := Option.bind_eq_some_iff.mp h
    obtain ⟨item', hitem, hpair⟩ := Option.map_eq_some_iff.mp hmap
    obtain ⟨rfl, rfl⟩ := Prod.mk.inj hpair
    exact ⟨hflush, hitem⟩
  · rintro ⟨hflush, hitem⟩
    rw [hflush, Option.bind_some, hitem, Option.map_some]

/-! ## What one step does -/

theorem handleEvent_cases (event : Event V) (hreq : 1 < required) :
    s.handleEvent required event = s ∨
      event.isLockup = false ∧
        s.handleEvent required event = { s with forwarded := s.forwarded ++ [event] } ∨
      ∃ job, s.handleEvent required event = { s with waiting := s.waiting ++ [job] } := by
  unfold handleEvent
  by_cases hd : s.destroyed = true
  · rw [if_pos hd]
    exact .inl rfl
  rw [if_neg hd, if_neg (Nat.not_le.mpr hreq)]
  cases event with
  | claim entry => exact .inr (.inl ⟨rfl, rfl⟩)
  | lockup entry =>
    rw [classifyEvent]
    cases entry.transactionHash with
    | none => exact .inl rfl
    | some txHash => exact .inr (.inr ⟨_, rfl⟩)

theorem acquire_cases (h : s.acquire i = some s') :
    let acquired : State V := { s with waiting := s.waiting.eraseIdx i }
    s.flush = none ∧
      ((∃ pending, s' = acquired.setPending pending) ∨
        ∃ latest, s' = acquired.startFlush latest) := by
  unfold acquire at h
  split at h
  · next job hflush _ =>
    refine ⟨hflush, ?_⟩
    cases job with
    | handleEvent pending => exact .inl ⟨pending, (Option.some.inj h).symm⟩
    | flushPendingEvents latest => exact .inr ⟨latest, (Option.some.inj h).symm⟩
  · exact absurd h (Option.some_ne_none s').symm

theorem requested_of_isRequested (h : isRequested flush i item = true) :
    item.lookup = .requested :=
  eq_of_beq (Bool.and_eq_true_iff.mp h).1

theorem answer_cases (h : s.answer i = some s') :
    ∃ flush item, s.item i = some (flush, item) ∧ item.lookup = .requested ∧
      s' = s.setItem flush i
        { item with lookup := .answered (s.receipts item.pending.txHash) } := by
  unfold answer at h
  split at h
  · next flush item hitem =>
    by_cases hreq : isRequested flush i item = true
    · rw [if_pos hreq] at h
      exact ⟨flush, item, hitem, requested_of_isRequested hreq, (Option.some.inj h).symm⟩
    · rw [if_neg hreq] at h
      exact absurd h (Option.some_ne_none s').symm
  · exact absurd h (Option.some_ne_none s').symm

theorem fail_cases (h : s.fail i = some s') :
    ∃ flush item, s.item i = some (flush, item) ∧ item.lookup = .requested ∧
      s' = s.setItem flush i { item with lookup := .failed } := by
  unfold fail at h
  split at h
  · next flush item hitem =>
    by_cases hreq : isRequested flush i item = true
    · rw [if_pos hreq] at h
      exact ⟨flush, item, hitem, requested_of_isRequested hreq, (Option.some.inj h).symm⟩
    · rw [if_neg hreq] at h
      exact absurd h (Option.some_ne_none s').symm
  · exact absurd h (Option.some_ne_none s').symm

/-- A settled item is kept, dropped or emitted. -/
theorem settle_cases (h : s.settle required i = some s') :
    ∃ flush item, s.item i = some (flush, item) ∧ item.isSettled = false ∧
      item.lookup ≠ .requested ∧
      (s' = s.setItem flush i { item with lookup := .settled true } ∧
          (∀ receipt, item.lookup = .answered receipt →
            deep required receipt flush.latestBlockHeight = false) ∨
        (∃ receipt, item.lookup = .answered receipt ∧ receipt.bind (·.blockNumber) = none ∧
          s.time - item.pending.firstSeenTimestamp > pendingTimeoutMs ∧
          s' = (s.drop item.pending).setItem flush i { item with lookup := .settled false }) ∨
        (∃ receipt b, item.lookup = .answered (some receipt) ∧ receipt.blockNumber = some b ∧
          b + required - 1 ≤ flush.latestBlockHeight ∧
          s' = (s.emit item.pending).setItem flush i { item with lookup := .settled false })) := by
  unfold settle at h
  split at h
  swap
  · exact absurd h (Option.some_ne_none s').symm
  next flush item hitem =>
  obtain ⟨pending, lookup⟩ := item
  refine ⟨flush, ⟨pending, lookup⟩, hitem, ?_⟩
  cases lookup with
  | requested => exact absurd h (Option.some_ne_none s').symm
  | settled kept => exact absurd h (Option.some_ne_none s').symm
  | failed =>
    refine ⟨rfl, by simp, .inl ⟨(Option.some.inj h).symm, ?_⟩⟩
    intro receipt hanswered
    injection hanswered
  | answered receipt =>
    refine ⟨rfl, by simp, ?_⟩
    have h := Option.some.inj h
    unfold process at h
    split at h
    · next hkeep =>
      refine .inl ⟨h.symm, ?_⟩
      intro receipt' hanswered
      obtain rfl := Lookup.answered.inj hanswered
      by_cases hdeep : deep required receipt flush.latestBlockHeight = true
      · rw [processPendingEvent_of_deep hdeep] at hkeep
        exact Processed.noConfusion hkeep
      · exact Bool.not_eq_true _ ▸ hdeep
    · next hdrop =>
      obtain ⟨r, hr, hnone, hold⟩ := processPendingEvent_drop hdrop
      obtain rfl := Option.some.inj hr
      exact .inr (.inl ⟨receipt, rfl, hnone, hold, h.symm⟩)
    · next hemit =>
      obtain ⟨r, b, hr, hb, hdeep⟩ := processPendingEvent_emit hemit
      obtain rfl := Option.some.inj hr
      exact .inr (.inr ⟨r, b, rfl, hb, hdeep, h.symm⟩)

theorem release_cases (h : s.release = some s') :
    ∃ flush, s.flush = some flush ∧ (∀ item ∈ flush.items, item.isSettled = true) ∧
      s' = { s with
        pendingEvents := flush.items.filterMap Item.live
        flush := none
        flushes := s.flushes + 1 } := by
  unfold release at h
  split at h
  · next flush hflush =>
    by_cases hall : flush.items.all Item.isSettled = true
    · rw [if_pos hall] at h
      exact ⟨flush, hflush, List.all_eq_true.mp hall, (Option.some.inj h).symm⟩
    · rw [if_neg hall] at h
      exact absurd h (Option.some_ne_none s').symm
  · exact absurd h (Option.some_ne_none s').symm

/-! ## Only the node changes the receipts -/

theorem receipts_handleEvent (required : Nat) (event : Event V) :
    (s.handleEvent required event).receipts = s.receipts := by
  unfold handleEvent
  split
  · rfl
  · split
    · rfl
    · split <;> rfl

theorem receipts_setPending (pending : PendingEvent V) :
    (s.setPending pending).receipts = s.receipts := by
  unfold setPending
  split <;> rfl

theorem receipts_startFlush (latest : Nat) : (s.startFlush latest).receipts = s.receipts := by
  unfold startFlush
  split <;> rfl

theorem receipts_of_step {op : Op V} (hstep : s.step required op = some s') :
    s'.receipts = s.receipts ∨
      ∃ height receipts, op = .chain height receipts ∧ s'.receipts = receipts := by
  cases op with
  | tick ms =>
    obtain rfl := Option.some.inj hstep
    exact .inl rfl
  | chain height receipts =>
    obtain rfl := Option.some.inj hstep
    exact .inr ⟨height, receipts, rfl, rfl⟩
  | handleEvent event =>
    obtain rfl := Option.some.inj hstep
    exact .inl (receipts_handleEvent required event)
  | flushPendingEvents latest =>
    obtain rfl := Option.some.inj hstep
    unfold State.flushPendingEvents
    split <;> exact .inl rfl
  | acquire i =>
    obtain ⟨-, ⟨pending, rfl⟩ | ⟨latest, rfl⟩⟩ := acquire_cases hstep
    · exact .inl (receipts_setPending pending)
    · exact .inl (receipts_startFlush latest)
  | answer i =>
    obtain ⟨flush, item, -, -, rfl⟩ := answer_cases hstep
    exact .inl rfl
  | fail i =>
    obtain ⟨flush, item, -, -, rfl⟩ := fail_cases hstep
    exact .inl rfl
  | settle i =>
    obtain ⟨flush, item, -, -, -, ⟨rfl, -⟩ | ⟨_, -, -, -, rfl⟩ | ⟨_, _, -, -, -, rfl⟩⟩ :=
      settle_cases hstep <;> exact .inl rfl
  | release =>
    obtain ⟨flush, -, -, rfl⟩ := release_cases hstep
    exact .inl rfl
  | destroy =>
    obtain rfl := Option.some.inj hstep
    exact .inl rfl

/-! ## Emissions are confirmed -/

structure Inv (required : Nat) (s : State V) : Prop where
  answers : ∀ flush, s.flush = some flush → ∀ item ∈ flush.items, ∀ receipt,
    item.lookup = .answered receipt → deep required receipt flush.latestBlockHeight = true →
    s.receipts item.pending.txHash = receipt ∧ flush.latestBlockHeight ≤ s.height ∧
      receipt.any (·.has item.pending.event) = true
  emitted : ∀ e ∈ s.emitted, e.confirmed required = true
  dropped : ∀ d ∈ s.dropped, d.timedOut = true
  forwarded : ∀ e ∈ s.forwarded, e.isLockup = false

theorem Inv.noFlush (h : Inv required s) (hflush : s'.flush = none)
    (he : s'.emitted = s.emitted) (hd : s'.dropped = s.dropped)
    (hf : s'.forwarded = s.forwarded) : Inv required s' where
  answers flush hsome := by
    rw [hflush] at hsome
    exact absurd hsome (Option.some_ne_none flush).symm
  emitted := he ▸ h.emitted
  dropped := hd ▸ h.dropped
  forwarded := hf ▸ h.forwarded

theorem Inv.chain (h : Inv required s) {height : Nat} {receipts : Nat → Option (Receipt V)}
    (hadmits : s.admits required (.chain height receipts) = true) :
    Inv required (s.chain height receipts) where
  answers flush hflush item hitem receipt hanswered hdeep := by
    have hflush : s.flush = some flush := hflush
    obtain ⟨-, -, hhas⟩ := h.answers flush hflush item hitem receipt hanswered hdeep
    rw [admits, hflush] at hadmits
    have hsame := List.all_eq_true.mp hadmits item hitem
    simp only [sameAnswer, hanswered, hdeep, Bool.not_true, Bool.false_or, Bool.and_eq_true,
      beq_iff_eq, decide_eq_true_eq] at hsame
    exact ⟨hsame.1, hsame.2, hhas⟩
  emitted := h.emitted
  dropped := h.dropped
  forwarded := h.forwarded

theorem Inv.handleEvent (h : Inv required s) (hreq : 1 < required) (event : Event V) :
    Inv required (s.handleEvent required event) := by
  rcases handleEvent_cases event hreq with heq | ⟨hclaim, heq⟩ | ⟨job, heq⟩
  · rwa [heq]
  · rw [heq]
    refine ⟨h.answers, h.emitted, h.dropped, ?_⟩
    intro e he
    rcases List.mem_append.mp he with he | he
    · exact h.forwarded e he
    · rwa [List.mem_singleton.mp he]
  · rw [heq]
    exact ⟨h.answers, h.emitted, h.dropped, h.forwarded⟩

theorem Inv.flushPendingEvents (h : Inv required s) (latest : Nat) :
    Inv required (s.flushPendingEvents latest) := by
  unfold State.flushPendingEvents
  split
  · exact h
  · exact ⟨h.answers, h.emitted, h.dropped, h.forwarded⟩

theorem Inv.startFlush (h : Inv required s) (latest : Nat) :
    Inv required (s.startFlush latest) := by
  unfold State.startFlush
  split
  · exact h
  refine ⟨?_, h.emitted, h.dropped, h.forwarded⟩
  intro flush hflush item hitem receipt hanswered
  obtain rfl := Option.some.inj hflush
  obtain ⟨pending, -, rfl⟩ := List.mem_map.mp hitem
  injection hanswered

theorem Inv.acquire (h : Inv required s) (hstep : s.acquire i = some s') : Inv required s' := by
  obtain ⟨hflush, ⟨pending, rfl⟩ | ⟨latest, rfl⟩⟩ := acquire_cases hstep
  · unfold setPending
    split
    · exact h.noFlush hflush rfl rfl rfl
    · exact h.noFlush hflush rfl rfl rfl
  · refine Inv.startFlush ?_ latest
    exact h.noFlush hflush rfl rfl rfl

/-- The other items of a flush stay as they are. -/
theorem Inv.setItem (h : Inv required s) (hitem : s.item i = some (flush, item)) {item' : Item V}
    (hanswer : ∀ receipt, item'.lookup = .answered receipt →
      deep required receipt flush.latestBlockHeight = true →
      s.receipts item'.pending.txHash = receipt ∧ flush.latestBlockHeight ≤ s.height ∧
        receipt.any (·.has item'.pending.event) = true) :
    Inv required (s.setItem flush i item') where
  answers flush' hflush' x hx receipt hanswered hdeep := by
    obtain ⟨hflush, -⟩ := item_eq_some.mp hitem
    obtain rfl := Option.some.inj hflush'
    rcases List.mem_or_eq_of_mem_set hx with hx | rfl
    · exact h.answers flush hflush x hx receipt hanswered hdeep
    · exact hanswer receipt hanswered hdeep
  emitted := h.emitted
  dropped := h.dropped
  forwarded := h.forwarded

theorem Inv.setSettled (h : Inv required s) (hitem : s.item i = some (flush, item)) (kept : Bool) :
    Inv required (s.setItem flush i { item with lookup := .settled kept }) := by
  refine h.setItem hitem ?_
  intro receipt hanswered
  injection hanswered

theorem Inv.answer (h : Inv required s) (hadmits : s.admits required (.answer i) = true)
    (hstep : s.answer i = some s') : Inv required s' := by
  obtain ⟨flush, item, hitem, -, rfl⟩ := answer_cases hstep
  refine h.setItem hitem ?_
  intro receipt hanswered hdeep
  obtain rfl := Lookup.answered.inj hanswered
  rw [admits, hitem] at hadmits
  simp only [hdeep, Bool.not_true, Bool.false_or, Bool.and_eq_true, decide_eq_true_eq] at hadmits
  exact ⟨rfl, hadmits⟩

theorem Inv.fail (h : Inv required s) (hstep : s.fail i = some s') : Inv required s' := by
  obtain ⟨flush, item, hitem, -, rfl⟩ := fail_cases hstep
  refine h.setItem hitem ?_
  intro receipt hanswered
  injection hanswered

theorem Inv.drop (h : Inv required s)
    (hold : s.time - pending.firstSeenTimestamp > pendingTimeoutMs)
    (hlast : (s.lastMined pending.txHash).all (fun mined =>
      s.time - mined > pendingTimeoutMs ||
        s.time - pending.firstSeenTimestamp ≤ pendingTimeoutMs) = true) :
    Inv required (s.drop pending) := by
  refine ⟨h.answers, h.emitted, ?_, h.forwarded⟩
  intro d hd
  rcases List.mem_append.mp hd with hd | hd
  · exact h.dropped d hd
  obtain rfl := List.mem_singleton.mp hd
  refine Bool.and_eq_true_iff.mpr ⟨decide_eq_true hold, ?_⟩
  simp only [Nat.not_le.mpr hold, decide_false, Bool.or_false] at hlast
  exact hlast

theorem Inv.emit (h : Inv required s) {receipt : Receipt V} {b latest : Nat}
    (hreceipt : s.receipts pending.txHash = some receipt)
    (hhas : receipt.has pending.event = true) (hb : receipt.blockNumber = some b)
    (hdeep : b + required - 1 ≤ latest) (hlatest : latest ≤ s.height) :
    Inv required (s.emit pending) := by
  refine ⟨h.answers, ?_, h.dropped, h.forwarded⟩
  intro e he
  rcases List.mem_append.mp he with he | he
  · exact h.emitted e he
  obtain rfl := List.mem_singleton.mp he
  have hconf : required ≤ s.height + 1 - b := by omega
  simp only [Emission.confirmed, hreceipt, Option.any_some, hhas, hb, hconf, decide_true,
    Bool.and_self]

theorem Inv.settle (h : Inv required s) (hadmits : s.admits required (.settle i) = true)
    (hstep : s.settle required i = some s') : Inv required s' := by
  obtain ⟨flush, item, hitem, -, -, hcases⟩ := settle_cases hstep
  obtain ⟨hflush, hget⟩ := item_eq_some.mp hitem
  rcases hcases with ⟨rfl, -⟩ | ⟨receipt, hanswered, hnone, hold, rfl⟩ |
    ⟨receipt, b, hanswered, hb, hdeep, rfl⟩
  · exact h.setSettled hitem true
  · obtain ⟨pending, lookup⟩ := item
    obtain rfl : lookup = .answered receipt := hanswered
    rw [admits, hitem] at hadmits
    simp only [hnone, Option.isSome_none, Bool.false_or] at hadmits
    exact (h.drop hold hadmits).setSettled hitem false
  · have hreach : deep required (some receipt) flush.latestBlockHeight = true := by
      simp only [deep, Option.bind_some, hb, Option.any_some]
      exact decide_eq_true hdeep
    obtain ⟨hreceipt, hheight, hhas⟩ := h.answers flush hflush item (List.mem_of_getElem? hget)
      (some receipt) hanswered hreach
    exact (h.emit hreceipt hhas hb hdeep hheight).setSettled hitem false

theorem inv_step (hreq : 1 < required) (s : State V) (op : Op V) (s' : State V)
    (h : Inv required s) (hadmits : s.admits required op = true)
    (hstep : s.step required op = some s') : Inv required s' := by
  cases op with
  | tick ms =>
    obtain rfl := Option.some.inj hstep
    exact ⟨h.answers, h.emitted, h.dropped, h.forwarded⟩
  | chain height receipts =>
    obtain rfl := Option.some.inj hstep
    exact h.chain hadmits
  | handleEvent event =>
    obtain rfl := Option.some.inj hstep
    exact h.handleEvent hreq event
  | flushPendingEvents latest =>
    obtain rfl := Option.some.inj hstep
    exact h.flushPendingEvents latest
  | acquire i => exact h.acquire hstep
  | answer i => exact h.answer hadmits hstep
  | fail i => exact h.fail hstep
  | settle i => exact h.settle hadmits hstep
  | release =>
    obtain ⟨flush, -, -, rfl⟩ := release_cases hstep
    exact h.noFlush rfl rfl rfl rfl
  | destroy =>
    obtain rfl := Option.some.inj hstep
    exact ⟨h.answers, h.emitted, h.dropped, h.forwarded⟩

/-! ## A queued event is emitted once -/

/-- The keys of the queue are distinct, and each event queued is emitted, dropped or live, once. -/
structure Balanced (s : State V) : Prop where
  nodup : (s.live.map pendingEventKey).Nodup
  count : s.destroyed = false → ∀ key, (s.queued.map pendingEventKey).count key =
    (s.emitted.map fun e => pendingEventKey e.pending).count key +
      (s.dropped.map fun d => pendingEventKey d.pending).count key +
      (s.live.map pendingEventKey).count key

theorem live_flush (h : s.flush = some flush) : s.live = flush.items.filterMap Item.live := by
  rw [live, h]

theorem live_noFlush (h : s.flush = none) : s.live = s.pendingEvents := by
  rw [live, h]

theorem Item.live_of_not_settled (h : item.isSettled = false) : item.live = some item.pending := by
  obtain ⟨pending, lookup⟩ := item
  cases lookup with
  | settled kept => exact Bool.noConfusion h
  | requested => rfl
  | answered receipt => rfl
  | failed => rfl

theorem live_setItem (hitem : s.item i = some (flush, item)) (hlive : item.isSettled = false)
    (item' : Item V) :
    ∃ l₁ l₂, s.live = l₁ ++ [item.pending] ++ l₂ ∧
      (s.setItem flush i item').live = l₁ ++ item'.live.toList ++ l₂ := by
  obtain ⟨hflush, hget⟩ := item_eq_some.mp hitem
  obtain ⟨l₁, l₂, hbefore, hafter⟩ := filterMap_set Item.live hget item'
  rw [Item.live_of_not_settled hlive] at hbefore
  exact ⟨l₁, l₂, (live_flush hflush).trans hbefore, hafter⟩

/-- An item that stays live changes nothing. -/
theorem live_setItem_live (hitem : s.item i = some (flush, item)) (hlive : item.isSettled = false)
    {item' : Item V} (hlive' : item'.live = some item.pending) :
    (s.setItem flush i item').live = s.live := by
  obtain ⟨l₁, l₂, hbefore, hafter⟩ := live_setItem hitem hlive item'
  rw [hbefore, hafter, hlive', Option.toList_some]

theorem Balanced.frame (h : Balanced s) (hlive : s'.live = s.live) (hq : s'.queued = s.queued)
    (he : s'.emitted = s.emitted) (hd : s'.dropped = s.dropped)
    (hdestroyed : s'.destroyed = s.destroyed) : Balanced s' where
  nodup := hlive ▸ h.nodup
  count hs' key := by
    rw [hlive, hq, he, hd]
    exact h.count (hdestroyed ▸ hs') key

theorem Balanced.setPending (h : Balanced s) (hflush : s.flush = none) (pending : PendingEvent V) :
    Balanced (s.setPending pending) := by
  unfold State.setPending
  split
  · exact h
  next hfresh =>
  have hlive := live_noFlush hflush
  have hnodup := h.nodup
  rw [hlive] at hnodup
  have hnew : pendingEventKey pending ∉ s.pendingEvents.map pendingEventKey := by
    intro hmem
    obtain ⟨p, hp, hkey⟩ := List.mem_map.mp hmem
    exact hfresh (List.any_eq_true.mpr ⟨p, hp, beq_iff_eq.mpr hkey⟩)
  constructor
  · rw [live_noFlush (by exact hflush), List.map_append, List.map_singleton]
    exact List.nodup_append.mpr ⟨hnodup, List.nodup_singleton _, by
      intro a ha b hb hab
      rw [List.mem_singleton.mp hb] at hab
      exact hnew (hab ▸ ha)⟩
  · intro hdestroyed key
    have hcount := h.count hdestroyed key
    rw [hlive] at hcount
    rw [live_noFlush (by exact hflush)]
    simp only [List.map_append, List.count_append] at hcount ⊢
    omega

theorem live_requested (l : List (PendingEvent V)) :
    (l.map fun pending => ({ pending } : Item V)).filterMap Item.live = l := by
  rw [List.filterMap_map]
  exact List.filterMap_some

theorem Balanced.startFlush (h : Balanced s) (hflush : s.flush = none) (latest : Nat) :
    Balanced (s.startFlush latest) := by
  unfold State.startFlush
  split
  · exact h
  · refine h.frame ?_ rfl rfl rfl rfl
    rw [live_flush rfl, live_noFlush hflush]
    exact live_requested s.pendingEvents

theorem Balanced.acquire (h : Balanced s) (hstep : s.acquire i = some s') : Balanced s' := by
  obtain ⟨hflush, hcases⟩ := acquire_cases hstep
  have hframe : Balanced { s with waiting := s.waiting.eraseIdx i } :=
    h.frame rfl rfl rfl rfl rfl
  rcases hcases with ⟨pending, rfl⟩ | ⟨latest, rfl⟩
  · exact hframe.setPending hflush pending
  · exact hframe.startFlush hflush latest

theorem Balanced.handleEvent (h : Balanced s) (event : Event V) :
    Balanced (s.handleEvent required event) := by
  unfold State.handleEvent
  split
  · exact h
  split
  · exact h.frame rfl rfl rfl rfl rfl
  split
  · exact h.frame rfl rfl rfl rfl rfl
  · exact h
  · exact h.frame rfl rfl rfl rfl rfl

theorem Balanced.flushPendingEvents (h : Balanced s) (latest : Nat) :
    Balanced (s.flushPendingEvents latest) := by
  unfold State.flushPendingEvents
  split
  · exact h
  · exact h.frame rfl rfl rfl rfl rfl

theorem nodup_of_erase {α : Type} {a : α} {l₁ l₂ : List α} (h : (l₁ ++ [a] ++ l₂).Nodup) :
    (l₁ ++ l₂).Nodup := by
  refine h.sublist ?_
  rw [List.append_assoc]
  exact (List.Sublist.refl l₁).append (List.sublist_append_right [a] l₂)

/-- An item that is emitted or dropped, and counted there, leaves the queue. -/
theorem Balanced.remove (h : Balanced s) (hitem : s.item i = some (flush, item))
    (hlive : item.isSettled = false)
    (hafter : s'.live = (s.setItem flush i { item with lookup := .settled false }).live)
    (hqueued : s'.queued = s.queued) (hdestroyed : s'.destroyed = s.destroyed)
    (hcounted : ∀ key, (s'.emitted.map fun e => pendingEventKey e.pending).count key +
        (s'.dropped.map fun d => pendingEventKey d.pending).count key =
      (s.emitted.map fun e => pendingEventKey e.pending).count key +
        (s.dropped.map fun d => pendingEventKey d.pending).count key +
        [pendingEventKey item.pending].count key) : Balanced s' := by
  obtain ⟨l₁, l₂, hbefore, hremoved⟩ := live_setItem hitem hlive
    { item with lookup := .settled false }
  have hafter : s'.live = l₁ ++ [] ++ l₂ := hafter.trans hremoved
  constructor
  · have hnodup := h.nodup
    rw [hbefore] at hnodup
    rw [hafter, List.append_nil]
    simp only [List.map_append, List.map_singleton] at hnodup ⊢
    exact nodup_of_erase hnodup
  · intro hs' key
    have hcount := h.count (hdestroyed ▸ hs') key
    rw [hbefore] at hcount
    rw [hqueued, hafter, hcounted]
    simp only [List.map_append, List.map_singleton, List.map_nil, List.count_append,
      List.count_nil] at hcount ⊢
    omega

theorem Balanced.emit (h : Balanced s) (hitem : s.item i = some (flush, item))
    (hlive : item.isSettled = false) :
    Balanced ((s.emit item.pending).setItem flush i { item with lookup := .settled false }) := by
  refine h.remove hitem hlive rfl rfl rfl fun key => ?_
  simp only [State.emit, State.setItem, List.map_append, List.map_singleton, List.count_append]
  omega

theorem Balanced.drop (h : Balanced s) (hitem : s.item i = some (flush, item))
    (hlive : item.isSettled = false) :
    Balanced ((s.drop item.pending).setItem flush i { item with lookup := .settled false }) := by
  refine h.remove hitem hlive rfl rfl rfl fun key => ?_
  simp only [State.drop, State.setItem, List.map_append, List.map_singleton, List.count_append]
  omega

theorem isSettled_of_requested (h : item.lookup = .requested) : item.isSettled = false := by
  rw [Item.isSettled, h]

theorem Balanced.settle (h : Balanced s) (hstep : s.settle required i = some s') :
    Balanced s' := by
  obtain ⟨flush, item, hitem, hlive, -, hcases⟩ := settle_cases hstep
  rcases hcases with ⟨rfl, -⟩ | ⟨-, -, -, -, rfl⟩ | ⟨-, -, -, -, -, rfl⟩
  · exact h.frame (live_setItem_live hitem hlive rfl) rfl rfl rfl rfl
  · exact h.drop hitem hlive
  · exact h.emit hitem hlive

theorem balanced_step (s : State V) (op : Op V) (s' : State V) (h : Balanced s)
    (hstep : s.step required op = some s') : Balanced s' := by
  cases op with
  | tick ms =>
    obtain rfl := Option.some.inj hstep
    exact h.frame rfl rfl rfl rfl rfl
  | chain height receipts =>
    obtain rfl := Option.some.inj hstep
    exact h.frame rfl rfl rfl rfl rfl
  | handleEvent event =>
    obtain rfl := Option.some.inj hstep
    exact h.handleEvent event
  | flushPendingEvents latest =>
    obtain rfl := Option.some.inj hstep
    exact h.flushPendingEvents latest
  | acquire i => exact h.acquire hstep
  | answer i =>
    obtain ⟨flush, item, hitem, hreq, rfl⟩ := answer_cases hstep
    exact h.frame (live_setItem_live hitem (isSettled_of_requested hreq) rfl) rfl rfl rfl rfl
  | fail i =>
    obtain ⟨flush, item, hitem, hreq, rfl⟩ := fail_cases hstep
    exact h.frame (live_setItem_live hitem (isSettled_of_requested hreq) rfl) rfl rfl rfl rfl
  | settle i => exact h.settle hstep
  | release =>
    obtain ⟨flush, hflush, -, rfl⟩ := release_cases hstep
    exact h.frame (live_flush hflush).symm rfl rfl rfl rfl
  | destroy =>
    obtain rfl := Option.some.inj hstep
    refine ⟨?_, fun hdestroyed => Bool.noConfusion hdestroyed⟩
    have hnodup := h.nodup
    unfold live at hnodup ⊢
    cases hflush : s.flush with
    | none => exact List.nodup_nil
    | some flush =>
      rw [hflush] at hnodup
      exact hnodup

/-! ## A flush emits what it finds -/

/-- The event is queued, and a flush that is under way has not given it up. -/
def Awaits (required : Nat) (pending : PendingEvent V) (s : State V) : Prop :=
  match s.flush with
  | none => pending ∈ s.pendingEvents
  | some flush => ∃ item ∈ flush.items, item.pending = pending ∧
      (item.lookup = .requested ∨ ∃ receipt, item.lookup = .answered receipt ∧
        deep required receipt flush.latestBlockHeight = true)

theorem awaits_flush (hflush : s.flush = some flush) : s.Awaits required pending ↔
    ∃ item ∈ flush.items, item.pending = pending ∧
      (item.lookup = .requested ∨ ∃ receipt, item.lookup = .answered receipt ∧
        deep required receipt flush.latestBlockHeight = true) := by
  rw [Awaits, hflush]

theorem Awaits.frame (h : s.Awaits required pending) (hflush : s'.flush = s.flush)
    (hpending : s'.pendingEvents = s.pendingEvents) : s'.Awaits required pending := by
  unfold Awaits at h ⊢
  rw [hflush, hpending]
  exact h

/-- Replacing an item keeps an event waiting, or the item is the one of the event. -/
theorem Awaits.setItem (h : s.Awaits required pending) (hitem : s.item i = some (flush, item))
    (item' : Item V) : (s.setItem flush i item').Awaits required pending ∨
      item.pending = pending ∧
        (item.lookup = .requested ∨ ∃ receipt, item.lookup = .answered receipt ∧
          deep required receipt flush.latestBlockHeight = true) := by
  obtain ⟨hflush, hget⟩ := item_eq_some.mp hitem
  obtain ⟨x, hx, hwaits⟩ := (awaits_flush hflush).mp h
  rcases mem_set_or hget item' hx with rfl | hx
  · exact .inr hwaits
  · exact .inl ⟨x, hx, hwaits⟩

theorem Awaits.acquire (h : s.Awaits required pending) (hstep : s.acquire i = some s') :
    s'.Awaits required pending := by
  obtain ⟨hflush, hcases⟩ := acquire_cases hstep
  have hmem : pending ∈ s.pendingEvents := by rwa [Awaits, hflush] at h
  rcases hcases with ⟨p, rfl⟩ | ⟨latest, rfl⟩
  · unfold setPending
    split
    · exact h.frame rfl rfl
    · rw [Awaits, show _ = none from hflush]
      exact List.mem_append_left _ hmem
  · unfold State.startFlush
    split
    · exact h.frame rfl rfl
    · exact ⟨{ pending }, List.mem_map_of_mem hmem, rfl, .inl rfl⟩

theorem Awaits.answer (h : s.Awaits required pending)
    (hfinds : s.finds required pending (.answer i) = true) (hstep : s.answer i = some s') :
    s'.Awaits required pending := by
  obtain ⟨flush, item, hitem, -, rfl⟩ := answer_cases hstep
  rcases h.setItem hitem { item with lookup := .answered (s.receipts item.pending.txHash) } with
    h | ⟨rfl, -⟩
  · exact h
  obtain ⟨-, hget⟩ := item_eq_some.mp hitem
  rw [finds, hitem] at hfinds
  simp only [bne_self_eq_false, Bool.false_or] at hfinds
  exact ⟨_, mem_set_self hget _, rfl, .inr ⟨_, rfl, hfinds⟩⟩

theorem Awaits.fail (h : s.Awaits required pending)
    (hfinds : s.finds required pending (.fail i) = true) (hstep : s.fail i = some s') :
    s'.Awaits required pending := by
  obtain ⟨flush, item, hitem, -, rfl⟩ := fail_cases hstep
  rcases h.setItem hitem { item with lookup := .failed } with h | ⟨rfl, -⟩
  · exact h
  · rw [finds, hitem] at hfinds
    simp only [Option.all_some, bne_self_eq_false] at hfinds
    exact Bool.noConfusion hfinds

theorem Awaits.settle (h : s.Awaits required pending) (hstep : s.settle required i = some s') :
    s'.Awaits required pending ∨ ∃ e ∈ s'.emitted.drop s.emitted.length, e.pending = pending := by
  obtain ⟨flush, item, hitem, -, hasked, hcases⟩ := settle_cases hstep
  rcases hcases with ⟨rfl, hshallow⟩ | ⟨receipt, hanswered, hnone, -, rfl⟩ |
    ⟨receipt, b, hanswered, hb, hdeep, rfl⟩
  · rcases h.setItem hitem { item with lookup := .settled true } with h | ⟨-, hreq | hans⟩
    · exact .inl h
    · exact absurd hreq hasked
    · obtain ⟨receipt, hanswered, hdeep⟩ := hans
      rw [hshallow receipt hanswered] at hdeep
      exact Bool.noConfusion hdeep
  · have h : (s.drop item.pending).Awaits required pending := h.frame rfl rfl
    rcases h.setItem hitem { item with lookup := .settled false } with h | ⟨-, hreq | hans⟩
    · exact .inl h
    · exact absurd hreq hasked
    · obtain ⟨receipt', hanswered', hdeep⟩ := hans
      obtain rfl := Lookup.answered.inj (hanswered.symm.trans hanswered')
      rw [deep, hnone] at hdeep
      exact Bool.noConfusion hdeep
  · have h : (s.emit item.pending).Awaits required pending := h.frame rfl rfl
    rcases h.setItem hitem { item with lookup := .settled false } with h | ⟨rfl, -⟩
    · exact .inl h
    · refine .inr ⟨⟨item.pending, s.receipts item.pending.txHash, s.height⟩, ?_, rfl⟩
      rw [State.setItem, State.emit, List.drop_left]
      exact List.mem_singleton_self _

theorem Awaits.release (h : s.Awaits required pending) : s.release = none := by
  cases hrelease : s.release with
  | none => rfl
  | some s' =>
    obtain ⟨flush, hflush, hall, -⟩ := release_cases hrelease
    obtain ⟨item, hitem, -, hwaits⟩ := (awaits_flush hflush).mp h
    have hsettled := hall item hitem
    rw [Item.isSettled] at hsettled
    rcases hwaits with hreq | ⟨receipt, hanswered, -⟩
    · rw [hreq] at hsettled
      exact Bool.noConfusion hsettled
    · rw [hanswered] at hsettled
      exact Bool.noConfusion hsettled

theorem emitted_step {op : Op V} (hstep : s.step required op = some s') :
    s.emitted <+: s'.emitted := by
  have hrfl := List.prefix_refl s.emitted
  cases op with
  | tick ms => exact Option.some.inj hstep ▸ hrfl
  | chain height receipts => exact Option.some.inj hstep ▸ hrfl
  | handleEvent event =>
    obtain rfl := Option.some.inj hstep
    unfold State.handleEvent
    repeat' split
    all_goals exact hrfl
  | flushPendingEvents latest =>
    obtain rfl := Option.some.inj hstep
    unfold State.flushPendingEvents
    split
    all_goals exact hrfl
  | acquire i =>
    obtain ⟨-, ⟨pending, rfl⟩ | ⟨latest, rfl⟩⟩ := acquire_cases hstep
    · unfold setPending
      split
      all_goals exact hrfl
    · unfold State.startFlush
      split
      all_goals exact hrfl
  | answer i =>
    obtain ⟨-, -, -, -, rfl⟩ := answer_cases hstep
    exact hrfl
  | fail i =>
    obtain ⟨-, -, -, -, rfl⟩ := fail_cases hstep
    exact hrfl
  | settle i =>
    obtain ⟨_, _, -, -, -, hcases⟩ := settle_cases hstep
    rcases hcases with ⟨rfl, -⟩ | ⟨-, -, -, -, rfl⟩ | ⟨-, -, -, -, -, rfl⟩
    · exact hrfl
    · exact hrfl
    · exact List.prefix_append s.emitted _
  | release =>
    obtain ⟨-, -, -, rfl⟩ := release_cases hstep
    exact hrfl
  | destroy => exact Option.some.inj hstep ▸ hrfl

theorem awaits_step (op : Op V) (h : s.Awaits required pending)
    (hfinds : s.finds required pending op = true) (hstep : s.step required op = some s') :
    s'.flushes = s.flushes ∧ s'.Awaits required pending ∨
      ∃ e ∈ s'.emitted.drop s.emitted.length, e.pending = pending := by
  cases op with
  | tick ms =>
    obtain rfl := Option.some.inj hstep
    exact .inl ⟨rfl, h.frame rfl rfl⟩
  | chain height receipts =>
    obtain rfl := Option.some.inj hstep
    exact .inl ⟨rfl, h.frame rfl rfl⟩
  | handleEvent event =>
    obtain rfl := Option.some.inj hstep
    unfold State.handleEvent
    repeat' split
    all_goals exact .inl ⟨rfl, h.frame rfl rfl⟩
  | flushPendingEvents latest =>
    obtain rfl := Option.some.inj hstep
    unfold State.flushPendingEvents
    split
    all_goals exact .inl ⟨rfl, h.frame rfl rfl⟩
  | acquire i =>
    refine .inl ⟨?_, h.acquire hstep⟩
    obtain ⟨-, ⟨pending, rfl⟩ | ⟨latest, rfl⟩⟩ := acquire_cases hstep
    · unfold setPending
      split
      all_goals rfl
    · unfold State.startFlush
      split
      all_goals rfl
  | answer i =>
    refine .inl ⟨?_, h.answer hfinds hstep⟩
    obtain ⟨-, -, -, -, rfl⟩ := answer_cases hstep
    rfl
  | fail i =>
    refine .inl ⟨?_, h.fail hfinds hstep⟩
    obtain ⟨-, -, -, -, rfl⟩ := fail_cases hstep
    rfl
  | settle i =>
    rcases h.settle hstep with hwaits | hemitted
    · refine .inl ⟨?_, hwaits⟩
      obtain ⟨_, _, -, -, -, hcases⟩ := settle_cases hstep
      rcases hcases with ⟨rfl, -⟩ | ⟨-, -, -, -, rfl⟩ | ⟨-, -, -, -, -, rfl⟩
      all_goals rfl
    · exact .inr hemitted
  | release => exact absurd (hstep.symm.trans h.release) (Option.some_ne_none s')
  | destroy => exact Bool.noConfusion hfinds

/-- Since `s₀`, the event was emitted, or it is awaited and no flush has ended. -/
structure Watched (required : Nat) (pending : PendingEvent V) (s₀ s : State V) : Prop where
  earlier : s₀.emitted <+: s.emitted
  found : s.flushes = s₀.flushes ∧ s.Awaits required pending ∨
    ∃ e ∈ s.emitted.drop s₀.emitted.length, e.pending = pending

theorem watched_step (s₀ s : State V) (op : Op V) (s' : State V)
    (h : Watched required pending s₀ s) (hfinds : s.finds required pending op = true)
    (hstep : s.step required op = some s') : Watched required pending s₀ s' where
  earlier := h.earlier.trans (emitted_step hstep)
  found := by
    rcases h.found with ⟨hflushes, hawaits⟩ | ⟨e, he, hpending⟩
    · rcases awaits_step op hawaits hfinds hstep with ⟨hsame, hawaits⟩ | ⟨e, he, hpending⟩
      · exact .inl ⟨hsame.trans hflushes, hawaits⟩
      · exact .inr ⟨e, List.drop_subset_drop_left s'.emitted h.earlier.length_le he, hpending⟩
    · obtain ⟨l, hl⟩ := emitted_step hstep
      refine .inr ⟨e, ?_, hpending⟩
      rw [← hl, List.drop_append]
      exact List.mem_append_left _ he

theorem emitted_of_flush {s₀ : State V} {ops : List (Op V)} (hflush : s₀.flush = none)
    (hpending : pending ∈ s₀.pendingEvents)
    (hrun : runFrom (step required) (finds required pending) s₀ ops = some s)
    (hflushed : s₀.flushes < s.flushes) :
    ∃ e ∈ s.emitted.drop s₀.emitted.length, e.pending = pending := by
  have hstart : s₀.Awaits required pending := by rwa [Awaits, hflush]
  have hwatched : Watched required pending s₀ s₀ := ⟨List.prefix_refl _, .inl ⟨rfl, hstart⟩⟩
  have h := invariant_of_runFrom (watched_step s₀) hwatched hrun
  rcases h.found with ⟨hsame, -⟩ | hfound
  · omega
  · exact hfound

/-- A queued lockup is emitted only while its receipt is that of a successful transaction with its
log and enough blocks; what is queued is emitted, dropped for a receipt that was missing all the
time, or still there, once; and the flush that finds it emits it. -/
theorem queued_lockups_survive_reorgs {requiredConfirmations : Rat}
    (hconfirmations : 1 < requiredConfirmations) (time height : Nat)
    (receipts : Nat → Option (Receipt V)) {ops : List (Op V)}
    (hrun : runFrom (step (requiredConfirmationsOf requiredConfirmations))
      (admits (requiredConfirmationsOf requiredConfirmations)) (start time height receipts) ops =
        some s) :
    (∀ e ∈ s.emitted, e.confirmed (requiredConfirmationsOf requiredConfirmations) = true) ∧
    (∀ e ∈ s.forwarded, e.isLockup = false) ∧
    (∀ d ∈ s.dropped, d.timedOut = true) ∧
    Balanced s ∧
    ∀ pending ∈ s.pendingEvents, s.flush = none → ∀ ops' s',
      runFrom (step (requiredConfirmationsOf requiredConfirmations))
        (finds (requiredConfirmationsOf requiredConfirmations) pending) s ops' = some s' →
      s.flushes < s'.flushes → ∃ e ∈ s'.emitted.drop s.emitted.length, e.pending = pending := by
  have hreq := one_lt_requiredConfirmationsOf hconfirmations
  have hinv : Inv (requiredConfirmationsOf requiredConfirmations) (start time height receipts) :=
    ⟨fun flush hflush => absurd hflush (Option.some_ne_none flush).symm,
      List.forall_mem_nil _, List.forall_mem_nil _, List.forall_mem_nil _⟩
  have hbalanced : Balanced (start time height receipts) := ⟨List.nodup_nil, fun _ _ => rfl⟩
  have h := invariant_of_runFrom (inv_step hreq) hinv hrun
  have hb := invariant_of_runFrom (fun s op s' h _ => balanced_step s op s' h) hbalanced hrun
  refine ⟨h.emitted, h.forwarded, h.dropped, hb, ?_⟩
  intro pending hpending hflush ops' s' hrun' hflushed
  exact emitted_of_flush hflush hpending hrun' hflushed

end State

end Proofs

/-! ## A lockup that was mined again -/

def lockup : LockupEventEntry Nat :=
  { name := .ethLockup, version := 5, transactionHash := some 7, logIndex := 3,
    values := 100 }

def minedLockup (blockNumber status : Nat) (logs : List (Log Nat)) (txHash : Nat) :
    Option (Receipt Nat) :=
  if txHash == 7 then some { blockNumber := some blockNumber, status, logs } else none

def lockupLog : Log Nat := { name := .ethLockup, version := 5, index := 3, values := 100 }

/-- The lockup of block 10 is queued, the chain gets higher, and a flush handles the event. -/
def flushedAfter (height : Nat) (receipts : Nat → Option (Receipt Nat)) : List (Op Nat) :=
  [.handleEvent (.lockup lockup), .acquire 0, .chain height receipts,
    .flushPendingEvents height, .acquire 0, .answer 0, .settle 0, .release]

def lockedAt10 : State Nat := State.start 0 10 (minedLockup 10 1 [lockupLog])

theorem queued_lockup_emitted : ∃ s,
    runFrom (State.step (requiredConfirmationsOf 2)) (State.admits (requiredConfirmationsOf 2))
      lockedAt10 (flushedAfter 11 (minedLockup 10 1 [lockupLog])) = some s ∧
    s.emitted.length = 1 ∧
    s.emitted.all (fun e => e.confirmed (requiredConfirmationsOf 2)) = true := by
  obtain ⟨s, hrun, hlength⟩ : ∃ s,
      runFrom (State.step (requiredConfirmationsOf 2)) (State.admits (requiredConfirmationsOf 2))
        lockedAt10 (flushedAfter 11 (minedLockup 10 1 [lockupLog])) = some s ∧
      s.emitted.length = 1 := ⟨_, rfl, rfl⟩
  have hconfirmations : (1 : Rat) < 2 := by decide +kernel
  have h := State.queued_lockups_survive_reorgs hconfirmations 0 10 (minedLockup 10 1 [lockupLog])
    hrun
  exact ⟨s, hrun, hlength, List.all_eq_true.mpr h.1⟩

/-- It was mined again in block 11, where it reverted, and is emitted all the same. -/
theorem reverted_lockup_emitted : ∃ s,
    runFrom (State.step (requiredConfirmationsOf 2)) (fun _ _ => true) lockedAt10
      (flushedAfter 12 (minedLockup 11 0 [])) = some s ∧
    s.emitted.map (fun e => (e.pending.event, e.receipt)) =
      [(lockup, some { blockNumber := some 11, status := 0, logs := [] })] ∧
    s.emitted.any (fun e => e.confirmed (requiredConfirmationsOf 2)) = false :=
  ⟨_, rfl, rfl, rfl⟩

end Boltz.ConsolidatedEventHandler

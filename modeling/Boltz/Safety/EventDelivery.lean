import Boltz.Ethereum.InjectedListener
import Mathlib.Algebra.BigOperators.Group.List.Lemmas
import Mathlib.Data.List.Perm.Subperm
import Mathlib.Data.Int.ModEq
import Mathlib.Tactic.Push
import Mathlib.Tactic.Ring

/-!
# Delivery of contract events

Deliveries are counted by hash. Among the events of one hash, the listener is called for every
`providersCount`-th delivery, beginning with the first: events whose hashes collide are told apart
only by the order in which they arrive.
-/

namespace Boltz.InjectedProvider

/-! ## Turns -/

section Turns

variable {E : Type} {n : ℕ}

/-- Every `n`-th element, when `k` have passed since the last one. -/
def turns (n : ℕ) : ℕ → List E → List E
  | _, [] => []
  | k, event :: rest =>
    if k = 0 then event :: turns n ((k + 1) % n) rest else turns n ((k + 1) % n) rest

theorem turns_sublist (n : ℕ) : ∀ (k : ℕ) (events : List E), (turns n k events).Sublist events
  | _, [] => List.Sublist.refl _
  | k, event :: rest => by
    rw [turns]
    split
    · exact (turns_sublist n _ rest).cons_cons event
    · exact (turns_sublist n _ rest).cons event

theorem turns_one (events : List E) : turns 1 0 events = events := by
  induction events with
  | nil => rfl
  | cons event rest ih => rw [turns, if_pos rfl, Nat.mod_one, ih]

/-- With `i` more to pass, the first `i` are left out. -/
theorem turns_skip {i : ℕ} (hi : i < n) (events : List E) :
    turns n ((n - i) % n) events = turns n 0 (events.drop i) := by
  induction i generalizing events with
  | zero => rw [Nat.sub_zero, Nat.mod_self, List.drop_zero]
  | succ i ih =>
    cases events with
    | nil => rfl
    | cons event rest =>
      have hmod : (n - (i + 1)) % n = n - (i + 1) := Nat.mod_eq_of_lt (by omega)
      have hne : n - (i + 1) ≠ 0 := by omega
      have hnext : n - (i + 1) + 1 = n - i := by omega
      rw [hmod, turns, if_neg hne, hnext, List.drop_succ_cons]
      exact ih (by omega) rest

theorem turns_cons (hn : 0 < n) (event : E) (rest : List E) :
    turns n 0 (event :: rest) = event :: turns n 0 (rest.drop (n - 1)) := by
  have hskip := turns_skip (n := n) (i := n - 1) (by omega) rest
  have hone : n - (n - 1) = 1 := by omega
  rw [hone] at hskip
  rw [turns, if_pos rfl, Nat.zero_add, hskip]

theorem length_turns (hn : 0 < n) {k : ℕ} :
    ∀ {events : List E}, events.length = n * k → (turns n 0 events).length = k := by
  induction k with
  | zero =>
    intro events hlength
    rw [List.length_eq_zero_iff.mp hlength]
    rfl
  | succ k ih =>
    intro events hlength
    rw [Nat.mul_succ] at hlength
    cases events with
    | nil =>
      rw [List.length_nil] at hlength
      omega
    | cons event rest =>
      rw [List.length_cons] at hlength
      have hdrop : (rest.drop (n - 1)).length = n * k := by
        rw [List.length_drop]
        omega
      rw [turns_cons hn, List.length_cons, ih hdrop]

variable [DecidableEq E]

theorem length_of_count {events : List E} (h : ∀ event ∈ events, events.count event = n) :
    events.length = n * events.dedup.length := by
  have hcounts : events.dedup.map (fun event => events.count event) =
      events.dedup.map fun _ => n :=
    List.map_congr_left fun event hevent => h event (List.mem_dedup.mp hevent)
  rw [← List.sum_map_count_dedup_eq_length events, hcounts, List.map_const', List.sum_replicate_nat,
    Nat.mul_comm]

/-- Each event has one turn exactly when no event has two. -/
theorem turns_count_iff (hn : 0 < n) {events : List E}
    (h : ∀ event ∈ events, events.count event = n) :
    (∀ event ∈ events, (turns n 0 events).count event = 1) ↔ (turns n 0 events).Nodup := by
  have hsub : turns n 0 events ⊆ events := (turns_sublist n 0 events).subset
  constructor
  · intro hcount
    refine List.nodup_iff_count_le_one.mpr fun event => ?_
    by_cases hmem : event ∈ turns n 0 events
    · exact (hcount event (hsub hmem)).le
    · exact (List.count_eq_zero_of_not_mem hmem).trans_le (Nat.zero_le 1)
  · intro hnodup event hevent
    have hperm : (turns n 0 events).Perm events.dedup := by
      refine (List.subperm_of_subset hnodup fun e he =>
        List.mem_dedup.mpr (hsub he)).perm_of_length_le ?_
      rw [length_turns hn (length_of_count h)]
    rw [hperm.count_eq]
    exact List.count_eq_one_of_mem (List.nodup_dedup events) (List.mem_dedup.mpr hevent)

end Turns

/-! ## Deliveries -/

section Deliveries

variable {Event : Type} [DecidableEq Event] {stringified : Event → List JsString} {providersCount : ℕ}
  {providerDeltas : Deltas} {event : Event} {seen rest : List Event}

/-- The deliveries of the events with a hash. -/
def ofHash (stringified : Event → List JsString) (hash : ℤ) (events : List Event) :
    List Event :=
  events.filter fun event => argsHash stringified event = hash

/-- The distinct events that some but not all providers have delivered. -/
def outstanding (providersCount : ℕ) (seen : List Event) : List Event :=
  seen.dedup.filter fun event => seen.count event < providersCount

omit [DecidableEq Event] in
theorem length_ofHash_append (hash : ℤ) :
    (ofHash stringified hash (seen ++ [event])).length =
      (ofHash stringified hash seen).length +
        if argsHash stringified event = hash then 1 else 0 := by
  unfold ofHash
  by_cases h : argsHash stringified event = hash <;> simp [h]

omit [DecidableEq Event] in
theorem ofHash_cons (hash : ℤ) :
    ofHash stringified hash (event :: rest) =
      if argsHash stringified event = hash then event :: ofHash stringified hash rest
      else ofHash stringified hash rest := by
  unfold ofHash
  by_cases h : argsHash stringified event = hash <;> simp [h]

theorem count_ofHash {hash : ℤ} (h : argsHash stringified event = hash) :
    (ofHash stringified hash seen).count event = seen.count event :=
  List.count_filter (by simpa using h)

/-- A hash that is not between two turns has an event that is outstanding. -/
theorem exists_outstanding {hash : ℤ} (hcount : ∀ event ∈ seen, seen.count event ≤ providersCount)
    (h : (ofHash stringified hash seen).length % providersCount ≠ 0) :
    ∃ event ∈ outstanding providersCount seen, argsHash stringified event = hash := by
  by_contra hnone
  push Not at hnone
  refine h ?_
  have hfull : ∀ event ∈ ofHash stringified hash seen,
      (ofHash stringified hash seen).count event = providersCount := by
    intro event hevent
    obtain ⟨hmem, hhash⟩ := List.mem_filter.mp hevent
    rw [count_ofHash (by simpa using hhash)]
    refine Nat.le_antisymm (hcount event hmem) ?_
    by_contra hlt
    refine hnone event ?_ (by simpa using hhash)
    exact List.mem_filter.mpr ⟨List.mem_dedup.mpr hmem, by simpa using hlt⟩
  rw [length_of_count hfull]
  exact Nat.mul_mod_right _ _

/-- The counts are those of the deliveries, except for the ones that all providers have made. -/
def Tracks (stringified : Event → List JsString) (providersCount : ℕ) (providerDeltas : Deltas)
    (seen : List Event) : Prop :=
  ∀ hash, providerDeltas.lookup hash =
    let delta := (ofHash stringified hash seen).length % providersCount
    if delta = 0 then none else some delta

omit [DecidableEq Event] in
theorem Tracks.empty : Tracks stringified providersCount ∅ ([] : List Event) := by
  intro hash
  simp [ofHash]

omit [DecidableEq Event] in
theorem Tracks.currentDelta (h : Tracks stringified providersCount providerDeltas seen)
    (hash : ℤ) : (providerDeltas.lookup hash).getD 0 =
      (ofHash stringified hash seen).length % providersCount := by
  rw [h hash]
  simp only
  split
  · rename_i hzero
    rw [hzero, Option.getD_none]
  · rfl

theorem succ_mod (length n : ℕ) (hn : 1 < n) :
    (length + 1) % n = if length % n = n - 1 then 0 else length % n + 1 := by
  have hlt := Nat.mod_lt length (show n > 0 by omega)
  rw [Nat.add_mod, Nat.mod_eq_of_lt hn]
  split
  · rename_i hlast
    rw [hlast, Nat.sub_add_cancel (by omega), Nat.mod_self]
  · exact Nat.mod_eq_of_lt (by omega)

omit [DecidableEq Event] in
/-- The counts before the size of the map is looked at. -/
theorem Tracks.updated (hn : 1 < providersCount)
    (h : Tracks stringified providersCount providerDeltas seen) (event : Event) :
    let hash := argsHash stringified event
    let currentDelta := (providerDeltas.lookup hash).getD 0
    Tracks stringified providersCount
      (if currentDelta = providersCount - 1 then providerDeltas.erase hash
        else providerDeltas.insert hash (currentDelta + 1)) (seen ++ [event]) := by
  intro hash currentDelta other
  have hcurrent : currentDelta = (ofHash stringified hash seen).length % providersCount :=
    h.currentDelta hash
  by_cases hother : other = hash
  · subst hother
    rw [length_ofHash_append, if_pos rfl, succ_mod _ _ hn, ← hcurrent]
    split
    · rw [AList.lookup_erase]
      rfl
    · rw [AList.lookup_insert]
      rfl
  · have hsame : argsHash stringified event ≠ other := fun heq => hother heq.symm
    rw [length_ofHash_append, if_neg hsame, Nat.add_zero]
    refine Eq.trans ?_ (h other)
    split
    · exact AList.lookup_erase_ne hother
    · exact AList.lookup_insert_ne hother

/-- There are no more counts than outstanding events. -/
theorem Tracks.length_le (h : Tracks stringified providersCount providerDeltas seen)
    (hcount : ∀ event ∈ seen, seen.count event ≤ providersCount) :
    providerDeltas.keys.length ≤ (outstanding providersCount seen).length := by
  have hsub : providerDeltas.keys ⊆
      (outstanding providersCount seen).map (argsHash stringified) := by
    intro hash hmem
    have hsome : (providerDeltas.lookup hash).isSome :=
      AList.lookup_isSome.mpr (AList.mem_keys.mpr hmem)
    rw [h hash] at hsome
    have hdelta : (ofHash stringified hash seen).length % providersCount ≠ 0 := by
      intro hzero
      simp [hzero] at hsome
    obtain ⟨event, hevent, rfl⟩ := exists_outstanding hcount hdelta
    exact List.mem_map_of_mem hevent
  have hle := (List.subperm_of_subset (AList.keys_nodup providerDeltas) hsub).length_le
  rwa [List.length_map] at hle

/-- One delivery: the counts follow it, and the listener is called when it is its turn. -/
theorem receive_spec (hn : 1 < providersCount)
    (h : Tracks stringified providersCount providerDeltas seen)
    (hcount : ∀ other ∈ seen ++ [event], (seen ++ [event]).count other ≤ providersCount)
    (hfew : (outstanding providersCount (seen ++ [event])).length ≤ maxDeltas) :
    Tracks stringified providersCount
        (receive stringified providersCount providerDeltas event).1 (seen ++ [event]) ∧
      (receive stringified providersCount providerDeltas event).2 =
        decide ((ofHash stringified (argsHash stringified event) seen).length %
          providersCount = 0) := by
  have hupdated := h.updated hn event
  have hlength := (hupdated.length_le hcount).trans hfew
  unfold receive
  rw [if_neg (by omega)]
  simp only
  rw [if_neg (not_lt.mpr hlength)]
  exact ⟨hupdated, by rw [h.currentDelta]⟩

/-- Among the events of a hash, the listener hears every `providersCount`-th delivery. -/
theorem heard_ofHash (hn : 1 < providersCount) (hash : ℤ) :
    ∀ (rest seen : List Event) (providerDeltas : Deltas),
      Tracks stringified providersCount providerDeltas seen →
      (∀ event ∈ seen ++ rest, (seen ++ rest).count event ≤ providersCount) →
      (∀ before, before <+: seen ++ rest →
        (outstanding providersCount before).length ≤ maxDeltas) →
      ofHash stringified hash (heard stringified providersCount providerDeltas rest) =
        turns providersCount ((ofHash stringified hash seen).length % providersCount)
          (ofHash stringified hash rest)
  | [], _, _, _, _, _ => rfl
  | event :: rest, seen, providerDeltas, h, hcount, hfew => by
    have happend : seen ++ event :: rest = seen ++ [event] ++ rest := by simp
    have hbefore : seen ++ [event] <+: seen ++ event :: rest := happend ▸ List.prefix_append _ _
    have hseen : ∀ other ∈ seen ++ [event], (seen ++ [event]).count other ≤ providersCount :=
      fun other hother =>
        (hbefore.sublist.count_le other).trans (hcount other (hbefore.subset hother))
    obtain ⟨hnext, hcalled⟩ := receive_spec hn h hseen (hfew _ hbefore)
    have ih := heard_ofHash hn hash rest (seen ++ [event]) _ hnext (happend ▸ hcount)
      (happend ▸ hfew)
    have hmod : (ofHash stringified hash (seen ++ [event])).length % providersCount =
        ((ofHash stringified hash seen).length % providersCount +
          if argsHash stringified event = hash then 1 else 0) % providersCount := by
      rw [length_ofHash_append, Nat.mod_add_mod]
    rw [hmod] at ih
    simp only [heard, hcalled, decide_eq_true_eq]
    by_cases hhash : argsHash stringified event = hash
    · subst hhash
      rw [if_pos rfl] at ih
      rw [ofHash_cons, if_pos rfl, turns, ← ih]
      split
      · rw [ofHash_cons, if_pos rfl]
      · rfl
    · rw [if_neg hhash, Nat.add_zero, Nat.mod_mod] at ih
      rw [ofHash_cons, if_neg hhash, ← ih]
      split
      · rw [ofHash_cons, if_neg hhash]
      · rfl

end Deliveries

/-! ## Exactly once -/

section ExactlyOnce

variable {Event : Type} [DecidableEq Event] (stringified : Event → List JsString) (providersCount : ℕ)

omit [DecidableEq Event] in
theorem heard_one (providerDeltas : Deltas) (events : List Event) :
    heard stringified 1 providerDeltas events = events := by
  induction events with
  | nil => rfl
  | cons event rest ih => simp [heard, receive, ih]

/-- What the listener hears of a hash when all deliveries are made. -/
theorem heard_eq_turns (hmany : 1 < providersCount) {events : List Event}
    (hdelivered : ∀ event ∈ events, events.count event = providersCount)
    (hfew : ∀ before, before <+: events → (outstanding providersCount before).length < 10000)
    (hash : ℤ) :
    ofHash stringified hash (heard stringified providersCount ∅ events) =
      turns providersCount 0 (ofHash stringified hash events) := by
  have hempty : Tracks stringified providersCount ∅ [] := Tracks.empty
  have h := heard_ofHash hmany hash events [] ∅ hempty
    (fun event hevent => (hdelivered event hevent).le) fun before hbefore =>
      (hfew before hbefore).le
  simpa [ofHash] using h

/-- The listener is called exactly once for each event if and only if, in the deliveries of each
hash, no event is the first of two groups of `providersCount`. -/
theorem heard_once_iff (hn : 0 < providersCount) (events : List Event)
    (hdelivered : ∀ event ∈ events, events.count event = providersCount)
    (hfew : ∀ before, before <+: events → (outstanding providersCount before).length < 10000) :
    (∀ event ∈ events, (heard stringified providersCount ∅ events).count event = 1) ↔
      ∀ hash, (turns providersCount 0 (ofHash stringified hash events)).Nodup := by
  obtain hone | hmany := Nat.eq_or_lt_of_le hn
  · obtain rfl : providersCount = 1 := hone.symm
    have hnodup : events.Nodup := List.nodup_iff_count_le_one.mpr fun event => by
      by_cases hmem : event ∈ events
      · exact (hdelivered event hmem).le
      · exact (List.count_eq_zero_of_not_mem hmem).trans_le (Nat.zero_le 1)
    refine iff_of_true ?_ ?_
    · rw [heard_one]
      exact hdelivered
    · intro hash
      rw [turns_one]
      exact hnodup.filter _
  · have hturns := heard_eq_turns stringified providersCount hmany hdelivered hfew
    have hfull : ∀ hash, ∀ event ∈ ofHash stringified hash events,
        (ofHash stringified hash events).count event = providersCount := by
      intro hash event hevent
      obtain ⟨hmem, hhash⟩ := List.mem_filter.mp hevent
      exact (count_ofHash (by simpa using hhash)).trans (hdelivered event hmem)
    constructor
    · intro honce hash
      refine (turns_count_iff hn (hfull hash)).mp fun event hevent => ?_
      obtain ⟨hmem, hhash⟩ := List.mem_filter.mp hevent
      rw [← hturns, ← honce event hmem]
      exact count_ofHash (by simpa using hhash)
    · intro hnodup event hevent
      rw [← count_ofHash rfl, hturns]
      refine (turns_count_iff hn (hfull _)).mpr (hnodup _) event ?_
      exact List.mem_filter.mpr ⟨hevent, by simp⟩

end ExactlyOnce

/-! ## Colliding logs -/

/-- The code units as the digits of a number to the base 31. -/
def hashValue (value : JsString) : ℤ := value.foldl (fun hash char => 31 * hash + char.toNat) 0

theorem toInt32_emod (x : ℤ) : toInt32 x % 2 ^ 32 = x % 2 ^ 32 := Int.bmod_emod

theorem toInt32_congr {x y : ℤ} (h : x % 2 ^ 32 = y % 2 ^ 32) : toInt32 x = toInt32 y := by
  have hx : toInt32 x = toInt32 (x % 2 ^ 32) := (Int.emod_bmod x (2 ^ 32)).symm
  have hy : toInt32 y = toInt32 (y % 2 ^ 32) := (Int.emod_bmod y (2 ^ 32)).symm
  rw [hx, hy, h]

/-- One round of the loop, on the value before it was cut to 32 bits. -/
theorem toInt32_round (hash : ℤ) (char : ℕ) :
    toInt32 (toInt32 (toInt32 hash * 2 ^ 5) - toInt32 hash + char) =
      toInt32 (31 * hash + char) := by
  have hcut := toInt32_emod hash
  have hshift := toInt32_emod (toInt32 hash * 2 ^ 5)
  refine toInt32_congr ?_
  generalize toInt32 (toInt32 hash * 2 ^ 5) = shifted at hshift ⊢
  generalize toInt32 hash = cut at hcut hshift ⊢
  omega

theorem hashCode_eq (value : JsString) : hashCode value = toInt32 (hashValue value) := by
  have hfold : ∀ (value : JsString) (hash : ℤ),
      value.foldl (fun hash char => toInt32 (toInt32 (hash * 2 ^ 5) - hash + char.toNat))
          (toInt32 hash) =
        toInt32 (value.foldl (fun hash char => 31 * hash + char.toNat) hash) := by
    intro value
    induction value with
    | nil => exact fun _ => rfl
    | cons char rest ih =>
      intro hash
      rw [List.foldl_cons, List.foldl_cons, toInt32_round, ih]
  exact hfold value 0

theorem hashValue_append (value suffix : JsString) :
    hashValue (value ++ suffix) = hashValue value * 31 ^ suffix.length + hashValue suffix := by
  have hfold : ∀ (suffix : JsString) (hash : ℤ),
      suffix.foldl (fun hash char => 31 * hash + (char.toNat : ℤ)) hash =
        hash * 31 ^ suffix.length + hashValue suffix := by
    intro suffix
    induction suffix with
    | nil => intro hash; simp [hashValue]
    | cons char rest ih =>
      intro hash
      rw [hashValue, List.foldl_cons, List.foldl_cons, ih, ih, List.length_cons]
      ring
  rw [hashValue, List.foldl_append, hfold]
  rfl

/-- A collision stays one between the same texts. -/
theorem hashValue_congr {first second : JsString} (hlength : first.length = second.length)
    (h : hashValue first ≡ hashValue second [ZMOD 2 ^ 32]) (before after : JsString) :
    hashValue (before ++ first ++ after) ≡ hashValue (before ++ second ++ after) [ZMOD 2 ^ 32] := by
  simp only [hashValue_append, hlength]
  exact ((h.add_left _).mul_right _).add_right _

/-- The code units of a text without characters above U+FFFF. -/
def codeUnits (text : String) : JsString := text.toList.map fun char => UInt16.ofNat char.toNat

/-- The digits of a number to the base 16, in lower case. -/
def hexText : ℕ → ℕ → JsString
  | 0, _ => []
  | length + 1, value =>
    let digit := value % 16
    hexText length (value / 16) ++ [UInt16.ofNat (if digit < 10 then 48 + digit else 87 + digit)]

/-- A log as JSON, by the hash of its transaction. -/
def logArgs (transactionHash : ℕ) : List JsString :=
  [codeUnits ("\x7b\"_type\":\"log\",\"address\":\"0x5fbdb2315678afecb367f032d93f642f64180aa3\"," ++
      "\"blockHash\":\"0x5a2b7c0d9e1f3a4b5c6d7e8f9a0b1c2d3e4f5a6b7c8d9e0f1a2b3c4d5e6f7a8b\"," ++
      "\"blockNumber\":21000000,\"data\":\"0x\",\"index\":0,\"removed\":false,\"topics\":[]," ++
      "\"transactionHash\":\"0x") ++
    hexText 64 transactionHash ++ codeUnits "\",\"transactionIndex\":0\x7d"]

def firstLog : ℕ := 0xac5f8d40ad32f2c75f7e200182196e2f81e2560cb0f6ffe6ff03da1865e6f45d

def secondLog : ℕ := 0x25cf71113dba4b2587a4b4aa17a7185d925f8accc46eac71915da6b929e0367f

theorem logs_collide : argsHash logArgs firstLog = argsHash logArgs secondLog := by
  have hcollide : hashValue (hexText 64 firstLog) ≡ hashValue (hexText 64 secondLog)
      [ZMOD 2 ^ 32] := by
    decide +kernel
  rw [argsHash, argsHash, hashCode_eq, hashCode_eq]
  refine toInt32_congr ?_
  simpa [join, logArgs, Int.ModEq] using hashValue_congr (by decide +kernel) hcollide _ _

theorem length_outstanding_le {Event : Type} [DecidableEq Event] (providersCount : ℕ)
    (seen : List Event) : (outstanding providersCount seen).length ≤ seen.length :=
  (List.length_filter_le _ _).trans (List.dedup_sublist seen).length_le

/-- One log, delivered by two providers. -/
theorem firstLog_heard_once : 0 < 2 ∧
    ∀ event ∈ [firstLog, firstLog], (heard logArgs 2 ∅ [firstLog, firstLog]).count event = 1 := by
  refine ⟨by decide, (heard_once_iff logArgs 2 (by decide) [firstLog, firstLog] ?_ ?_).mpr ?_⟩
  · simp
  · intro before hbefore
    have h := (length_outstanding_le 2 before).trans hbefore.length_le
    exact lt_of_le_of_lt h (by decide)
  · intro hash
    by_cases h : argsHash logArgs firstLog = hash
    · simp [ofHash, h, turns]
    · simp [ofHash, h, turns]

/-- Two providers deliver both logs in the same order: the listener gets the first one twice and
never the second. -/
theorem secondLog_lost :
    ¬∀ events : List ℕ, (∀ event ∈ events, events.count event = 2) →
      (∀ before, before <+: events → (outstanding 2 before).length < 10000) →
        ∀ event ∈ events, (heard logArgs 2 ∅ events).count event = 1 := by
  intro h
  set events := [firstLog, secondLog, firstLog, secondLog] with hevents
  have hdelivered : ∀ event ∈ events, events.count event = 2 := by decide
  have hfew : ∀ before, before <+: events → (outstanding 2 before).length < 10000 :=
    fun before hbefore =>
      lt_of_le_of_lt ((length_outstanding_le 2 before).trans hbefore.length_le) (by decide)
  have honce := h events hdelivered hfew secondLog (by simp [hevents])
  have hturns := heard_eq_turns logArgs 2 (by decide) hdelivered hfew (argsHash logArgs secondLog)
  have hall : ofHash logArgs (argsHash logArgs secondLog) events = events := by
    simp [hevents, ofHash, logs_collide]
  have hsame : argsHash logArgs secondLog = argsHash logArgs secondLog := rfl
  rw [← count_ofHash hsame, hturns, hall] at honce
  exact absurd honce (by decide)

end Boltz.InjectedProvider

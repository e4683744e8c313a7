import Mathlib.Data.List.Destutter
import Mathlib.Data.List.Sort

/-!
# Subscriptions to swap updates (`boltzr/src/api/ws/status_subscriptions.rs`)

Two maps say who is subscribed to what: `swaps` by the id of the swap, `subscriptions` by the
connection. Updates find their connections in the first map and are filtered with the second.
-/

namespace Boltz

abbrev ConnectionId := Nat

/-- An update of a swap; `B` are the fields besides the id. -/
structure SwapStatus (B : Type) where
  id : String
  base : B
  deriving DecidableEq, Repr

/-- The ids a connection subscribed to and its channel, which is named by a number. -/
structure Subscriptions where
  ids : List String
  sender : Nat
  deriving DecidableEq, Repr

structure StatusSubscriptions where
  swaps : String → Option (List ConnectionId) := fun _ => none
  subscriptions : ConnectionId → Option Subscriptions := fun _ => none
  nextChannel : Nat := 0

/-- `if !xs.contains(&x) { xs.push(x) }`. -/
def pushNew {α : Type} [DecidableEq α] (x : α) (xs : List α) : List α :=
  if x ∈ xs then xs else xs ++ [x]

theorem mem_pushNew {α : Type} [DecidableEq α] {x y : α} {xs : List α} :
    y ∈ pushNew x xs ↔ y = x ∨ y ∈ xs := by
  unfold pushNew
  split
  · rename_i hx
    constructor
    · exact Or.inr
    · rintro (rfl | hy)
      · exact hx
      · exact hy
  · simp [or_comm]

theorem nodup_pushNew {α : Type} [DecidableEq α] {x : α} {xs : List α} (h : xs.Nodup) :
    (pushNew x xs).Nodup := by
  unfold pushNew
  split
  · exact h
  · rename_i hx
    exact List.nodup_append.mpr ⟨h, by simp, by rintro a ha b hb rfl; simp_all⟩

namespace StatusSubscriptions

variable {B : Type}

def connectionKnown (s : StatusSubscriptions) (connection : ConnectionId) : Bool :=
  (s.subscriptions connection).isSome

def connectionAdded (s : StatusSubscriptions) (connection : ConnectionId) :
    StatusSubscriptions :=
  { s with
    subscriptions := Function.update s.subscriptions connection (some ⟨[], s.nextChannel⟩)
    nextChannel := s.nextChannel + 1 }

/-- One round of the loop in `subscription_added`. -/
def addSwap (connection : ConnectionId) (sub : Subscriptions) (s : StatusSubscriptions)
    (swapId : String) : Subscriptions × StatusSubscriptions :=
  ({ sub with ids := pushNew swapId sub.ids },
    { s with
      swaps := Function.update s.swaps swapId
        (some ((s.swaps swapId).elim [connection] (pushNew connection))) })

/-- The loop holds the entry of the connection and stores it at the end. -/
def addSwaps (connection : ConnectionId) :
    List String → Subscriptions → StatusSubscriptions → StatusSubscriptions
  | [], sub, s => { s with subscriptions := Function.update s.subscriptions connection (some sub) }
  | swapId :: swapIds, sub, s =>
    let (sub, s) := addSwap connection sub s swapId
    addSwaps connection swapIds sub s

def subscriptionAdded (s : StatusSubscriptions) (connection : ConnectionId)
    (swapIds : List String) : StatusSubscriptions :=
  match s.subscriptions connection with
  | some sub => addSwaps connection swapIds sub s
  | none => s

/-- `swaps.retain(|_, connections| !connections.is_empty())`. -/
def retainNonEmpty (swaps : String → Option (List ConnectionId)) :
    String → Option (List ConnectionId) :=
  fun id => (swaps id).filter fun connections => !connections.isEmpty

/-- The connection leaves the lists of the swaps. -/
def leave (connection : ConnectionId) (swapIds : List String)
    (swaps : String → Option (List ConnectionId)) : String → Option (List ConnectionId) :=
  fun id => if id ∈ swapIds then (swaps id).map (·.filter (· ≠ connection)) else swaps id

/-- Returns the ids that are left. -/
def subscriptionRemoved (s : StatusSubscriptions) (connection : ConnectionId)
    (swapIds : List String) : StatusSubscriptions × List String :=
  match s.subscriptions connection with
  | some sub =>
    let sub := { sub with ids := sub.ids.filter (· ∉ swapIds) }
    ({ s with
        subscriptions := Function.update s.subscriptions connection (some sub)
        swaps := retainNonEmpty (leave connection swapIds s.swaps) },
      sub.ids)
  | none => (s, [])

def connectionDropped (s : StatusSubscriptions) (connection : ConnectionId) :
    StatusSubscriptions :=
  { s with
    subscriptions := Function.update s.subscriptions connection none
    swaps := retainNonEmpty fun id => (s.swaps id).map (·.filter (· ≠ connection)) }

def filterSwaps (ids : List String) (updates : List (SwapStatus B)) : List (SwapStatus B) :=
  updates.filter fun update => update.id ∈ ids

/-- The connections that are listed under an id of the batch, sorted and without repetitions. -/
def relevantIds (s : StatusSubscriptions) (updates : List (SwapStatus B)) : List ConnectionId :=
  ((updates.flatMap fun update => (s.swaps update.id).getD []).mergeSort).destutter (· ≠ ·)

/-- What is sent to a connection: the channel and the updates. -/
def sendTo (s : StatusSubscriptions) (updates : List (SwapStatus B)) (connection : ConnectionId) :
    Option (ConnectionId × Nat × List (SwapStatus B)) :=
  (s.subscriptions connection).map fun sub =>
    (connection, sub.sender, filterSwaps sub.ids updates)

/-- One batch of `forward_updates`; `connection` is the one that asked for the updates. -/
def forwardUpdates (s : StatusSubscriptions) (connection : Option ConnectionId)
    (updates : List (SwapStatus B)) : List (ConnectionId × Nat × List (SwapStatus B)) :=
  match connection with
  | some connection => (s.sendTo updates connection).toList
  | none => (s.relevantIds updates).filterMap (s.sendTo updates)

/-! ## Calls -/

inductive Call where
  | connectionAdded (connection : ConnectionId)
  | subscriptionAdded (connection : ConnectionId) (swapIds : List String)
  | subscriptionRemoved (connection : ConnectionId) (swapIds : List String)
  | connectionDropped (connection : ConnectionId)

def call (s : StatusSubscriptions) : Call → StatusSubscriptions
  | .connectionAdded connection => s.connectionAdded connection
  | .subscriptionAdded connection swapIds => s.subscriptionAdded connection swapIds
  | .subscriptionRemoved connection swapIds => (s.subscriptionRemoved connection swapIds).1
  | .connectionDropped connection => s.connectionDropped connection

/-- A connection is added only while it has no subscriptions. -/
def Admits (s : StatusSubscriptions) : Call → Prop
  | .connectionAdded connection => ∀ sub, s.subscriptions connection = some sub → sub.ids = []
  | _ => True

/-- The states that calls lead to, each of them admitted. -/
inductive Reaches : StatusSubscriptions → Prop
  | new : Reaches {}
  | call {s : StatusSubscriptions} (c : Call) : Reaches s → s.Admits c → Reaches (s.call c)

/-- The ids that `get_connection_id` returns may be added. -/
theorem admits_of_unknown {s : StatusSubscriptions} {connection : ConnectionId}
    (h : s.connectionKnown connection = false) : s.Admits (.connectionAdded connection) := by
  intro sub hsub
  simp [connectionKnown, hsub] at h

/-! ## The index -/

def Listed (s : StatusSubscriptions) (connection : ConnectionId) (id : String) : Prop :=
  ∃ connections, s.swaps id = some connections ∧ connection ∈ connections

def Subscribed (s : StatusSubscriptions) (connection : ConnectionId) (id : String) : Prop :=
  ∃ sub, s.subscriptions connection = some sub ∧ id ∈ sub.ids

/-- The two maps say the same, without repetitions and empty entries. -/
structure Indexed (s : StatusSubscriptions) : Prop where
  listed_iff : ∀ connection id, s.Listed connection id ↔ s.Subscribed connection id
  nodup_ids : ∀ connection sub, s.subscriptions connection = some sub → sub.ids.Nodup
  nodup_connections : ∀ id connections, s.swaps id = some connections → connections.Nodup
  nonempty : ∀ id connections, s.swaps id = some connections → connections ≠ []

theorem indexed_new : ({} : StatusSubscriptions).Indexed where
  listed_iff connection id := by simp [Listed, Subscribed]
  nodup_ids _ _ h := by cases h
  nodup_connections _ _ h := by cases h
  nonempty _ _ h := by cases h

theorem subscribed_update {s : StatusSubscriptions} {connection c : ConnectionId} {id : String}
    {sub : Subscriptions} {swaps : String → Option (List ConnectionId)} {n : Nat} :
    Subscribed ⟨swaps, Function.update s.subscriptions connection (some sub), n⟩ c id ↔
      if c = connection then id ∈ sub.ids else s.Subscribed c id := by
  unfold Subscribed
  by_cases hc : c = connection
  · subst hc
    simp
  · simp [hc]

theorem indexed_connectionAdded {s : StatusSubscriptions} {connection : ConnectionId}
    (h : s.Indexed) (ha : s.Admits (.connectionAdded connection)) :
    (s.connectionAdded connection).Indexed where
  listed_iff c id := by
    refine Iff.trans (h.listed_iff c id) ?_
    rw [connectionAdded, subscribed_update]
    split
    · rename_i hc
      subst hc
      constructor
      · rintro ⟨sub, hsub, hid⟩
        rw [ha sub hsub] at hid
        cases hid
      · intro hid
        cases hid
    · rfl
  nodup_ids c sub hsub := by
    by_cases hc : c = connection
    · subst hc
      simp only [connectionAdded, Function.update_self, Option.some.injEq] at hsub
      subst hsub
      exact List.nodup_nil
    · simp only [connectionAdded, Function.update_of_ne hc] at hsub
      exact h.nodup_ids c sub hsub
  nodup_connections := h.nodup_connections
  nonempty := h.nonempty

/-! ### Subscribing -/

/-- The index while the entry of the connection is held: it has the ids of `sub`. -/
structure Holding (connection : ConnectionId) (sub : Subscriptions) (s : StatusSubscriptions) :
    Prop where
  own : ∀ id, s.Listed connection id ↔ id ∈ sub.ids
  others : ∀ c id, c ≠ connection → (s.Listed c id ↔ s.Subscribed c id)
  nodup_own : sub.ids.Nodup
  nodup_ids : ∀ c sub, s.subscriptions c = some sub → sub.ids.Nodup
  nodup_connections : ∀ id connections, s.swaps id = some connections → connections.Nodup
  nonempty : ∀ id connections, s.swaps id = some connections → connections ≠ []

theorem Indexed.holding {s : StatusSubscriptions} {connection : ConnectionId}
    {sub : Subscriptions} (h : s.Indexed) (hs : s.subscriptions connection = some sub) :
    Holding connection sub s where
  own id := by
    rw [h.listed_iff]
    simp [Subscribed, hs]
  others c id _ := h.listed_iff c id
  nodup_own := h.nodup_ids connection sub hs
  nodup_ids := h.nodup_ids
  nodup_connections := h.nodup_connections
  nonempty := h.nonempty

theorem listed_addSwap {s : StatusSubscriptions} {connection c : ConnectionId}
    {sub : Subscriptions} {swapId id : String} :
    (addSwap connection sub s swapId).2.Listed c id ↔
      (c = connection ∧ id = swapId) ∨ s.Listed c id := by
  unfold Listed addSwap
  by_cases hid : id = swapId
  · subst hid
    cases hs : s.swaps id with
    | none => simp
    | some connections => simp [mem_pushNew]
  · simp [hid]

theorem holding_addSwap {s : StatusSubscriptions} {connection : ConnectionId}
    {sub : Subscriptions} (h : Holding connection sub s) (swapId : String) :
    Holding connection (addSwap connection sub s swapId).1
      (addSwap connection sub s swapId).2 where
  own id := by
    rw [listed_addSwap, h.own]
    simp [addSwap, mem_pushNew]
  others c id hc := by
    rw [listed_addSwap]
    have hother := h.others c id hc
    simp only [hc, false_and, false_or]
    exact hother
  nodup_own := nodup_pushNew h.nodup_own
  nodup_ids := h.nodup_ids
  nodup_connections id connections hs := by
    by_cases hid : id = swapId
    · subst hid
      simp only [addSwap, Function.update_self, Option.some.injEq] at hs
      subst hs
      cases hold : s.swaps id with
      | none => exact List.nodup_singleton connection
      | some connections => exact nodup_pushNew (h.nodup_connections id connections hold)
    · simp only [addSwap, Function.update_of_ne hid] at hs
      exact h.nodup_connections id connections hs
  nonempty id connections hs := by
    by_cases hid : id = swapId
    · subst hid
      simp only [addSwap, Function.update_self, Option.some.injEq] at hs
      subst hs
      refine List.ne_nil_of_mem (a := connection) ?_
      cases s.swaps id with
      | none => exact List.mem_singleton_self connection
      | some connections => exact mem_pushNew.mpr (.inl rfl)
    · simp only [addSwap, Function.update_of_ne hid] at hs
      exact h.nonempty id connections hs

theorem indexed_addSwaps {connection : ConnectionId} (swapIds : List String)
    {sub : Subscriptions} {s : StatusSubscriptions} (h : Holding connection sub s) :
    (addSwaps connection swapIds sub s).Indexed := by
  induction swapIds generalizing sub s with
  | cons swapId swapIds ih => exact ih (holding_addSwap h swapId)
  | nil =>
    refine ⟨fun c id => ?_, fun c sub' hsub => ?_, h.nodup_connections, h.nonempty⟩
    · rw [addSwaps, subscribed_update]
      split
      · rename_i hc
        subst hc
        exact h.own id
      · rename_i hc
        exact h.others c id hc
    · by_cases hc : c = connection
      · subst hc
        simp only [addSwaps, Function.update_self, Option.some.injEq] at hsub
        subst hsub
        exact h.nodup_own
      · simp only [addSwaps, Function.update_of_ne hc] at hsub
        exact h.nodup_ids c sub' hsub

theorem indexed_subscriptionAdded {s : StatusSubscriptions} (h : s.Indexed)
    (connection : ConnectionId) (swapIds : List String) :
    (s.subscriptionAdded connection swapIds).Indexed := by
  unfold subscriptionAdded
  split
  · rename_i sub hs
    exact indexed_addSwaps swapIds (h.holding hs)
  · exact h

/-! ### Leaving -/

theorem retainNonEmpty_eq_some {swaps : String → Option (List ConnectionId)} {id : String}
    {connections : List ConnectionId} :
    retainNonEmpty swaps id = some connections ↔ swaps id = some connections ∧ connections ≠ [] := by
  simp [retainNonEmpty, Option.filter_eq_some_iff]

/-- The lists of `swaps'` are those of `s` without the connection, for the ids in `P`. -/
theorem listed_retain {s : StatusSubscriptions} {connection c : ConnectionId} {id : String}
    {swaps : String → Option (List ConnectionId)} {P : Prop} [Decidable P]
    (hs : swaps id = if P then (s.swaps id).map (·.filter (· ≠ connection)) else s.swaps id) :
    (∃ connections, retainNonEmpty swaps id = some connections ∧ c ∈ connections) ↔
      s.Listed c id ∧ ¬(P ∧ c = connection) := by
  simp only [retainNonEmpty_eq_some, hs, Listed]
  by_cases hP : P
  · simp only [hP, if_true, Option.map_eq_some_iff, true_and]
    constructor
    · rintro ⟨connections, ⟨⟨old, hold, rfl⟩, _⟩, hc⟩
      rw [List.mem_filter] at hc
      exact ⟨⟨old, hold, hc.1⟩, by simpa using hc.2⟩
    · rintro ⟨⟨old, hold, hc⟩, hne⟩
      have hmem : c ∈ old.filter (· ≠ connection) := List.mem_filter.mpr ⟨hc, by simpa using hne⟩
      exact ⟨_, ⟨⟨old, hold, rfl⟩, List.ne_nil_of_mem hmem⟩, hmem⟩
  · simp only [hP, if_false, false_and, not_false_eq_true, and_true]
    constructor
    · rintro ⟨connections, ⟨hold, _⟩, hc⟩
      exact ⟨connections, hold, hc⟩
    · rintro ⟨connections, hold, hc⟩
      exact ⟨connections, ⟨hold, List.ne_nil_of_mem hc⟩, hc⟩

theorem nodup_retain {s : StatusSubscriptions} (h : s.Indexed) {connection : ConnectionId}
    {id : String} {swaps : String → Option (List ConnectionId)} {P : Prop} [Decidable P]
    (hs : swaps id = if P then (s.swaps id).map (·.filter (· ≠ connection)) else s.swaps id)
    {connections : List ConnectionId} (hc : retainNonEmpty swaps id = some connections) :
    connections.Nodup := by
  rw [retainNonEmpty_eq_some, hs] at hc
  obtain ⟨hc, -⟩ := hc
  split at hc
  · obtain ⟨old, hold, rfl⟩ := Option.map_eq_some_iff.mp hc
    exact (h.nodup_connections id old hold).filter _
  · exact h.nodup_connections id connections hc

theorem indexed_subscriptionRemoved {s : StatusSubscriptions} (h : s.Indexed)
    (connection : ConnectionId) (swapIds : List String) :
    (s.subscriptionRemoved connection swapIds).1.Indexed := by
  unfold subscriptionRemoved
  split
  swap
  · exact h
  rename_i sub hs
  have hleave : ∀ id, leave connection swapIds s.swaps id =
      if id ∈ swapIds then (s.swaps id).map (·.filter (· ≠ connection)) else s.swaps id :=
    fun id => rfl
  refine ⟨fun c id => ?_, fun c sub' hsub => ?_, fun id _ hc => nodup_retain h (hleave id) hc,
    fun id _ hc => (retainNonEmpty_eq_some.mp hc).2⟩
  · refine Iff.trans (listed_retain (hleave id)) ?_
    rw [h.listed_iff, subscribed_update]
    split
    · rename_i hc
      subst hc
      simp [Subscribed, hs, and_comm]
    · rename_i hc
      simp [hc]
  · by_cases hc : c = connection
    · subst hc
      simp only [Function.update_self, Option.some.injEq] at hsub
      subst hsub
      exact (h.nodup_ids c sub hs).filter _
    · simp only [Function.update_of_ne hc] at hsub
      exact h.nodup_ids c sub' hsub

theorem indexed_connectionDropped {s : StatusSubscriptions} (h : s.Indexed)
    (connection : ConnectionId) : (s.connectionDropped connection).Indexed := by
  set left : String → Option (List ConnectionId) :=
    fun id => (s.swaps id).map (·.filter (· ≠ connection)) with hdef
  have hleave : ∀ id, left id =
      if True then (s.swaps id).map (·.filter (· ≠ connection)) else s.swaps id := by simp [hdef]
  change Indexed ⟨retainNonEmpty left, Function.update s.subscriptions connection none, _⟩
  refine ⟨fun c id => ?_, fun c sub hsub => ?_, fun id _ hc => nodup_retain h (hleave id) hc,
    fun id _ hc => (retainNonEmpty_eq_some.mp hc).2⟩
  · refine Iff.trans (listed_retain (hleave id)) ?_
    rw [h.listed_iff]
    unfold Subscribed
    by_cases hc : c = connection
    · subst hc
      simp
    · simp [hc]
  · by_cases hc : c = connection
    · subst hc
      simp at hsub
    · simp only [Function.update_of_ne hc] at hsub
      exact h.nodup_ids c sub hsub

/-! ### Every sequence of calls -/

theorem indexed_call {s : StatusSubscriptions} (h : s.Indexed) (c : Call) (ha : s.Admits c) :
    (s.call c).Indexed := by
  cases c with
  | connectionAdded connection => exact indexed_connectionAdded h ha
  | subscriptionAdded connection swapIds => exact indexed_subscriptionAdded h connection swapIds
  | subscriptionRemoved connection swapIds =>
    exact indexed_subscriptionRemoved h connection swapIds
  | connectionDropped connection => exact indexed_connectionDropped h connection

theorem Reaches.indexed {s : StatusSubscriptions} (h : Reaches s) : s.Indexed := by
  induction h with
  | new => exact indexed_new
  | call c _ ha ih => exact indexed_call ih c ha

/-! ## Forwarding -/

/-- Which connections get what from a batch: those with a subscribed update get exactly their
updates, in the order of the batch, on their channel, and only once. -/
structure Forwards (s : StatusSubscriptions) (updates : List (SwapStatus B)) : Prop where
  once : ((s.forwardUpdates none updates).map Prod.fst).Nodup
  mem_iff : ∀ connection sender out,
    (connection, sender, out) ∈ s.forwardUpdates none updates ↔
      ∃ sub, s.subscriptions connection = some sub ∧ sender = sub.sender ∧
        (∃ update ∈ updates, update.id ∈ sub.ids) ∧
        out = updates.filter fun update => update.id ∈ sub.ids

theorem mem_destutter' {x a : ConnectionId} {xs : List ConnectionId} :
    x ∈ xs.destutter' (· ≠ ·) a ↔ x = a ∨ x ∈ xs := by
  induction xs generalizing a with
  | nil => simp
  | cons b xs ih =>
    rw [List.destutter'_cons]
    split
    · rw [List.mem_cons, ih, List.mem_cons]
    · rename_i hab
      have hab : a = b := not_not.mp hab
      subst hab
      rw [ih, List.mem_cons]
      tauto

theorem mem_destutter {x : ConnectionId} {xs : List ConnectionId} :
    x ∈ xs.destutter (· ≠ ·) ↔ x ∈ xs := by
  cases xs with
  | nil => rfl
  | cons a xs =>
    rw [List.destutter_cons', mem_destutter', List.mem_cons]

theorem pairwise_destutter' {a : ConnectionId} {xs : List ConnectionId}
    (h : (a :: xs).Pairwise (· ≤ ·)) : (xs.destutter' (· ≠ ·) a).Pairwise (· < ·) := by
  induction xs generalizing a with
  | nil => exact List.pairwise_singleton _ _
  | cons b xs ih =>
    obtain ⟨ha, hb⟩ := List.pairwise_cons.mp h
    rw [List.destutter'_cons]
    split
    · rename_i hab
      refine List.pairwise_cons.mpr ⟨fun x hx => ?_, ih hb⟩
      have hlt : a < b := lt_of_le_of_ne (ha b (by simp)) hab
      rcases mem_destutter'.mp hx with rfl | hx
      · exact hlt
      · exact lt_of_lt_of_le hlt ((List.pairwise_cons.mp hb).1 x hx)
    · refine ih (List.pairwise_cons.mpr ⟨fun x hx => ha x (by simp [hx]), ?_⟩)
      exact (List.pairwise_cons.mp hb).2

theorem nodup_destutter_of_sorted {xs : List ConnectionId} (h : xs.Pairwise (· ≤ ·)) :
    (xs.destutter (· ≠ ·)).Nodup := by
  cases xs with
  | nil => exact List.nodup_nil
  | cons a xs => exact (pairwise_destutter' h).imp fun hab => Nat.ne_of_lt hab

theorem nodup_relevantIds (s : StatusSubscriptions) (updates : List (SwapStatus B)) :
    (s.relevantIds updates).Nodup := by
  refine nodup_destutter_of_sorted ?_
  have hsorted := @List.pairwise_mergeSort ConnectionId (fun a b => decide (a ≤ b))
    (fun a b c hab hbc => by simp only [decide_eq_true_eq] at *; exact le_trans hab hbc)
    (fun a b => by simpa using le_total a b)
    (updates.flatMap fun update => (s.swaps update.id).getD [])
  exact hsorted.imp fun hab => by simpa using hab

theorem mem_relevantIds {s : StatusSubscriptions} {updates : List (SwapStatus B)}
    {connection : ConnectionId} :
    connection ∈ s.relevantIds updates ↔ ∃ update ∈ updates, s.Listed connection update.id := by
  rw [relevantIds, mem_destutter, List.mem_mergeSort, List.mem_flatMap]
  refine exists_congr fun update => and_congr_right fun _ => ?_
  unfold Listed
  cases s.swaps update.id with
  | none => simp
  | some connections => simp

theorem Indexed.forwards {s : StatusSubscriptions} (h : s.Indexed)
    (updates : List (SwapStatus B)) : s.Forwards updates where
  once := by
    rw [forwardUpdates, List.map_filterMap]
    refine (s.nodup_relevantIds updates).filterMap ?_
    intro c c' x hx hx'
    simp only [sendTo, Option.map_map, Option.mem_def, Option.map_eq_some_iff,
      Function.comp_apply] at hx hx'
    obtain ⟨_, _, rfl⟩ := hx
    obtain ⟨_, _, rfl⟩ := hx'
    rfl
  mem_iff connection sender out := by
    simp only [forwardUpdates, List.mem_filterMap, sendTo, Option.map_eq_some_iff, Prod.mk.injEq]
    constructor
    · rintro ⟨c, hc, sub, hsub, rfl, rfl, rfl⟩
      obtain ⟨update, hu, hl⟩ := mem_relevantIds.mp hc
      obtain ⟨sub', hsub', hid⟩ := (h.listed_iff c update.id).mp hl
      rw [hsub] at hsub'
      cases hsub'
      exact ⟨sub, hsub, rfl, ⟨update, hu, hid⟩, rfl⟩
    · rintro ⟨sub, hsub, rfl, ⟨update, hu, hid⟩, rfl⟩
      refine ⟨connection, mem_relevantIds.mpr ⟨update, hu, ?_⟩, sub, hsub, rfl, rfl, rfl⟩
      exact (h.listed_iff connection update.id).mpr ⟨sub, hsub, hid⟩

/-! ## Every sequence of calls -/

/-- The index is bidirectional and every batch is forwarded to exactly the subscribed connections,
after every sequence of calls that adds a connection only while it has no subscriptions. -/
theorem subscriptions_indexed {s : StatusSubscriptions} (h : Reaches s) :
    s.Indexed ∧ ∀ (B : Type) (updates : List (SwapStatus B)), s.Forwards updates :=
  ⟨h.indexed, fun _ updates => h.indexed.forwards updates⟩

/-- Two connections subscribe to a swap, one of them leaves it again and is dropped, and its id is
used once more. -/
def sampleCalls : List Call :=
  [.connectionAdded 1, .subscriptionAdded 1 ["a", "b", "a"], .connectionAdded 2,
    .subscriptionAdded 2 ["b"], .subscriptionRemoved 1 ["b"], .connectionDropped 1,
    .connectionAdded 1]

theorem subscriptions_indexed_reused : ∃ s, Reaches s ∧
    s.forwardUpdates none [⟨"a", ()⟩, ⟨"b", ()⟩] = [(2, 1, [⟨"b", ()⟩])] ∧
    (s.Indexed ∧ ∀ (B : Type) (updates : List (SwapStatus B)), s.Forwards updates) := by
  have hr : Reaches (sampleCalls.foldl call {}) := by
    simp only [sampleCalls, List.foldl_cons, List.foldl_nil]
    refine .call _ (.call _ (.call _ (.call _ (.call _ (.call _ (.call _ .new ?_) ?_) ?_) ?_) ?_)
      ?_) ?_
    · exact admits_of_unknown (by decide)
    · trivial
    · exact admits_of_unknown (by decide)
    · trivial
    · trivial
    · trivial
    · exact admits_of_unknown (by decide)
  exact ⟨_, hr, by decide +kernel, subscriptions_indexed hr⟩

/-- A connection that is added again while it is subscribed loses its own list only. -/
theorem added_again_breaks_index :
    ¬(([.connectionAdded 1, .subscriptionAdded 1 ["a"], .connectionAdded 1] : List Call).foldl
      call {}).Indexed := by
  intro h
  obtain ⟨sub, hsub, hid⟩ := (h.listed_iff 1 "a").mp ⟨[1], by decide, by decide⟩
  have hempty : sub = ⟨[], 1⟩ := by
    have hlast : (([.connectionAdded 1, .subscriptionAdded 1 ["a"], .connectionAdded 1] :
        List Call).foldl call {}).subscriptions 1 = some ⟨[], 1⟩ := by decide
    rw [hlast] at hsub
    exact (Option.some.inj hsub).symm
  rw [hempty] at hid
  cases hid

end StatusSubscriptions

end Boltz

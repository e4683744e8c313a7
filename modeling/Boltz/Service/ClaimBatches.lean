import Boltz.Service.DeferredClaimer
import Mathlib

/-!
# Pending claims and batches (`lib/service/cooperative/DeferredClaimer.ts`)

A deferred claim waits in the map of its symbol until a sweep takes it into a batch or the client
claims it cooperatively. `batchClaimLock` is held by one sweep or one cooperative claim at a time,
`swapsToClaimLock` around every access to the maps. Everything between two awaits is one step.
-/

namespace Boltz.ClaimBatches

open SwapUpdateEvent

/-- `swap.type` and `swap.id`. -/
structure Key where
  type : SwapType
  id : Nat
  deriving DecidableEq, Repr

/-- `SwapToClaimPreimage` -/
structure Entry where
  swap : Key
  preimage : Nat
  deriving DecidableEq, Repr

/-- What is stored for a swap. -/
structure Row where
  status : SwapUpdateEvent
  preimage : Nat := 0
  deriving DecidableEq, Repr

/-- The configuration, and what never changes about a swap. `swaps` are the rows of the tables. -/
structure Config where
  deferredClaimSymbols : List Nat
  currencyType : Nat → CurrencyType
  chainCurrency : Key → Nat
  version : Key → SwapVersion
  swaps : List Key
  nodup : swaps.Nodup

/-! ## The maps -/

/-- How often a swap is in a list of claims. -/
def copies (entries : List Entry) (swap : Key) : Nat := entries.countP fun e => e.swap = swap

/-- `map.set(swap.id, entry)`: the entry of a present key is replaced where it stands. -/
def setEntry (map : List Entry) (e : Entry) : List Entry :=
  if map.any (·.swap == e.swap) then map.map fun x => if x.swap = e.swap then e else x
  else map ++ [e]

structure PendingMaps where
  swapsToClaim : Nat → List Entry := fun _ => []
  chainSwapsToClaim : Nat → List Entry := fun _ => []

namespace PendingMaps

def get (m : PendingMaps) (type : SwapType) (symbol : Nat) : List Entry :=
  if type = .submarine then m.swapsToClaim symbol else m.chainSwapsToClaim symbol

def update (m : PendingMaps) (type : SwapType) (symbol : Nat) (map : List Entry) : PendingMaps :=
  if type = .submarine then { m with swapsToClaim := Function.update m.swapsToClaim symbol map }
  else { m with chainSwapsToClaim := Function.update m.chainSwapsToClaim symbol map }

def set (m : PendingMaps) (symbol : Nat) (e : Entry) : PendingMaps :=
  m.update e.swap.type symbol (setEntry (m.get e.swap.type symbol) e)

def setAll (m : PendingMaps) (symbolOf : Key → Nat) (entries : List Entry) : PendingMaps :=
  entries.foldl (fun m e => m.set (symbolOf e.swap) e) m

def delete (m : PendingMaps) (symbol : Nat) (swap : Key) : PendingMaps :=
  m.update swap.type symbol ((m.get swap.type symbol).filter fun e => e.swap ≠ swap)

/-- `Array.from(map.values())` of both maps of the symbol. -/
def values (m : PendingMaps) (symbol : Nat) : List Entry :=
  m.swapsToClaim symbol ++ m.chainSwapsToClaim symbol

def clear (m : PendingMaps) (symbol : Nat) : PendingMaps where
  swapsToClaim := Function.update m.swapsToClaim symbol []
  chainSwapsToClaim := Function.update m.chainSwapsToClaim symbol []

end PendingMaps

/-! ## The claimer -/

/-- What holds `batchClaimLock`, and how far it got. -/
inductive Running where
  | sweepSymbol (symbol : Nat)
  /-- the first chunk is being broadcast -/
  | batchClaim (symbol : Nat) (chunks : List (List Entry))
  /-- the broadcast of a chunk failed, `swapsToClaimLock` is being acquired -/
  | failedChunk (symbol : Nat) (chunk : List Entry) (chunks : List (List Entry))
  /-- a chunk was broadcast, the rows of its swaps are being stored -/
  | claimedChunk (symbol : Nat) (toStore : List Entry) (chunks : List (List Entry))
  | broadcastCooperative (swap : Key)
  /-- `getToClaimDetails` returned an entry, `swapsToClaimLock` is being acquired -/
  | cooperativeDetails (toClaim : Entry)
  /-- both locks are held -/
  | broadcastCooperativeTransaction (toClaim : Entry)
  | claimedCooperative (toClaim : Entry)
  deriving DecidableEq, Repr

/-- The claims that were taken out of the maps and not broadcast yet. -/
def Running.batch : Running → List Entry
  | batchClaim _ chunks => chunks.flatten
  | failedChunk _ chunk chunks => chunk ++ chunks.flatten
  | claimedChunk _ _ chunks => chunks.flatten
  | _ => []

/-- `setting` are the calls of `deferClaim` that stored the status of their swap and acquire
`swapsToClaimLock`; `leftovers` is what `batchClaimLeftovers` read and did not put into the maps
yet. `stored` are the swaps of these two, `queued` those that got into the maps and `broadcasts`
are the swaps of each successful broadcast. -/
structure State where
  rows : Key → Row
  maps : PendingMaps := {}
  setting : List Entry := []
  leftovers : Option (List Entry) := none
  running : Option Running := none
  stored : List Key := []
  queued : List Key := []
  broadcasts : List (List Key) := []

/-- How the broadcast of a cooperative claim ends. -/
inductive Broadcast where
  | failed
  | success
  /-- the transaction was sent, and `calculateTransactionFee` throws -/
  | successThenFailed
  deriving DecidableEq, Repr

inductive Op where
  /-- another part of the backend stores a row -/
  | store (swap : Key) (row : Row)
  | deferClaim (toClaim : Entry) (latestContracts : Bool)
  | setToClaim (toClaim : Entry)
  | readLeftovers
  | setLeftovers
  | sweepSymbol (symbol : Nat)
  | takeToClaim
  | broadcastClaim (success : Bool)
  | restoreToClaim
  | storeClaimed
  | finishBatch
  | broadcastCooperative (swap : Key)
  | getToClaimDetails (session : Bool)
  | lockToClaim
  | broadcastCooperativeTransaction (result : Broadcast)
  | storeCooperative
  deriving DecidableEq, Repr

/-- The check of `fetchSwapForSettlement`: swaps with such a status are not claimed again. -/
def alreadySettled (status : SwapUpdateEvent) : Bool :=
  status = transactionClaimPending || successSwapUpdateEvents.contains status

namespace State

section

variable (cfg : Config)

def shouldBeDeferred (swap : Key) (latestContracts : Bool) : Bool :=
  let symbol := cfg.chainCurrency swap
  if !cfg.deferredClaimSymbols.contains symbol then false
  else if cfg.version swap ≠ .taproot then false
  else match (cfg.currencyType symbol).backend with
    | .ark => false
    | .evm => latestContracts
    | .utxo => true

/-- `swapsToClaimLock` is held across an await by a cooperative broadcast only. -/
def toClaimLockFree (s : State) : Bool :=
  match s.running with
  | some (.broadcastCooperativeTransaction _) | some (.claimedCooperative _) => false
  | _ => true

/-- `setSwapStatus` or `setTransactionClaimPending`: only a chain swap stores the preimage too. -/
def storePending (s : State) (e : Entry) : State :=
  let row : Row :=
    if e.swap.type = .submarine then { s.rows e.swap with status := transactionClaimPending }
    else { status := transactionClaimPending, preimage := e.preimage }
  { s with rows := Function.update s.rows e.swap row }

/-- `setMinerFee` or `setClaimMinerFee` -/
def storeClaimedRow (s : State) (e : Entry) : State :=
  let row : Row :=
    if e.swap.type = .submarine then { s.rows e.swap with status := transactionClaimed }
    else { status := transactionClaimed, preimage := e.preimage }
  { s with rows := Function.update s.rows e.swap row }

def deferClaim (s : State) (e : Entry) (latestContracts : Bool) : Option State :=
  if !shouldBeDeferred cfg e.swap latestContracts then none
  else
    let s := s.storePending e
    some { s with setting := e :: s.setting, stored := e.swap :: s.stored }

def setToClaim (s : State) (e : Entry) : Option State :=
  if !(s.setting.contains e && s.toClaimLockFree) then none
  else
    some { s with
      setting := s.setting.erase e
      maps := s.maps.set (cfg.chainCurrency e.swap) e
      queued := e.swap :: s.queued }

/-- `getSwapsClaimable` and `getChainSwapsClaimable` -/
def claimable (s : State) : List Entry :=
  let pending := cfg.swaps.filter fun k => (s.rows k).status = transactionClaimPending
  ((pending.filter (·.type = .submarine)) ++ (pending.filter (·.type ≠ .submarine))).map
    fun k => ⟨k, (s.rows k).preimage⟩

def readLeftovers (s : State) : Option State :=
  let entries := s.claimable cfg
  some { s with
    leftovers := some entries
    stored := entries.map (·.swap) ++ s.stored }

/-- There is no map for a symbol that is not configured: the loop throws there. -/
def setLeftovers (s : State) : Option State :=
  match s.leftovers with
  | none => none
  | some entries =>
    if !s.toClaimLockFree then none
    else
      let entries := entries.takeWhile fun e =>
        cfg.deferredClaimSymbols.contains (cfg.chainCurrency e.swap)
      some { s with
        leftovers := none
        maps := s.maps.setAll cfg.chainCurrency entries
        queued := entries.map (·.swap) ++ s.queued }

def sweepSymbol (s : State) (symbol : Nat) : Option State :=
  if s.running.isSome then none else some { s with running := some (.sweepSymbol symbol) }

/-- The first critical section of `batchClaim`. -/
def takeToClaim (s : State) : Option State :=
  match s.running with
  | some (.sweepSymbol symbol) =>
    let entries := s.maps.values symbol
    let chunks :=
      DeferredClaimer.arrayToChunks DeferredClaimer.maxBatchClaimChunk entries.length entries
    some { s with
      maps := s.maps.clear symbol
      running := if entries.isEmpty then none else some (.batchClaim symbol chunks) }
  | _ => none

def broadcastClaim (s : State) (success : Bool) : Option State :=
  match s.running with
  | some (.batchClaim symbol (chunk :: chunks)) =>
    if success then
      some { s with
        running := some (.claimedChunk symbol chunk chunks)
        broadcasts := chunk.map (·.swap) :: s.broadcasts }
    else some { s with running := some (.failedChunk symbol chunk chunks) }
  | _ => none

/-- The chunk is put back into the maps of the symbol. -/
def restoreToClaim (s : State) : Option State :=
  match s.running with
  | some (.failedChunk symbol chunk chunks) =>
    some { s with
      maps := s.maps.setAll (fun _ => symbol) chunk
      running := some (.batchClaim symbol chunks) }
  | _ => none

def storeClaimed (s : State) : Option State :=
  match s.running with
  | some (.claimedChunk symbol (e :: toStore) chunks) =>
    some { s.storeClaimedRow e with running := some (.claimedChunk symbol toStore chunks) }
  | some (.claimedChunk symbol [] chunks) =>
    some { s with running := some (.batchClaim symbol chunks) }
  | _ => none

/-- No chunk is left: `batchClaim` returns or throws. -/
def finishBatch (s : State) : Option State :=
  match s.running with
  | some (.batchClaim _ []) => some { s with running := none }
  | _ => none

def broadcastCooperative (s : State) (swap : Key) : Option State :=
  if s.running.isSome then none else some { s with running := some (.broadcastCooperative swap) }

/-- `session` is whether the client asked for the details of the entry before. -/
def getToClaimDetails (s : State) (session : Bool) : Option State :=
  match s.running with
  | some (.broadcastCooperative swap) =>
    let symbol := cfg.chainCurrency swap
    let toClaim :=
      if (cfg.currencyType symbol).backend ≠ .utxo then none
      else (s.maps.get swap.type symbol).find? fun e => e.swap = swap
    match toClaim with
    | some e => some { s with running := if session then some (.cooperativeDetails e) else none }
    | none => some { s with running := none }
  | _ => none

def lockToClaim (s : State) : Option State :=
  match s.running with
  | some (.cooperativeDetails e) =>
    some { s with running := some (.broadcastCooperativeTransaction e) }
  | _ => none

def broadcastCooperativeTransaction (s : State) (result : Broadcast) : Option State :=
  match s.running with
  | some (.broadcastCooperativeTransaction e) =>
    match result with
    | .failed => some { s with running := none }
    | .successThenFailed =>
      some { s with running := none, broadcasts := [e.swap] :: s.broadcasts }
    | .success =>
      some { s with
        running := some (.claimedCooperative e)
        maps := s.maps.delete (cfg.chainCurrency e.swap) e.swap
        broadcasts := [e.swap] :: s.broadcasts }
  | _ => none

def storeCooperative (s : State) : Option State :=
  match s.running with
  | some (.claimedCooperative e) => some { s.storeClaimedRow e with running := none }
  | _ => none

def step (s : State) : Op → Option State
  | .store swap row => some { s with rows := Function.update s.rows swap row }
  | .deferClaim e latestContracts => s.deferClaim cfg e latestContracts
  | .setToClaim e => s.setToClaim cfg e
  | .readLeftovers => s.readLeftovers cfg
  | .setLeftovers => s.setLeftovers cfg
  | .sweepSymbol symbol => s.sweepSymbol symbol
  | .takeToClaim => s.takeToClaim
  | .broadcastClaim success => s.broadcastClaim success
  | .restoreToClaim => s.restoreToClaim
  | .storeClaimed => s.storeClaimed
  | .finishBatch => s.finishBatch
  | .broadcastCooperative swap => s.broadcastCooperative swap
  | .getToClaimDetails session => s.getToClaimDetails cfg session
  | .lockToClaim => s.lockToClaim
  | .broadcastCooperativeTransaction result => s.broadcastCooperativeTransaction cfg result
  | .storeCooperative => s.storeCooperative

end

end State

/-! ## Counting entries -/

section

variable {e : Entry} {k : Key} {l₁ l₂ map : List Entry}

@[simp] theorem copies_nil : copies [] k = 0 := rfl

@[simp] theorem copies_cons : copies (e :: l₁) k = copies l₁ k + if e.swap = k then 1 else 0 := by
  unfold copies
  rw [List.countP_cons]
  simp only [decide_eq_true_eq]

@[simp] theorem copies_append : copies (l₁ ++ l₂) k = copies l₁ k + copies l₂ k :=
  List.countP_append

theorem copies_pos : 0 < copies map k ↔ ∃ e ∈ map, e.swap = k := by
  unfold copies
  rw [List.countP_pos_iff]
  simp only [decide_eq_true_eq]

theorem copies_eq_zero : copies map k = 0 ↔ ∀ e ∈ map, e.swap ≠ k := by
  unfold copies
  rw [List.countP_eq_zero]
  simp only [decide_eq_true_eq, ne_eq]

theorem count_map_swap (l : List Entry) : (l.map (·.swap)).count k = copies l k := by
  induction l with
  | nil => rfl
  | cons e l ih =>
    rw [List.map_cons, List.count_cons, copies_cons, ih]
    simp only [beq_iff_eq]

theorem copies_erase (h : e ∈ map) :
    copies (map.erase e) k + (if e.swap = k then 1 else 0) = copies map k := by
  have hperm : copies map k = copies (e :: map.erase e) k := (List.perm_cons_erase h).countP_eq _
  rw [hperm, copies_cons]

theorem copies_without (map : List Entry) (k k' : Key) :
    copies (map.filter fun e => e.swap ≠ k) k' = if k = k' then 0 else copies map k' := by
  induction map with
  | nil => simp
  | cons e map ih =>
    rw [List.filter_cons]
    by_cases he : e.swap = k
    · rw [if_neg (by simpa using he), ih, copies_cons]
      by_cases hk : k = k'
      · simp [hk]
      · simp [hk, he]
    · rw [if_pos (by simpa using he), copies_cons, copies_cons, ih]
      by_cases hk : k = k'
      · subst hk
        simp [he]
      · simp [hk]

theorem copies_setEntry (h : copies map e.swap = 0) :
    copies (setEntry map e) k = copies map k + if e.swap = k then 1 else 0 := by
  have hany : ¬map.any (·.swap == e.swap) = true := by
    rw [List.any_eq_true]
    rintro ⟨x, hx, hxe⟩
    exact copies_eq_zero.mp h x hx (by simpa using hxe)
  unfold setEntry
  rw [if_neg hany, copies_append, copies_cons, copies_nil, Nat.zero_add]

theorem mem_setEntry {x : Entry} (h : x ∈ setEntry map e) : x = e ∨ x ∈ map := by
  unfold setEntry at h
  split at h
  · obtain ⟨y, hy, rfl⟩ := List.mem_map.mp h
    split
    · exact .inl rfl
    · exact .inr hy
  · rcases List.mem_append.mp h with h | h
    · exact .inr h
    · exact .inl (List.mem_singleton.mp h)

theorem flatten_arrayToChunks {α : Type} {size : Nat} (hs : 0 < size) (fuel : Nat) (xs : List α)
    (hf : xs.length ≤ fuel) : (DeferredClaimer.arrayToChunks size fuel xs).flatten = xs := by
  induction fuel generalizing xs with
  | zero =>
    have hnil : xs = [] := List.length_eq_zero_iff.mp (Nat.le_zero.mp hf)
    rw [hnil]
    rfl
  | succ fuel ih =>
    cases xs with
    | nil => rfl
    | cons x xs =>
      have hlen : ((x :: xs).drop size).length ≤ fuel := by
        rw [List.length_drop]
        omega
      rw [DeferredClaimer.arrayToChunks, List.flatten_cons, ih _ hlen, List.take_append_drop]
      exact fun h => by cases h

end

namespace PendingMaps

section

variable {cfg : Config} {m : PendingMaps} {e : Entry} {symbol : Nat} {k : Key}

/-- How often a swap is in the maps; it is looked for where its own entries are set. -/
def pending (cfg : Config) (m : PendingMaps) (k : Key) : Nat :=
  copies (m.get k.type (cfg.chainCurrency k)) k

/-- An entry is only in the map of its own type and symbol. -/
def Placed (cfg : Config) (m : PendingMaps) : Prop :=
  ∀ type symbol, ∀ e ∈ m.get type symbol,
    (e.swap.type = .submarine ↔ type = .submarine) ∧ cfg.chainCurrency e.swap = symbol

theorem get_congr {t t' : SwapType} (h : t = .submarine ↔ t' = .submarine) :
    m.get t symbol = m.get t' symbol := by
  unfold get
  by_cases ht : t = .submarine
  · rw [if_pos ht, if_pos (h.mp ht)]
  · rw [if_neg ht, if_neg (fun h' => ht (h.mpr h'))]

theorem get_update_same {t t' : SwapType} {map : List Entry}
    (h : t = .submarine ↔ t' = .submarine) : (m.update t symbol map).get t' symbol = map := by
  rw [← get_congr h]
  unfold get update
  by_cases ht : t = .submarine
  · simp only [if_pos ht, Function.update_self]
  · simp only [if_neg ht, Function.update_self]

theorem get_update_other {t t' : SwapType} {symbol' : Nat} {map : List Entry}
    (h : ¬((t = .submarine ↔ t' = .submarine) ∧ symbol = symbol')) :
    (m.update t symbol map).get t' symbol' = m.get t' symbol' := by
  unfold get update
  by_cases hs : symbol' = symbol
  · have ht : ¬(t = .submarine ↔ t' = .submarine) := fun h' => h ⟨h', hs.symm⟩
    by_cases h1 : t = .submarine
    · have h2 : ¬t' = .submarine := fun h' => ht ⟨fun _ => h', fun _ => h1⟩
      simp only [if_pos h1, if_neg h2]
    · have h2 : t' = .submarine := by
        by_contra h2
        exact ht ⟨fun h => absurd h h1, fun h => absurd h h2⟩
      simp only [if_neg h1, if_pos h2]
  · by_cases h1 : t = .submarine
    · simp only [if_pos h1, Function.update_of_ne hs]
    · simp only [if_neg h1, Function.update_of_ne hs]

/-- What is stored in one map is counted for the swaps of that map. -/
theorem pending_update {t : SwapType} {map : List Entry} :
    (m.update t symbol map).pending cfg k =
      if (t = .submarine ↔ k.type = .submarine) ∧ symbol = cfg.chainCurrency k then copies map k
      else m.pending cfg k := by
  unfold pending
  split
  · rename_i h
    rw [← h.2, get_update_same h.1]
  · rename_i h
    rw [get_update_other h]

theorem pending_set (h0 : m.pending cfg e.swap = 0) :
    (m.set (cfg.chainCurrency e.swap) e).pending cfg k =
      m.pending cfg k + if e.swap = k then 1 else 0 := by
  unfold set
  rw [pending_update]
  split
  · rename_i h
    rw [copies_setEntry h0, pending, ← h.2, get_congr h.1]
  · rename_i h
    rw [if_neg, Nat.add_zero]
    rintro rfl
    exact h ⟨Iff.rfl, rfl⟩

theorem pending_delete {k' : Key} : (m.delete (cfg.chainCurrency k) k).pending cfg k' =
    if k = k' then 0 else m.pending cfg k' := by
  unfold delete
  rw [pending_update]
  split
  · rename_i h
    rw [copies_without, pending, ← h.2, get_congr h.1]
  · rename_i h
    rw [if_neg]
    rintro rfl
    exact h ⟨Iff.rfl, rfl⟩

theorem pending_setAll {symbolOf : Key → Nat} (entries : List Entry)
    (hs : ∀ e ∈ entries, symbolOf e.swap = cfg.chainCurrency e.swap)
    (h1 : ∀ k, m.pending cfg k + copies entries k ≤ 1) :
    (m.setAll symbolOf entries).pending cfg k = m.pending cfg k + copies entries k := by
  induction entries generalizing m with
  | nil => rfl
  | cons e entries ih =>
    have h0 : m.pending cfg e.swap = 0 := by
      have h := h1 e.swap
      rw [copies_cons, if_pos rfl] at h
      omega
    have hset : ∀ k', (m.set (symbolOf e.swap) e).pending cfg k' =
        m.pending cfg k' + if e.swap = k' then 1 else 0 := by
      intro k'
      rw [hs e (by simp), pending_set h0]
    have hrest := ih (m := m.set (symbolOf e.swap) e) (fun x hx => hs x (by simp [hx])) fun k' => by
      have h := h1 k'
      rw [copies_cons] at h
      rw [hset]
      omega
    change ((m.set (symbolOf e.swap) e).setAll symbolOf entries).pending cfg k = _
    rw [hrest, hset, copies_cons]
    omega

theorem placed_update {t : SwapType} {map : List Entry} (hp : m.Placed cfg)
    (h : ∀ e ∈ map, (e.swap.type = .submarine ↔ t = .submarine) ∧ cfg.chainCurrency e.swap = symbol) :
    (m.update t symbol map).Placed cfg := by
  intro t' symbol' x hx
  by_cases hc : (t = .submarine ↔ t' = .submarine) ∧ symbol = symbol'
  · obtain ⟨ht, rfl⟩ := hc
    rw [get_update_same ht] at hx
    exact ⟨(h x hx).1.trans ht, (h x hx).2⟩
  · rw [get_update_other hc] at hx
    exact hp t' symbol' x hx

theorem placed_set (hp : m.Placed cfg) : (m.set (cfg.chainCurrency e.swap) e).Placed cfg := by
  refine placed_update hp fun x hx => ?_
  rcases mem_setEntry hx with rfl | hx
  · exact ⟨Iff.rfl, rfl⟩
  · exact hp _ _ x hx

theorem placed_delete (hp : m.Placed cfg) : (m.delete symbol k).Placed cfg :=
  placed_update hp fun x hx => hp _ _ x (List.mem_filter.mp hx).1

theorem placed_setAll {symbolOf : Key → Nat} (entries : List Entry)
    (hs : ∀ e ∈ entries, symbolOf e.swap = cfg.chainCurrency e.swap) (hp : m.Placed cfg) :
    (m.setAll symbolOf entries).Placed cfg := by
  induction entries generalizing m with
  | nil => exact hp
  | cons e entries ih =>
    refine ih (m := m.set (symbolOf e.swap) e) (fun x hx => hs x (by simp [hx])) ?_
    rw [hs e (by simp)]
    exact placed_set hp

theorem get_clear {t : SwapType} {symbol' : Nat} :
    (m.clear symbol).get t symbol' = if symbol' = symbol then [] else m.get t symbol' := by
  unfold get clear
  by_cases hs : symbol' = symbol
  · subst hs
    simp only [Function.update_self, if_true, ite_self]
  · simp only [Function.update_of_ne hs, if_neg hs]

theorem placed_clear (hp : m.Placed cfg) : (m.clear symbol).Placed cfg := by
  intro t symbol' x hx
  rw [get_clear] at hx
  split at hx
  · cases hx
  · exact hp t symbol' x hx

theorem mem_values {x : Entry} (hx : x ∈ m.values symbol) : ∃ t, x ∈ m.get t symbol := by
  rcases List.mem_append.mp hx with h | h
  · exact ⟨.submarine, h⟩
  · exact ⟨.chain, h⟩

/-- A sweep takes every entry of the symbol. -/
theorem pending_clear (hp : m.Placed cfg) :
    (m.clear symbol).pending cfg k + copies (m.values symbol) k = m.pending cfg k := by
  unfold pending
  rw [get_clear]
  split
  · rename_i hs
    rw [copies_nil, Nat.zero_add, values, copies_append, ← hs]
    have hother : ∀ t, ¬(k.type = .submarine ↔ t = .submarine) →
        copies (m.get t (cfg.chainCurrency k)) k = 0 := by
      intro t ht
      rw [copies_eq_zero]
      rintro x hx rfl
      exact ht (hp t _ x hx).1
    by_cases hk : k.type = .submarine
    · have h0 := hother .chain (by simp [hk])
      change _ + copies (m.get .chain _) k = _
      rw [h0, Nat.add_zero, hk]
      rfl
    · have h0 := hother .submarine (by simp [hk])
      change copies (m.get .submarine _) k + copies (m.get .chain _) k = _
      have hget : m.get .chain (cfg.chainCurrency k) = m.get k.type (cfg.chainCurrency k) :=
        get_congr (by simp [hk])
      rw [h0, Nat.zero_add, hget]
  · rename_i hs
    have h0 : copies (m.values symbol) k = 0 := by
      rw [copies_eq_zero]
      rintro x hx rfl
      obtain ⟨t, ht⟩ := mem_values hx
      exact hs (hp t symbol x ht).2
    rw [h0, Nat.add_zero]

end

end PendingMaps

end Boltz.ClaimBatches

import Boltz.Chain.Rescan

/-!
# Block and transaction notifications (`boltzr/src/swap/utxo_nursery.rs`)

The chain client forwards what the node publishes on two channels: one with the transactions of the
mempool and of new blocks, one with the heights of new blocks. The nursery checks transactions from
the first and stores the tip of the chain from the second; rescans send to the first and store a tip
at their end. A restarted process rescans from the tip that is stored.
-/

namespace Boltz

namespace TipTracking

open Rescan (asI32 sendRelevant)

inductive TxStatus where
  | confirmed
  | zeroConfSafe
  | notSafe
  deriving DecidableEq, Repr

structure RelevantTx where
  tx : ChainTransaction
  status : TxStatus
  deriving DecidableEq, Repr

/-- A message of the transaction channel. `height` is the block its transactions are from; the
nursery does not see it. -/
structure TxMessage where
  height : Nat
  txs : List ChainTransaction
  confirmed : Bool
  deriving DecidableEq, Repr

/-- A rescan that is going on: the blocks it did not go through yet, and its end height. -/
structure RescanTask where
  filters : ScanFilters
  remaining : List Nat
  endHeight : Nat
  deriving DecidableEq, Repr

/-- `filters` are the scripts of all swaps and the lockups of the server in the database, and
`forwarded` is what was sent on the channel of relevant transactions. -/
structure State where
  nodeHeight : Nat
  filters : ScanFilters := { inputs := [], outputs := [] }
  tip : Option Int := none
  forwarded : List RelevantTx := []
  up : Bool := false
  /-- A rescan from the stored tip was started since the process is up. -/
  rescanned : Bool := false
  zmqTxs : List ChainTransaction := []
  /-- New blocks, as the task for transactions and as the one for heights receives them. -/
  zmqBlocks : List Nat := []
  zmqHeights : List Nat := []
  txQueue : List TxMessage := []
  blockQueue : List Nat := []
  rescans : List RescanTask := []
  deriving DecidableEq, Repr

/-- The channels a receiver can lag behind on. -/
inductive Channel where
  | zmqTxs
  | zmqBlocks
  | zmqHeights
  | txQueue
  | blockQueue
  deriving DecidableEq, Repr

inductive Op where
  | mine (announced : Bool)
  | watch (added : ScanFilters)
  | announceTx (tx : ChainTransaction)
  | forwardTx (confirmed : Option Bool) (receivers : Bool)
  | forwardTxs (receivers : Bool)
  | forwardBlock (info receivers : Bool)
  | lag (channel : Channel) (skipped : Nat)
  | checkTx (db receivers : Bool) (safe : ChainTransaction → Bool) (sent : ChainTransaction → Bool)
  | checkTransaction (tx : ChainTransaction) (confirmed db receivers : Bool)
      (safe : ChainTransaction → Bool) (sent : ChainTransaction → Bool)
  | checkBlock (db : Bool)
  | startRescan (startHeight : Option Nat) (filters : ScanFilters) (info : Bool)
  | rescanBlock (task : Nat) (fetched : Bool) (sender : Nat → Bool)
  | finishRescan (task : Nat) (db : Bool)
  | crash
  | restart

/-- `height as u64`. -/
def asU64 (height : Int) : Nat := (height % 2 ^ 64).toNat

def ScanFilters.union (a b : ScanFilters) : ScanFilters :=
  { inputs := a.inputs ++ b.inputs, outputs := a.outputs ++ b.outputs }

def State.lag (s : State) (skipped : Nat) : Channel → State
  | .zmqTxs => { s with zmqTxs := s.zmqTxs.drop skipped }
  | .zmqBlocks => { s with zmqBlocks := s.zmqBlocks.drop skipped }
  | .zmqHeights => { s with zmqHeights := s.zmqHeights.drop skipped }
  | .txQueue => { s with txQueue := s.txQueue.drop skipped }
  | .blockQueue => { s with blockQueue := s.blockQueue.drop skipped }

/-- `check_tx` of the nursery: nothing is forwarded when the database fails or nobody listens. -/
def checkTx (filters : ScanFilters) (txs : List ChainTransaction) (confirmed db receivers : Bool)
    (safe sent : ChainTransaction → Bool) : List RelevantTx :=
  if db && receivers then
    ((txs.filter filters.isRelevantTx).filter sent).map fun tx =>
      { tx, status := if confirmed then .confirmed else if safe tx then .zeroConfSafe else .notSafe }
  else []

/-- The height a rescan starts at that is not told any, and `info` whether the node tells its own
height. -/
def State.defaultStart (s : State) (info : Bool) : Nat :=
  match s.tip with
  | some tip => asU64 tip
  | none => if info then s.nodeHeight else 0

section

variable (chain : Nat → List ChainTransaction)

def State.startRescan (s : State) (startHeight : Option Nat) (filters : ScanFilters) (info : Bool) :
    State :=
  let start := startHeight.getD (s.defaultStart info)
  if start ≤ s.nodeHeight then
    { s with
      rescanned := s.rescanned || startHeight.isNone
      rescans := s.rescans ++
        [{ filters, remaining := List.range' start (s.nodeHeight + 1 - start)
           endHeight := s.nodeHeight }] }
  else s

/-- The next block of a rescan, which the node does not give or that does not parse unless
`fetched`. -/
def State.rescanBlock (s : State) (i : Nat) (fetched : Bool) (sender : Nat → Bool) : State :=
  match s.rescans[i]? with
  | some task =>
    match task.remaining with
    | height :: remaining =>
      let sent := if fetched then (sendRelevant task.filters sender height (chain height) {}).sent
        else []
      { s with
        rescans := s.rescans.set i { task with remaining }
        txQueue := s.txQueue ++ sent.map fun tx => { height, txs := [tx], confirmed := true } }
    | [] => s
  | none => s

def State.finishRescan (s : State) (i : Nat) (db : Bool) : State :=
  match s.rescans[i]? with
  | some task =>
    if task.remaining = [] then
      { s with
        rescans := s.rescans.eraseIdx i
        tip := if db then some (asI32 task.endHeight) else s.tip }
    else s
  | none => s

/-- What each operation does; those of the process only happen while it is up. The heights of the
node are 32-bit integers. -/
def State.step (s : State) : Op → State
  | .mine announced =>
    if s.nodeHeight + 1 < 2 ^ 31 then
      if s.up && announced then
        { s with
          nodeHeight := s.nodeHeight + 1
          zmqBlocks := s.zmqBlocks ++ [s.nodeHeight + 1]
          zmqHeights := s.zmqHeights ++ [s.nodeHeight + 1] }
      else { s with nodeHeight := s.nodeHeight + 1 }
    else s
  | .watch added => { s with filters := ScanFilters.union s.filters added }
  | .crash =>
    { s with
      up := false, rescanned := false, zmqTxs := [], zmqBlocks := [], zmqHeights := [], txQueue := []
      blockQueue := [], rescans := [] }
  | .restart => { s with up := true }
  | .announceTx tx => if s.up then { s with zmqTxs := s.zmqTxs ++ [tx] } else s
  | .forwardTx confirmed receivers =>
    match s.zmqTxs with
    | tx :: zmqTxs =>
      if receivers && confirmed = some false then
        { s with
          zmqTxs := zmqTxs
          txQueue := s.txQueue ++ [{ height := 0, txs := [tx], confirmed := false }] }
      else { s with zmqTxs := zmqTxs }
    | [] => s
  | .forwardTxs receivers =>
    match s.zmqBlocks with
    | height :: zmqBlocks =>
      if receivers then
        { s with
          zmqBlocks := zmqBlocks
          txQueue := s.txQueue ++ [{ height, txs := chain height, confirmed := true }] }
      else { s with zmqBlocks := zmqBlocks }
    | [] => s
  | .forwardBlock info receivers =>
    match s.zmqHeights with
    | height :: zmqHeights =>
      if receivers && info then
        { s with zmqHeights := zmqHeights, blockQueue := s.blockQueue ++ [height] }
      else { s with zmqHeights := zmqHeights }
    | [] => s
  | .lag channel skipped => s.lag skipped channel
  | .checkTx db receivers safe sent =>
    match s.txQueue with
    | message :: txQueue =>
      { s with
        txQueue := txQueue
        forwarded := s.forwarded ++
          TipTracking.checkTx s.filters message.txs message.confirmed db receivers safe sent }
    | [] => s
  | .checkTransaction tx confirmed db receivers safe sent =>
    if s.up then
      { s with
        forwarded := s.forwarded ++
          TipTracking.checkTx s.filters [tx] confirmed db receivers safe sent }
    else s
  | .checkBlock db =>
    match s.blockQueue with
    | height :: blockQueue =>
      { s with blockQueue := blockQueue, tip := if db then some (asI32 height) else s.tip }
    | [] => s
  | .startRescan startHeight filters info =>
    if s.up then s.startRescan startHeight filters info else s
  | .rescanBlock task fetched sender => s.rescanBlock chain task fetched sender
  | .finishRescan task db => s.finishRescan task db

/-- The states of a service that starts on a chain of some height, with no swaps and no tip, in
runs whose steps all meet `policy`. -/
inductive Reaches (policy : State → Op → Prop) : State → Prop where
  | init {nodeHeight : Nat} (h : nodeHeight < 2 ^ 31) : Reaches policy { nodeHeight }
  | step {s : State} (op : Op) (h : Reaches policy s) (hp : policy s op) :
      Reaches policy (s.step chain op)

/-! ## The stored tip and the transactions below it -/

def State.Forwarded (s : State) (tx : ChainTransaction) : Prop :=
  ∃ relevant ∈ s.forwarded, relevant.tx = tx

/-- The relevant transactions of all blocks below the stored tip were forwarded. -/
def State.TipProcessed (s : State) : Prop :=
  ∀ tip, s.tip = some tip → ∀ height : Nat, (height : Int) < tip → ∀ tx ∈ chain height,
    s.filters.isRelevantTx tx = true → s.Forwarded tx

/-- A transaction of `txs` is relevant. -/
def State.Matters (s : State) (txs : List ChainTransaction) : Prop :=
  ∃ tx ∈ txs, s.filters.isRelevantTx tx = true

/-- A block is on its way to the nursery: it was not taken from the node's messages yet, some of its
transactions are in the channel, or a rescan has not come to it. -/
def State.Waiting (s : State) (height : Nat) : Prop :=
  height ∈ s.zmqBlocks ∨ (∃ message ∈ s.txQueue, message.confirmed = true ∧
    message.height = height) ∨ ∃ task ∈ s.rescans, height ∈ task.remaining

/-- The rescan from the stored tip was started, and no lower block with relevant transactions is
still on its way. -/
def State.Settled (s : State) (height : Nat) : Prop :=
  s.rescanned = true ∧ ∀ k < height, s.Waiting k → ¬s.Matters (chain k)

/-- Heights are stored only when they are settled, and from the rescan on no transactions of a
block are lost on the way to the channel of relevant transactions. -/
def Orderly (s : State) : Op → Prop
  | .mine announced =>
    s.rescanned = true → announced = false → ¬s.Matters (chain (s.nodeHeight + 1))
  | .watch added => ∀ k ≤ s.nodeHeight, ∀ tx ∈ chain k, added.isRelevantTx tx = true →
    s.filters.isRelevantTx tx = true
  | .forwardTxs receivers => s.rescanned = true → receivers = false →
    ∀ k ∈ s.zmqBlocks.head?, ¬s.Matters (chain k)
  | .lag channel skipped => s.rescanned = true →
    (channel = .zmqBlocks → ∀ k ∈ s.zmqBlocks.take skipped, ¬s.Matters (chain k)) ∧
    (channel = .txQueue → ∀ message ∈ s.txQueue.take skipped, message.confirmed = true →
      ¬s.Matters message.txs)
  | .checkTx db receivers _ sent => s.rescanned = true →
    ∀ message ∈ s.txQueue.head?, message.confirmed = true → s.Matters message.txs →
      db = true ∧ receivers = true ∧
        ∀ tx ∈ message.txs, s.filters.isRelevantTx tx = true → sent tx = true
  | .checkBlock db => db = true → ∀ height ∈ s.blockQueue.head?, s.Settled chain height
  | .startRescan startHeight filters info => startHeight = none → s.rescanned = false →
    (s.tip = none → info = true → ∀ k < s.nodeHeight, ¬s.Matters (chain k)) ∧
    ∀ k ≤ s.nodeHeight, s.defaultStart info ≤ k → ∀ tx ∈ chain k,
      s.filters.isRelevantTx tx = true → filters.isRelevantTx tx = true
  | .rescanBlock i fetched sender => s.rescanned = true →
    ∀ task ∈ s.rescans[i]?, ∀ height ∈ task.remaining.head?, s.Matters (chain height) →
      fetched = true ∧
        ∀ n < ((chain height).filter task.filters.isRelevantTx).length, sender n = true
  | .finishRescan i db => db = true → ∀ task ∈ s.rescans[i]?, task.remaining = [] →
    s.Settled chain task.endHeight
  | .announceTx _ | .forwardTx .. | .forwardBlock .. | .checkTransaction .. | .crash | .restart =>
    True

/-! ## What is on its way -/

/-- Where a transaction of a block is as long as it was not forwarded. -/
def State.Pending (s : State) (height : Nat) (tx : ChainTransaction) : Prop :=
  height ∈ s.zmqBlocks ∨
  (∃ message ∈ s.txQueue, message.confirmed = true ∧ message.height = height ∧
    tx ∈ message.txs) ∨
  ∃ task ∈ s.rescans, height ∈ task.remaining ∧ task.filters.isRelevantTx tx = true

structure Inv (s : State) : Prop where
  nodeHeight : s.nodeHeight < 2 ^ 31
  up : s.rescanned = true → s.up = true
  tip : ∀ tip, s.tip = some tip → 0 ≤ tip ∧ tip ≤ s.nodeHeight
  zmqHeights : ∀ height ∈ s.zmqHeights, height ≤ s.nodeHeight
  blockQueue : ∀ height ∈ s.blockQueue, height ≤ s.nodeHeight
  rescans : ∀ task ∈ s.rescans, task.endHeight ≤ s.nodeHeight
  processed : s.TipProcessed chain
  covered : s.rescanned = true → ∀ k ≤ s.nodeHeight, ∀ tx ∈ chain k,
    s.filters.isRelevantTx tx = true → s.Forwarded tx ∨ s.Pending k tx

/-- Steps that store no tip and lose nothing. -/
structure Keeps (s s' : State) : Prop where
  nodeHeight : s'.nodeHeight = s.nodeHeight
  filters : s'.filters = s.filters
  tip : s'.tip = s.tip
  up : s'.up = s.up
  rescanned : s'.rescanned = s.rescanned
  forwarded : ∀ relevant ∈ s.forwarded, relevant ∈ s'.forwarded
  zmqHeights : ∀ height ∈ s'.zmqHeights, height ≤ s.nodeHeight
  blockQueue : ∀ height ∈ s'.blockQueue, height ≤ s.nodeHeight
  rescans : ∀ task ∈ s'.rescans, task.endHeight ≤ s.nodeHeight
  pending : s.rescanned = true → ∀ k, ∀ tx ∈ chain k, s.filters.isRelevantTx tx = true →
    s.Pending k tx → s'.Forwarded tx ∨ s'.Pending k tx

variable {chain} {s s' : State}

theorem State.Forwarded.mono {tx : ChainTransaction}
    (h : ∀ relevant ∈ s.forwarded, relevant ∈ s'.forwarded) (hf : s.Forwarded tx) :
    s'.Forwarded tx := by
  obtain ⟨relevant, hmem, htx⟩ := hf
  exact ⟨relevant, h relevant hmem, htx⟩

theorem Inv.of_keeps (hinv : Inv chain s) (hk : Keeps chain s s') : Inv chain s' where
  nodeHeight := hk.nodeHeight ▸ hinv.nodeHeight
  up h := by rw [hk.up]; exact hinv.up (hk.rescanned ▸ h)
  tip tip h := by rw [hk.nodeHeight]; exact hinv.tip tip (hk.tip ▸ h)
  zmqHeights h hmem := by rw [hk.nodeHeight]; exact hk.zmqHeights h hmem
  blockQueue h hmem := by rw [hk.nodeHeight]; exact hk.blockQueue h hmem
  rescans task hmem := by rw [hk.nodeHeight]; exact hk.rescans task hmem
  processed tip h k hlt tx hmem hrel :=
    (hinv.processed tip (hk.tip ▸ h) k hlt tx hmem (hk.filters ▸ hrel)).mono hk.forwarded
  covered h k hle tx hmem hrel := by
    rw [hk.rescanned] at h
    rw [hk.nodeHeight] at hle
    rw [hk.filters] at hrel
    rcases hinv.covered h k hle tx hmem hrel with hf | hp
    · exact .inl (hf.mono hk.forwarded)
    · exact hk.pending h k tx hmem hrel hp

/-- A settled height can be stored: what is not forwarded below it would be on its way. -/
theorem Inv.storeTip (hinv : Inv chain s) {height : Nat} (hle : height ≤ s.nodeHeight)
    (hset : s.Settled chain height) : Inv chain { s with tip := some (asI32 height) } := by
  have hheight : asI32 height = height :=
    Rescan.asI32_of_lt (Nat.lt_of_le_of_lt hle hinv.nodeHeight)
  refine ⟨hinv.nodeHeight, hinv.up, ?_, hinv.zmqHeights, hinv.blockQueue, hinv.rescans, ?_,
    hinv.covered⟩
  · intro tip htip
    obtain rfl := Option.some.inj htip
    simp only [hheight]
    omega
  · intro tip htip k hlt tx hmem hrel
    obtain rfl := Option.some.inj htip
    rw [hheight] at hlt
    have hk : k < height := by omega
    rcases hinv.covered hset.1 k (by omega) tx hmem hrel with hf | hp
    · exact hf
    · refine absurd ⟨tx, hmem, hrel⟩ (hset.2 k hk ?_)
      rcases hp with hp | ⟨message, hm, hc, hh, -⟩ | ⟨task, ht, hr, -⟩
      · exact .inl hp
      · exact .inr (.inl ⟨message, hm, hc, hh⟩)
      · exact .inr (.inr ⟨task, ht, hr⟩)

theorem Inv.keeps_self (hinv : Inv chain s) : Keeps chain s s where
  nodeHeight := rfl
  filters := rfl
  tip := rfl
  up := rfl
  rescanned := rfl
  forwarded _ h := h
  zmqHeights := hinv.zmqHeights
  blockQueue := hinv.blockQueue
  rescans := hinv.rescans
  pending _ _ _ _ _ hp := .inr hp

theorem State.Pending.mono {height : Nat} {tx : ChainTransaction} (hp : s.Pending height tx)
    (hblocks : ∀ k ∈ s.zmqBlocks, k ∈ s'.zmqBlocks)
    (htxs : ∀ message ∈ s.txQueue, message ∈ s'.txQueue)
    (hrescans : ∀ task ∈ s.rescans, task ∈ s'.rescans) : s'.Pending height tx := by
  rcases hp with hp | ⟨message, hm, hc⟩ | ⟨task, ht, hr⟩
  · exact .inl (hblocks height hp)
  · exact .inr (.inl ⟨message, htxs message hm, hc⟩)
  · exact .inr (.inr ⟨task, hrescans task ht, hr⟩)

/-! ## The steps of the chain client -/

theorem isRelevantTx_union (a b : ScanFilters) (tx : ChainTransaction) :
    (ScanFilters.union a b).isRelevantTx tx = (a.isRelevantTx tx || b.isRelevantTx tx) := by
  rw [Bool.eq_iff_iff]
  simp only [ScanFilters.union, ScanFilters.isRelevantTx, Bool.or_eq_true, List.any_eq_true,
    List.contains_iff_mem, List.mem_append]
  constructor
  · rintro (⟨o, ho, h | h⟩ | ⟨o, ho, h | h⟩)
    · exact .inl (.inl ⟨o, ho, h⟩)
    · exact .inr (.inl ⟨o, ho, h⟩)
    · exact .inl (.inr ⟨o, ho, h⟩)
    · exact .inr (.inr ⟨o, ho, h⟩)
  · rintro ((⟨o, ho, h⟩ | ⟨o, ho, h⟩) | (⟨o, ho, h⟩ | ⟨o, ho, h⟩))
    · exact .inl ⟨o, ho, .inl h⟩
    · exact .inr ⟨o, ho, .inl h⟩
    · exact .inl ⟨o, ho, .inr h⟩
    · exact .inr ⟨o, ho, .inr h⟩

theorem inv_mine (hinv : Inv chain s) (announced : Bool)
    (hp : Orderly chain s (.mine announced)) : Inv chain (s.step chain (.mine announced)) := by
  simp only [State.step]
  by_cases hlt : s.nodeHeight + 1 < 2 ^ 31
  · rw [if_pos hlt]
    have hprocessed : s.TipProcessed chain := hinv.processed
    by_cases hup : (s.up && announced) = true
    · rw [if_pos hup]
      refine ⟨hlt, hinv.up, fun tip h => ?_, fun k hk => ?_, fun k hk => ?_, fun task hmem => ?_,
        hprocessed, fun h k hle tx hmem hrel => ?_⟩
      · have := hinv.tip tip h
        push_cast
        omega
      · rcases List.mem_append.mp hk with hk | hk
        · have := hinv.zmqHeights k hk
          simp only
          omega
        · obtain rfl := List.mem_singleton.mp hk
          exact Nat.le_refl _
      · have := hinv.blockQueue k hk
        simp only
        omega
      · have := hinv.rescans task hmem
        simp only
        omega
      · by_cases hk : k = s.nodeHeight + 1
        · exact .inr (.inl (List.mem_append_right _ (List.mem_singleton.mpr hk)))
        · have hle' : k ≤ s.nodeHeight := by
            simp only at hle
            omega
          rcases hinv.covered h k hle' tx hmem hrel with hf | hpend
          · exact .inl hf
          · exact .inr (hpend.mono (fun k hk => List.mem_append_left _ hk) (fun _ h => h)
              fun _ h => h)
    · rw [if_neg hup]
      refine ⟨hlt, hinv.up, fun tip h => ?_, fun k hk => ?_, fun k hk => ?_, fun task hmem => ?_,
        hprocessed, fun h k hle tx hmem hrel => ?_⟩
      · have := hinv.tip tip h
        push_cast
        omega
      · exact Nat.le_succ_of_le (hinv.zmqHeights k hk)
      · exact Nat.le_succ_of_le (hinv.blockQueue k hk)
      · exact Nat.le_succ_of_le (hinv.rescans task hmem)
      · by_cases hk : k = s.nodeHeight + 1
        · -- a process that is up was not told about the block
          subst hk
          have hannounced : announced = false := by
            rw [hinv.up h, Bool.true_and] at hup
            exact Bool.eq_false_iff.mpr hup
          exact absurd ⟨tx, hmem, hrel⟩ (hp h hannounced)
        · have hle' : k ≤ s.nodeHeight := by
            simp only at hle
            omega
          exact hinv.covered h k hle' tx hmem hrel
  · rw [if_neg hlt]
    exact hinv

theorem inv_watch (hinv : Inv chain s) (added : ScanFilters)
    (hp : Orderly chain s (.watch added)) : Inv chain (s.step chain (.watch added)) := by
  have hrel : ∀ k ≤ s.nodeHeight, ∀ tx ∈ chain k,
      (ScanFilters.union s.filters added).isRelevantTx tx = true →
        s.filters.isRelevantTx tx = true := by
    intro k hk tx hmem h
    rw [isRelevantTx_union, Bool.or_eq_true] at h
    exact h.elim id (hp k hk tx hmem)
  refine ⟨hinv.nodeHeight, hinv.up, hinv.tip, hinv.zmqHeights, hinv.blockQueue, hinv.rescans,
    fun tip h k hlt tx hmem h' => ?_, fun h k hle tx hmem h' => ?_⟩
  · have hle := (hinv.tip tip h).2
    exact hinv.processed tip h k hlt tx hmem (hrel k (by omega) tx hmem h')
  · exact hinv.covered h k hle tx hmem (hrel k hle tx hmem h')

theorem keeps_forwardTx (hinv : Inv chain s) (confirmed : Option Bool) (receivers : Bool) :
    Keeps chain s (s.step chain (.forwardTx confirmed receivers)) := by
  simp only [State.step]
  cases s.zmqTxs with
  | nil => exact hinv.keeps_self
  | cons tx zmqTxs =>
    simp only
    split
    · exact { hinv.keeps_self with
        pending := fun _ _ _ _ _ hpend => .inr (hpend.mono (fun _ h => h)
          (fun _ h => List.mem_append_left _ h) fun _ h => h) }
    · exact { hinv.keeps_self with }

theorem keeps_forwardTxs (hinv : Inv chain s) (receivers : Bool)
    (hp : Orderly chain s (.forwardTxs receivers)) :
    Keeps chain s (s.step chain (.forwardTxs receivers)) := by
  simp only [State.step]
  simp only [Orderly] at hp
  cases hblocks : s.zmqBlocks with
  | nil => exact hinv.keeps_self
  | cons height zmqBlocks =>
    simp only
    by_cases hreceivers : receivers = true
    · rw [if_pos hreceivers]
      refine { hinv.keeps_self with pending := fun _ k tx hmem _ hpend => .inr ?_ }
      rcases hpend with hpend | ⟨message, hm, hc⟩ | hpend
      · rw [hblocks] at hpend
        rcases List.mem_cons.mp hpend with rfl | hpend
        · exact .inr (.inl ⟨_, List.mem_append_right _ (List.mem_singleton.mpr rfl), rfl, rfl, hmem⟩)
        · exact .inl hpend
      · exact .inr (.inl ⟨message, List.mem_append_left _ hm, hc⟩)
      · exact .inr (.inr hpend)
    · rw [if_neg hreceivers]
      refine { hinv.keeps_self with pending := fun h k tx hmem hrel hpend => .inr ?_ }
      rcases hpend with hpend | hpend | hpend
      · rw [hblocks] at hpend
        rcases List.mem_cons.mp hpend with rfl | hpend
        · refine absurd ⟨tx, hmem, hrel⟩ (hp h (Bool.eq_false_iff.mpr hreceivers) k ?_)
          rw [hblocks]
          rfl
        · exact .inl hpend
      · exact .inr (.inl hpend)
      · exact .inr (.inr hpend)

theorem keeps_forwardBlock (hinv : Inv chain s) (info receivers : Bool) :
    Keeps chain s (s.step chain (.forwardBlock info receivers)) := by
  have hheights := hinv.zmqHeights
  simp only [State.step]
  cases hzmq : s.zmqHeights with
  | nil => exact hinv.keeps_self
  | cons height zmqHeights =>
    rw [hzmq] at hheights
    simp only
    split
    · refine { hinv.keeps_self with
        zmqHeights := fun k hk => hheights k (List.mem_cons_of_mem _ hk)
        blockQueue := fun k hk => ?_ }
      rcases List.mem_append.mp hk with hk | hk
      · exact hinv.blockQueue k hk
      · obtain rfl := List.mem_singleton.mp hk
        exact hheights _ (List.mem_cons_self ..)
    · exact { hinv.keeps_self with
        zmqHeights := fun k hk => hheights k (List.mem_cons_of_mem _ hk) }

/-- What a receiver that lags behind does not see is the front of its channel. -/
theorem keeps_lag (hinv : Inv chain s) (channel : Channel) (skipped : Nat)
    (hp : Orderly chain s (.lag channel skipped)) :
    Keeps chain s (s.step chain (.lag channel skipped)) := by
  simp only [State.step]
  simp only [Orderly] at hp
  cases channel with
  | zmqTxs => exact { hinv.keeps_self with }
  | zmqBlocks =>
    refine { hinv.keeps_self with pending := fun h k tx hmem hrel hpend => .inr ?_ }
    rcases hpend with hpend | hpend | hpend
    · rw [← List.take_append_drop skipped s.zmqBlocks] at hpend
      rcases List.mem_append.mp hpend with hpend | hpend
      · exact absurd ⟨tx, hmem, hrel⟩ ((hp h).1 rfl k hpend)
      · exact .inl hpend
    · exact .inr (.inl hpend)
    · exact .inr (.inr hpend)
  | zmqHeights =>
    exact { hinv.keeps_self with
      zmqHeights := fun k hk => hinv.zmqHeights k (List.mem_of_mem_drop hk) }
  | txQueue =>
    refine { hinv.keeps_self with pending := fun h k tx hmem hrel hpend => .inr ?_ }
    rcases hpend with hpend | ⟨message, hm, hc, hh, htx⟩ | hpend
    · exact .inl hpend
    · rw [← List.take_append_drop skipped s.txQueue] at hm
      rcases List.mem_append.mp hm with hm | hm
      · exact absurd ⟨tx, htx, hrel⟩ ((hp h).2 rfl message hm hc)
      · exact .inr (.inl ⟨message, hm, hc, hh, htx⟩)
    · exact .inr (.inr hpend)
  | blockQueue =>
    exact { hinv.keeps_self with
      blockQueue := fun k hk => hinv.blockQueue k (List.mem_of_mem_drop hk) }

/-! ## The steps of the nursery -/

theorem mem_checkTx {filters : ScanFilters} {txs : List ChainTransaction} {confirmed : Bool}
    {safe sent : ChainTransaction → Bool} {tx : ChainTransaction} (hmem : tx ∈ txs)
    (hrel : filters.isRelevantTx tx = true) (hsent : sent tx = true) :
    ∃ relevant ∈ checkTx filters txs confirmed true true safe sent, relevant.tx = tx := by
  unfold checkTx
  rw [Bool.and_true, if_pos rfl]
  refine ⟨_, List.mem_map.mpr ⟨tx, ?_, rfl⟩, rfl⟩
  exact List.mem_filter.mpr ⟨List.mem_filter.mpr ⟨hmem, hrel⟩, hsent⟩

theorem keeps_checkTx (hinv : Inv chain s) (db receivers : Bool)
    (safe sent : ChainTransaction → Bool)
    (hp : Orderly chain s (.checkTx db receivers safe sent)) :
    Keeps chain s (s.step chain (.checkTx db receivers safe sent)) := by
  simp only [State.step]
  simp only [Orderly] at hp
  cases hqueue : s.txQueue with
  | nil => exact hinv.keeps_self
  | cons message txQueue =>
    simp only
    refine { hinv.keeps_self with
      forwarded := fun _ h => List.mem_append_left _ h
      pending := fun h k tx hmem hrel hpend => ?_ }
    rcases hpend with hpend | ⟨m, hm, hc, hh, htx⟩ | hpend
    · exact .inr (.inl hpend)
    · rw [hqueue] at hm
      rcases List.mem_cons.mp hm with rfl | hm
      · -- the message that is taken: its transaction is sent
        have hhead : m ∈ s.txQueue.head? := by
          rw [hqueue]
          rfl
        obtain ⟨rfl, rfl, hsent⟩ := hp h m hhead hc ⟨tx, htx, hrel⟩
        obtain ⟨relevant, hrelevant, heq⟩ := mem_checkTx htx hrel (hsent tx htx hrel)
        exact .inl ⟨relevant, List.mem_append_right _ hrelevant, heq⟩
      · exact .inr (.inr (.inl ⟨m, hm, hc, hh, htx⟩))
    · exact .inr (.inr (.inr hpend))

theorem keeps_checkTransaction (hinv : Inv chain s) (tx : ChainTransaction)
    (confirmed db receivers : Bool) (safe sent : ChainTransaction → Bool) :
    Keeps chain s (s.step chain (.checkTransaction tx confirmed db receivers safe sent)) := by
  simp only [State.step]
  split
  · exact { hinv.keeps_self with
      forwarded := fun _ h => List.mem_append_left _ h
      pending := fun _ _ _ _ _ hpend => .inr hpend }
  · exact hinv.keeps_self

theorem inv_checkBlock (hinv : Inv chain s) (db : Bool) (hp : Orderly chain s (.checkBlock db)) :
    Inv chain (s.step chain (.checkBlock db)) := by
  simp only [State.step]
  simp only [Orderly] at hp
  cases hqueue : s.blockQueue with
  | nil => exact hinv
  | cons height blockQueue =>
    have hle : ∀ k ∈ height :: blockQueue, k ≤ s.nodeHeight := hqueue ▸ hinv.blockQueue
    have hrest : ∀ k ∈ blockQueue, k ≤ s.nodeHeight := fun k hk =>
      hle k (List.mem_cons_of_mem _ hk)
    cases db with
    | false => exact hinv.of_keeps { hinv.keeps_self with blockQueue := hrest }
    | true =>
      have hset : s.Settled chain height := hp rfl height (by rw [hqueue]; rfl)
      have hstored := hinv.storeTip (hle height (List.mem_cons_self ..)) hset
      exact hstored.of_keeps { hstored.keeps_self with blockQueue := hrest }

/-! ## The steps of rescans -/

theorem asU64_natCast {height : Nat} (h : height < 2 ^ 31) : asU64 height = height := by
  unfold asU64
  omega

/-- The default start is not above the height of the chain, and what is below it was forwarded. -/
theorem forwarded_of_lt_defaultStart (hinv : Inv chain s) {info : Bool}
    (hnone : s.tip = none → info = true → ∀ k < s.nodeHeight, ¬s.Matters (chain k)) {k : Nat}
    (hk : k < s.defaultStart info) {tx : ChainTransaction} (hmem : tx ∈ chain k)
    (hrel : s.filters.isRelevantTx tx = true) : s.Forwarded tx := by
  unfold State.defaultStart at hk
  cases htip : s.tip with
  | none =>
    rw [htip] at hk
    cases info with
    | false => exact absurd hk (Nat.not_lt_zero k)
    | true => exact absurd ⟨tx, hmem, hrel⟩ (hnone htip rfl k hk)
  | some tip =>
    rw [htip] at hk
    have hbounds := hinv.tip tip htip
    have hnode := hinv.nodeHeight
    obtain ⟨n, rfl⟩ := Int.eq_ofNat_of_zero_le hbounds.1
    change k < asU64 n at hk
    rw [asU64_natCast (by omega)] at hk
    exact hinv.processed n htip k (by omega) tx hmem hrel

theorem inv_startRescan (hinv : Inv chain s) (startHeight : Option Nat) (filters : ScanFilters)
    (info : Bool) (hp : Orderly chain s (.startRescan startHeight filters info)) :
    Inv chain (s.step chain (.startRescan startHeight filters info)) := by
  simp only [State.step]
  by_cases hup : s.up = true
  · rw [if_pos hup]
    unfold State.startRescan
    simp only
    by_cases hle : startHeight.getD (s.defaultStart info) ≤ s.nodeHeight
    · rw [if_pos hle]
      refine ⟨hinv.nodeHeight, fun _ => hup, hinv.tip, hinv.zmqHeights, hinv.blockQueue,
        fun task ht => ?_, hinv.processed, fun h k hk tx hmem hrel => ?_⟩
      · rcases List.mem_append.mp ht with ht | ht
        · exact hinv.rescans task ht
        · obtain rfl := List.mem_singleton.mp ht
          exact Nat.le_refl _
      · cases hres : s.rescanned with
        | true =>
          rcases hinv.covered hres k hk tx hmem hrel with hf | hpend
          · exact .inl hf
          · exact .inr (hpend.mono (fun _ h => h) (fun _ h => h)
              fun _ h => List.mem_append_left _ h)
        | false =>
          -- the first rescan: what is not below its start is one of its blocks
          cases startHeight with
          | some start => simp [hres] at h
          | none =>
            obtain ⟨hnone, hfilters⟩ := hp rfl hres
            by_cases hlt : k < s.defaultStart info
            · exact .inl (forwarded_of_lt_defaultStart hinv hnone hlt hmem hrel)
            · have hstart : s.defaultStart info ≤ k := Nat.le_of_not_lt hlt
              have hk' : k ≤ s.nodeHeight := hk
              refine .inr (.inr (.inr ⟨_, List.mem_append_right _ (List.mem_singleton.mpr rfl),
                ?_, hfilters k hk hstart tx hmem hrel⟩))
              rw [Option.getD_none, List.mem_range'_1]
              omega
    · rw [if_neg hle]
      exact hinv
  · rw [if_neg hup]
    exact hinv

theorem mem_set_or {l : List RescanTask} {i : Nat} {task : RescanTask} (task' : RescanTask)
    (hget : l[i]? = some task) {t : RescanTask} (ht : t ∈ l) : t = task ∨ t ∈ l.set i task' := by
  obtain ⟨j, hj⟩ := List.mem_iff_getElem?.mp ht
  by_cases hij : i = j
  · subst hij
    exact .inl (Option.some.inj (hj.symm.trans hget))
  · refine .inr (List.mem_iff_getElem?.mpr ⟨j, ?_⟩)
    rw [List.getElem?_set_ne hij, hj]

theorem mem_eraseIdx_or {l : List RescanTask} {i : Nat} {task : RescanTask}
    (hget : l[i]? = some task) {t : RescanTask} (ht : t ∈ l) : t = task ∨ t ∈ l.eraseIdx i := by
  obtain ⟨j, hj⟩ := List.mem_iff_getElem?.mp ht
  by_cases hij : j = i
  · subst hij
    exact .inl (Option.some.inj (hj.symm.trans hget))
  · exact .inr (List.mem_eraseIdx_iff_getElem?.mpr ⟨j, hij, hj⟩)

theorem keeps_rescanBlock (hinv : Inv chain s) (i : Nat) (fetched : Bool) (sender : Nat → Bool)
    (hp : Orderly chain s (.rescanBlock i fetched sender)) :
    Keeps chain s (s.step chain (.rescanBlock i fetched sender)) := by
  simp only [State.step, State.rescanBlock]
  simp only [Orderly] at hp
  cases htask : s.rescans[i]? with
  | none => exact hinv.keeps_self
  | some task =>
    have hin : task ∈ s.rescans := List.mem_of_getElem? htask
    simp only
    cases hremaining : task.remaining with
    | nil => exact hinv.keeps_self
    | cons height remaining =>
      simp only
      refine { hinv.keeps_self with
        rescans := fun t ht => ?_
        pending := fun h k tx hmem hrel hpend => .inr ?_ }
      · rcases List.mem_or_eq_of_mem_set ht with ht | rfl
        · exact hinv.rescans t ht
        · exact hinv.rescans task hin
      · rcases hpend with hpend | ⟨m, hm, hc⟩ | ⟨t, ht, hk, htx⟩
        · exact .inl hpend
        · exact .inr (.inl ⟨m, List.mem_append_left _ hm, hc⟩)
        · rcases mem_set_or { task with remaining } htask ht with rfl | ht
          · rw [hremaining] at hk
            rcases List.mem_cons.mp hk with rfl | hk
            · -- the block that the rescan goes through: its transactions are sent
              obtain ⟨rfl, hsends⟩ := hp h t htask k (by rw [hremaining]; rfl) ⟨tx, hmem, hrel⟩
              have hsent : tx ∈ (sendRelevant t.filters sender k (chain k) {}).sent := by
                rcases Rescan.sendRelevant_cases t.filters sender k (chain k) {} with
                  ⟨-, hall⟩ | ⟨-, n, hn, hfailed⟩
                · rw [hall]
                  exact List.mem_append_right _ (List.mem_filter.mpr ⟨hmem, htx⟩)
                · rw [Nat.zero_add, hsends n hn] at hfailed
                  cases hfailed
              refine .inr (.inl ⟨_, List.mem_append_right _ (List.mem_map.mpr ⟨tx, ?_, rfl⟩), rfl,
                rfl, List.mem_singleton.mpr rfl⟩)
              rw [if_pos rfl]
              exact hsent
            · have hlt : i < s.rescans.length := by
                rw [List.getElem?_eq_some_iff] at htask
                exact htask.1
              exact .inr (.inr ⟨_, List.mem_set hlt { t with remaining }, hk, htx⟩)
          · exact .inr (.inr ⟨t, ht, hk, htx⟩)

theorem inv_finishRescan (hinv : Inv chain s) (i : Nat) (db : Bool)
    (hp : Orderly chain s (.finishRescan i db)) :
    Inv chain (s.step chain (.finishRescan i db)) := by
  simp only [State.step, State.finishRescan]
  simp only [Orderly] at hp
  cases htask : s.rescans[i]? with
  | none => exact hinv
  | some task =>
    have hin : task ∈ s.rescans := List.mem_of_getElem? htask
    simp only
    by_cases hremaining : task.remaining = []
    · rw [if_pos hremaining]
      have herase : ∀ {s' : State}, Inv chain s' → s'.rescans = s.rescans →
          Inv chain { s' with rescans := s.rescans.eraseIdx i } := by
        intro s' hinv' hsame
        refine hinv'.of_keeps { hinv'.keeps_self with
          rescans := fun t ht => hinv'.rescans t (hsame ▸ List.mem_of_mem_eraseIdx ht)
          pending := fun _ k tx _ _ hpend => .inr ?_ }
        rcases hpend with hpend | hpend | ⟨t, ht, hk, htx⟩
        · exact .inl hpend
        · exact .inr (.inl hpend)
        · rw [hsame] at ht
          rcases mem_eraseIdx_or htask ht with rfl | ht
          · rw [hremaining] at hk
            exact absurd hk (List.not_mem_nil)
          · exact .inr (.inr ⟨t, ht, hk, htx⟩)
      cases db with
      | false => exact herase hinv rfl
      | true =>
        have hset := hp rfl task htask hremaining
        exact herase (hinv.storeTip (hinv.rescans task hin) hset) rfl
    · rw [if_neg hremaining]
      exact hinv

/-! ## All runs -/

theorem inv_crash (hinv : Inv chain s) : Inv chain (s.step chain .crash) where
  nodeHeight := hinv.nodeHeight
  up h := nomatch h
  tip := hinv.tip
  zmqHeights _ h := nomatch h
  blockQueue _ h := nomatch h
  rescans _ h := nomatch h
  processed := hinv.processed
  covered h := nomatch h

theorem inv_step (hinv : Inv chain s) (op : Op) (hp : Orderly chain s op) :
    Inv chain (s.step chain op) := by
  cases op with
  | mine announced => exact inv_mine hinv announced hp
  | watch added => exact inv_watch hinv added hp
  | announceTx tx =>
    simp only [State.step]
    split
    · exact hinv.of_keeps { hinv.keeps_self with }
    · exact hinv
  | forwardTx confirmed receivers => exact hinv.of_keeps (keeps_forwardTx hinv confirmed receivers)
  | forwardTxs receivers => exact hinv.of_keeps (keeps_forwardTxs hinv receivers hp)
  | forwardBlock info receivers => exact hinv.of_keeps (keeps_forwardBlock hinv info receivers)
  | lag channel skipped => exact hinv.of_keeps (keeps_lag hinv channel skipped hp)
  | checkTx db receivers safe sent =>
    exact hinv.of_keeps (keeps_checkTx hinv db receivers safe sent hp)
  | checkTransaction tx confirmed db receivers safe sent =>
    exact hinv.of_keeps (keeps_checkTransaction hinv tx confirmed db receivers safe sent)
  | checkBlock db => exact inv_checkBlock hinv db hp
  | startRescan startHeight filters info => exact inv_startRescan hinv startHeight filters info hp
  | rescanBlock task fetched sender =>
    exact hinv.of_keeps (keeps_rescanBlock hinv task fetched sender hp)
  | finishRescan task db => exact inv_finishRescan hinv task db hp
  | crash => exact inv_crash hinv
  | restart => exact { hinv with up := fun _ => rfl }

theorem inv_of_reaches (h : Reaches chain (Orderly chain) s) : Inv chain s := by
  induction h with
  | init hlt =>
    exact ⟨hlt, fun h => (nomatch h), fun _ h => (nomatch h), fun _ h => (nomatch h),
      fun _ h => (nomatch h), fun _ h => (nomatch h), fun _ h => (nomatch h), fun h => (nomatch h)⟩
  | step op _ hp hinv => exact inv_step hinv op hp

/-- The stored tip is not ahead of the forwarded transactions in every run in which heights are
stored only when they are settled and no transactions of a block are lost. -/
theorem tipProcessed_of_orderly (h : Reaches chain (Orderly chain) s) : s.TipProcessed chain :=
  (inv_of_reaches h).processed

end

/-! ## Two blocks after a rescan -/

section

variable (chain : Nat → List ChainTransaction)

def State.run (s : State) : List Op → State
  | [] => s
  | op :: ops => (s.step chain op).run ops

/-- All steps of a run meet `policy`. -/
def Meets (policy : State → Op → Prop) (s : State) : List Op → Prop
  | [] => True
  | op :: ops => policy s op ∧ Meets policy (s.step chain op) ops

theorem Reaches.run {policy : State → Op → Prop} {s : State} (h : Reaches chain policy s)
    (ops : List Op) (hp : Meets chain policy s ops) : Reaches chain policy (s.run chain ops) := by
  induction ops generalizing s with
  | nil => exact h
  | cons op ops ih => exact ih (h.step op hp.1) hp.2

instance (s : State) (txs : List ChainTransaction) : Decidable (s.Matters txs) :=
  inferInstanceAs (Decidable (∃ tx ∈ txs, s.filters.isRelevantTx tx = true))

instance (s : State) (height : Nat) : Decidable (s.Waiting height) :=
  inferInstanceAs (Decidable (_ ∨ _ ∨ _))

instance (s : State) (height : Nat) : Decidable (s.Settled chain height) :=
  inferInstanceAs (Decidable (_ ∧ _))

instance (s : State) (op : Op) : Decidable (Orderly chain s op) := by
  cases op <;> dsimp only [Orderly]
  case checkTx => exact @instDecidableForall _ _ _ inferInstance
  case startRescan =>
    exact @instDecidableForall _ _ _ (@instDecidableForall _ _ _ inferInstance)
  all_goals infer_instance

instance decidableMeets (policy : State → Op → Prop) [∀ s op, Decidable (policy s op)] (s : State) :
    (ops : List Op) → Decidable (Meets chain policy s ops)
  | [] => inferInstanceAs (Decidable True)
  | op :: ops =>
    have := decidableMeets policy (s.step chain op) ops
    inferInstanceAs (Decidable (policy s op ∧ Meets chain policy (s.step chain op) ops))

end

def lockupTx : ChainTransaction := { id := 60, inputOutpoints := [], outputScriptPubkeys := [[0x51]] }

def lockupAtSix : Nat → List ChainTransaction
  | 6 => [lockupTx]
  | _ => []

/-- A swap is created, the process starts and rescans the one block from the height of the node, and
two more blocks are mined. -/
def startAndMine : List Op :=
  [.watch Rescan.lockupFilters, .restart, .startRescan none Rescan.lockupFilters true,
    .rescanBlock 0 true (fun _ => true), .finishRescan 0 true, .mine true, .mine true]

def checkTxOk : Op := .checkTx true true (fun _ => false) (fun _ => true)

/-- The transactions of each block are checked before its height is stored. -/
def txsFirst : State :=
  ({ nodeHeight := 5 } : State).run lockupAtSix (startAndMine ++
    [.forwardTxs true, checkTxOk, .forwardBlock true true, .checkBlock true, .forwardTxs true,
      checkTxOk, .forwardBlock true true, .checkBlock true])

theorem txsFirst_tipProcessed : txsFirst.tip = some 7 ∧ txsFirst.TipProcessed lockupAtSix :=
  ⟨by decide +kernel,
    tipProcessed_of_orderly ((Reaches.init (by decide)).run lockupAtSix _ (by decide +kernel))⟩

/-- Nothing fails, but the heights are taken from their channel before the transactions are. -/
def heightsFirst : State :=
  ({ nodeHeight := 5 } : State).run lockupAtSix (startAndMine ++
    [.forwardTxs true, .forwardBlock true true, .checkBlock true, .forwardTxs true,
      .forwardBlock true true, .checkBlock true])

/-- The stored tip is above the block with the lockup, which was not forwarded: after a crash the
rescan would start above it. -/
theorem heightsFirst_tip_ahead :
    Reaches lockupAtSix (fun _ _ => True) heightsFirst ∧ heightsFirst.tip = some 7 ∧
      heightsFirst.forwarded = [] ∧ ¬heightsFirst.TipProcessed lockupAtSix := by
  have hnone : heightsFirst.forwarded = [] := by decide +kernel
  refine ⟨(Reaches.init (by decide)).run lockupAtSix _ (by decide +kernel), by decide +kernel,
    hnone, fun h => ?_⟩
  obtain ⟨relevant, hmem, -⟩ := h 7 (by decide +kernel) 6 (by decide) lockupTx
    (List.mem_singleton.mpr rfl) (by decide +kernel)
  rw [hnone] at hmem
  exact List.not_mem_nil hmem

end TipTracking

end Boltz

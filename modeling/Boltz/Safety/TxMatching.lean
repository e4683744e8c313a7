import Boltz.Sidecar.TxCheck
import Mathlib.Algebra.Order.Field.Basic

/-!
# Exact matching of transactions

A transaction is associated with a swap once for each reason: for each output with a script of the
swap, and for each lockup of it that is spent. Of the transactions of a chunk that spend the same
lockup only the last one is, and the chain of a reverse swap is not looked at.
-/

namespace Boltz.TxCheck

variable {db : Database} {symbol : String} {tx other : Transaction} {id : String}
  {chunk batch : List Transaction} {txChunks : List (List Transaction)} {swap : SomeSwap}

/-! ## What should be matched -/

def SomeSwap.spentBy (swap : SomeSwap) (tx : Transaction) : Bool :=
  swap.sendingOutpoint.any fun outpoint => tx.inputOutpoints.contains outpoint

/-- All swaps that an input is compared with. -/
def watched (db : Database) (symbol : String) : List SomeSwap :=
  (db.reverseSwaps.map fun swap => ⟨swap.id, swap.lockup⟩) ++
    (db.chainSwaps.filter fun swap => swap.sending.symbol = symbol).map fun swap =>
      ⟨swap.id, swap.sending⟩

/-- The swaps with a server lockup on the chain. -/
def onChain (db : Database) (symbol : String) : List SomeSwap :=
  (watched db symbol).filter fun swap => swap.sending.symbol = symbol

def foreign (db : Database) (symbol : String) : List SomeSwap :=
  (watched db symbol).filter fun swap => !(swap.sending.symbol = symbol)

def Pays (db : Database) (symbol : String) (tx : Transaction) (id : String) : Prop :=
  ∃ row ∈ db.scriptPubkeys, row.swapId = id ∧ row.symbol = symbol ∧
    row.scriptPubkey ∈ tx.outputScriptPubkeys

def Spends (db : Database) (symbol : String) (tx : Transaction) (id : String) : Prop :=
  ∃ swap ∈ onChain db symbol, swap.id = id ∧ swap.spentBy tx = true

def Relevant (db : Database) (symbol : String) (batch : List Transaction) (tx : Transaction)
    (id : String) : Prop :=
  tx ∈ batch ∧ (Pays db symbol tx id ∨ Spends db symbol tx id)

/-- In every order and for every way to split it, exactly the relevant swaps are listed, and each
once. -/
def MatchesExactly (db : Database) (symbol : String) (batch : List Transaction) : Prop :=
  ∀ order, order.Perm batch → ∀ txChunks, txChunks.flatten = order → ∀ tx id,
    (id ∈ swapsOf (checkChunks db symbol txChunks) tx ↔ Relevant db symbol batch tx id) ∧
      (swapsOf (checkChunks db symbol txChunks) tx).count id ≤ 1

/-- Outputs with scripts of the swap. -/
def payments (db : Database) (symbol : String) (tx : Transaction) (id : String) : Nat :=
  (db.scriptPubkeys.map fun row =>
    if row.swapId = id ∧ row.symbol = symbol then tx.outputScriptPubkeys.count row.scriptPubkey
    else 0).sum

/-- Lockups of the swap that are spent. -/
def spends (swaps : List SomeSwap) (tx : Transaction) (id : String) : Nat :=
  swaps.countP fun swap => swap.id = id && swap.spentBy tx

/-- No two transactions spend the lockup of a swap. -/
def ConflictFree (db : Database) (symbol : String) (batch : List Transaction) : Prop :=
  ∀ swap ∈ watched db symbol, ∀ tx ∈ batch, ∀ other ∈ batch,
    swap.spentBy tx = true → swap.spentBy other = true → tx = other

structure Unambiguous (db : Database) (symbol : String) (batch : List Transaction) : Prop where
  once : ∀ tx ∈ batch, ∀ id,
    batch.count tx * (payments db symbol tx id + spends (onChain db symbol) tx id) ≤ 1
  foreignUnspent : ∀ swap ∈ foreign db symbol, ∀ tx ∈ batch, swap.spentBy tx = false
  conflictFree : ConflictFree db symbol batch

/-! ## Outputs -/

theorem count_swapsOf (associations : List Association) (tx : Transaction) (id : String) :
    (swapsOf associations tx).count id = associations.count (tx, id) := by
  induction associations with
  | nil => rfl
  | cons entry associations ih =>
    obtain ⟨tx', id'⟩ := entry
    unfold swapsOf at ih ⊢
    by_cases htx : tx' = tx
    · subst htx
      by_cases hid : id' = id
      · subst hid
        simp [ih]
      · simp [ih, hid]
    · simp [ih, htx]

theorem count_scriptToTxs (chunk : List Transaction) (script : Nat) (tx : Transaction) :
    (scriptToTxs chunk script).count tx = chunk.count tx * tx.outputScriptPubkeys.count script := by
  unfold scriptToTxs
  induction chunk with
  | nil => simp
  | cons first chunk ih =>
    rw [List.flatMap_cons, List.count_append, ih, List.count_replicate, List.count_cons]
    by_cases h : first = tx
    · subst h
      simp [Nat.add_mul, Nat.add_comm]
    · simp [h]

/-- A script that is not asked for pays nothing. -/
theorem count_eq_zero_of_not_asked {script : Nat} (h : script ∉ scriptPubkeysOf chunk) :
    chunk.count tx * tx.outputScriptPubkeys.count script = 0 := by
  by_cases htx : tx ∈ chunk
  · have hscript : script ∉ tx.outputScriptPubkeys := fun hmem =>
      h (List.mem_flatMap.mpr ⟨tx, htx, hmem⟩)
    rw [List.count_eq_zero_of_not_mem hscript, Nat.mul_zero]
  · rw [List.count_eq_zero_of_not_mem htx, Nat.zero_mul]

theorem count_map_pair (txs : List Transaction) (swapId : String) :
    (txs.map fun tx => (tx, swapId)).count (tx, id) = if swapId = id then txs.count tx else 0 := by
  induction txs with
  | nil => simp
  | cons first txs ih =>
    rw [List.map_cons, List.count_cons, ih, List.count_cons]
    by_cases hid : swapId = id <;> simp [hid]

theorem count_checkOutputs (db : Database) (symbol : String) (chunk : List Transaction)
    (tx : Transaction) (id : String) :
    (checkOutputs db symbol chunk).count (tx, id) =
      chunk.count tx * payments db symbol tx id := by
  unfold checkOutputs getByScripts payments
  induction db.scriptPubkeys with
  | nil => simp
  | cons row rows ih =>
    rw [List.filter_cons, List.map_cons, List.sum_cons, Nat.mul_add, ← ih]
    by_cases hsymbol : row.symbol = symbol
    · by_cases hasked : row.scriptPubkey ∈ scriptPubkeysOf chunk
      · rw [if_pos (by simp [hsymbol, hasked]), List.flatMap_cons, List.count_append,
          count_map_pair, count_scriptToTxs]
        by_cases hid : row.swapId = id <;> simp [hid, hsymbol]
      · rw [if_neg (by simp [hasked])]
        by_cases hid : row.swapId = id
        · rw [if_pos ⟨hid, hsymbol⟩, count_eq_zero_of_not_asked hasked, Nat.zero_add]
        · simp [hid]
    · simp [hsymbol]

/-! ## Inputs -/

/-- The transaction that the lockup of the swap is looked up as spent by. -/
def foundIn (chunk : List Transaction) (swap : SomeSwap) : Option Transaction :=
  swap.sendingOutpoint.bind (inputsToTx chunk)

theorem associate_eq (chunk : List Transaction) (swap : SomeSwap) :
    associate chunk swap = (foundIn chunk swap).map fun tx => (tx, swap.id) := by
  unfold associate foundIn
  cases swap.sendingOutpoint <;> rfl

theorem of_foundIn (h : foundIn chunk swap = some tx) : tx ∈ chunk ∧ swap.spentBy tx = true := by
  unfold foundIn inputsToTx at h
  rcases houtpoint : swap.sendingOutpoint with _ | outpoint
  · simp [houtpoint] at h
  · rw [houtpoint, Option.bind_some] at h
    refine ⟨List.mem_reverse.mp (List.mem_of_find?_eq_some h), ?_⟩
    have hspent := List.find?_some h
    simpa [SomeSwap.spentBy, houtpoint] using hspent

theorem foundIn_isSome (htx : tx ∈ chunk) (hspent : swap.spentBy tx = true) :
    ∃ last, foundIn chunk swap = some last := by
  unfold SomeSwap.spentBy at hspent
  unfold foundIn inputsToTx
  rcases houtpoint : swap.sendingOutpoint with _ | outpoint
  · simp [houtpoint] at hspent
  · rw [houtpoint, Option.any_some] at hspent
    rw [Option.bind_some, ← Option.isSome_iff_exists, List.find?_isSome]
    exact ⟨tx, List.mem_reverse.mpr htx, hspent⟩

/-- A lockup that is found is of a transaction that was asked for. -/
theorem isOf_of_foundIn (h : foundIn chunk swap = some tx) :
    swap.sending.isOf (inputIds chunk) = true := by
  obtain ⟨htx, hspent⟩ := of_foundIn h
  unfold SomeSwap.spentBy SomeSwap.sendingOutpoint at hspent
  unfold Lockup.isOf
  split at hspent
  · rename_i lockupId vout hid hvout
    rw [hid, Option.any_some, List.contains_iff_mem]
    exact List.mem_map.mpr ⟨⟨lockupId, vout⟩,
      List.mem_flatMap.mpr ⟨tx, htx, by simpa using hspent⟩, rfl⟩
  · simp at hspent

theorem associate_eq_none (h : ¬ swap.sending.isOf (inputIds chunk) = true) :
    associate chunk swap = none := by
  rw [associate_eq, Option.map_eq_none_iff, Option.eq_none_iff_forall_ne_some]
  exact fun tx hfound => h (isOf_of_foundIn hfound)

/-- What the queries leave out would not have been associated. -/
theorem checkInputs_eq (db : Database) (symbol : String) (chunk : List Transaction) :
    checkInputs db symbol chunk = (watched db symbol).filterMap (associate chunk) := by
  unfold checkInputs relevantSwaps watched
  rw [List.filterMap_append, List.filterMap_append]
  congr 1
  · rw [List.filterMap_map, List.filterMap_map, List.filterMap_filter]
    refine List.filterMap_congr fun swap _ => ?_
    by_cases h : swap.lockup.isOf (inputIds chunk) = true
    · rw [if_pos h]
    · rw [if_neg h]
      have hnone : associate chunk ⟨swap.id, swap.lockup⟩ = none := associate_eq_none h
      exact hnone.symm
  · rw [List.filterMap_map, List.filterMap_map, List.filterMap_filter, List.filterMap_filter,
      List.filterMap_filter]
    refine List.filterMap_congr fun swap _ => ?_
    by_cases hsymbol : swap.sending.symbol = symbol
    · by_cases h : swap.sending.isOf (inputIds chunk) = true
      · simp [hsymbol, h]
      · have hnone : associate chunk ⟨swap.id, swap.sending⟩ = none := associate_eq_none h
        simp [hsymbol, hnone]
    · simp [hsymbol]

theorem count_filterMap_associate (swaps : List SomeSwap) (chunk : List Transaction)
    (tx : Transaction) (id : String) :
    (swaps.filterMap (associate chunk)).count (tx, id) =
      swaps.countP fun swap => swap.id = id && foundIn chunk swap = some tx := by
  induction swaps with
  | nil => rfl
  | cons swap swaps ih =>
    rw [List.filterMap_cons, List.countP_cons, ← ih, associate_eq]
    rcases hfound : foundIn chunk swap with _ | last
    · simp
    · rw [Option.map_some, List.count_cons]
      by_cases hid : swap.id = id <;> by_cases hlast : last = tx <;> simp [hid, hlast]

theorem count_checkInputs (db : Database) (symbol : String) (chunk : List Transaction)
    (tx : Transaction) (id : String) :
    (checkInputs db symbol chunk).count (tx, id) =
      (watched db symbol).countP fun swap => swap.id = id && foundIn chunk swap = some tx := by
  rw [checkInputs_eq, count_filterMap_associate]

/-- Without conflicts, what is found is who spends. -/
theorem count_checkInputs_of_conflictFree (hfree : ConflictFree db symbol chunk)
    (tx : Transaction) (id : String) :
    (checkInputs db symbol chunk).count (tx, id) =
      if tx ∈ chunk then spends (watched db symbol) tx id else 0 := by
  rw [count_checkInputs]
  split
  · rename_i htx
    refine List.countP_congr fun swap hswap => ?_
    rw [Bool.and_eq_true, Bool.and_eq_true, decide_eq_true_iff, decide_eq_true_iff]
    refine and_congr_right fun _ => ⟨fun h => (of_foundIn h).2, fun h => ?_⟩
    obtain ⟨last, hlast⟩ := foundIn_isSome htx h
    rw [hlast, hfree swap hswap tx htx last (of_foundIn hlast).1 h (of_foundIn hlast).2]
  · rename_i htx
    refine List.countP_eq_zero.mpr fun swap _ h => htx ?_
    rw [Bool.and_eq_true, decide_eq_true_iff, decide_eq_true_iff] at h
    exact (of_foundIn h.2).1

theorem spends_watched (db : Database) (symbol : String) (tx : Transaction) (id : String) :
    spends (watched db symbol) tx id =
      spends (onChain db symbol) tx id + spends (foreign db symbol) tx id := by
  unfold spends onChain foreign
  exact List.countP_eq_countP_filter_add _ _ _

theorem spends_pos_iff {swaps : List SomeSwap} :
    0 < spends swaps tx id ↔ ∃ swap ∈ swaps, swap.id = id ∧ swap.spentBy tx = true := by
  unfold spends
  rw [List.countP_pos_iff]
  simp only [Bool.and_eq_true, decide_eq_true_iff]

theorem foundIn_last (hspent : swap.spentBy other = true) :
    foundIn (chunk ++ [other]) swap = some other := by
  unfold SomeSwap.spentBy at hspent
  unfold foundIn inputsToTx
  rcases houtpoint : swap.sendingOutpoint with _ | outpoint
  · simp [houtpoint] at hspent
  · rw [houtpoint, Option.any_some] at hspent
    rw [Option.bind_some, List.reverse_append, List.reverse_singleton, List.singleton_append,
      List.find?_cons, hspent]

/-! ## Chunks -/

theorem payments_pos_iff : 0 < payments db symbol tx id ↔ Pays db symbol tx id := by
  unfold payments Pays
  induction db.scriptPubkeys with
  | nil => simp
  | cons row rows ih =>
    rw [List.map_cons, List.sum_cons, Nat.add_pos_iff_pos_or_pos, ih, List.exists_mem_cons_iff]
    refine or_congr ?_ Iff.rfl
    by_cases hrow : row.swapId = id ∧ row.symbol = symbol
    · rw [if_pos hrow, List.count_pos_iff]
      exact ⟨fun h => ⟨hrow.1, hrow.2, h⟩, fun h => h.2.2⟩
    · rw [if_neg hrow]
      exact ⟨fun h => absurd h (Nat.lt_irrefl 0), fun h => absurd ⟨h.1, h.2.1⟩ hrow⟩

theorem count_outputs (db : Database) (symbol : String) (txChunks : List (List Transaction))
    (tx : Transaction) (id : String) :
    (txChunks.flatMap (checkOutputs db symbol)).count (tx, id) =
      txChunks.flatten.count tx * payments db symbol tx id := by
  induction txChunks with
  | nil => simp
  | cons chunk txChunks ih =>
    rw [List.flatMap_cons, List.count_append, ih, count_checkOutputs, List.flatten_cons,
      List.count_append, Nat.add_mul]

theorem count_inputs (hfree : ∀ chunk ∈ txChunks, ConflictFree db symbol chunk)
    (tx : Transaction) (id : String) :
    (txChunks.flatMap (checkInputs db symbol)).count (tx, id) =
      (txChunks.countP fun chunk => tx ∈ chunk) * spends (watched db symbol) tx id := by
  induction txChunks with
  | nil => simp
  | cons chunk txChunks ih =>
    rw [List.flatMap_cons, List.count_append, ih fun c hc => hfree c (List.mem_cons_of_mem _ hc),
      count_checkInputs_of_conflictFree (hfree chunk List.mem_cons_self), List.countP_cons]
    by_cases htx : tx ∈ chunk <;> simp [htx, Nat.add_mul, Nat.add_comm]

theorem count_checkChunks (hfree : ∀ chunk ∈ txChunks, ConflictFree db symbol chunk)
    (tx : Transaction) (id : String) :
    (swapsOf (checkChunks db symbol txChunks) tx).count id =
      txChunks.flatten.count tx * payments db symbol tx id +
        (txChunks.countP fun chunk => tx ∈ chunk) * spends (watched db symbol) tx id := by
  rw [count_swapsOf, checkChunks, List.count_append, count_outputs, count_inputs hfree]

theorem countP_mem_le (txChunks : List (List Transaction)) (tx : Transaction) :
    (txChunks.countP fun chunk => tx ∈ chunk) ≤ txChunks.flatten.count tx := by
  induction txChunks with
  | nil => simp
  | cons chunk txChunks ih =>
    rw [List.countP_cons, List.flatten_cons, List.count_append]
    split
    · rename_i htx
      have hpos : 0 < chunk.count tx := List.count_pos_iff.mpr (of_decide_eq_true htx)
      omega
    · omega

theorem countP_mem_pos_iff :
    0 < (txChunks.countP fun chunk => tx ∈ chunk) ↔ tx ∈ txChunks.flatten := by
  rw [List.countP_pos_iff, List.mem_flatten]
  simp only [decide_eq_true_iff]

theorem ConflictFree.of_subset (hfree : ConflictFree db symbol batch)
    (hsub : ∀ tx ∈ chunk, tx ∈ batch) : ConflictFree db symbol chunk :=
  fun swap hswap tx htx other hother => hfree swap hswap tx (hsub tx htx) other (hsub other hother)

/-! ## Exactness -/

theorem relevant_iff :
    Relevant db symbol batch tx id ↔
      tx ∈ batch ∧ 0 < payments db symbol tx id + spends (onChain db symbol) tx id := by
  unfold Relevant Spends
  rw [Nat.add_pos_iff_pos_or_pos, payments_pos_iff, spends_pos_iff]

theorem Unambiguous.matchesExactly (h : Unambiguous db symbol batch) :
    MatchesExactly db symbol batch := by
  intro order horder txChunks hflatten tx id
  have hfree : ∀ chunk ∈ txChunks, ConflictFree db symbol chunk := fun chunk hchunk =>
    h.conflictFree.of_subset fun other hother =>
      horder.mem_iff.mp (hflatten ▸ List.mem_flatten.mpr ⟨chunk, hchunk, hother⟩)
  have hcount := count_checkChunks hfree tx id
  have hle := countP_mem_le txChunks tx
  have hpos : 0 < (txChunks.countP fun chunk => tx ∈ chunk) ↔ tx ∈ batch := by
    rw [countP_mem_pos_iff, hflatten, horder.mem_iff]
  rw [hflatten, horder.count_eq] at hcount hle
  rw [← List.count_pos_iff, hcount, relevant_iff]
  generalize (txChunks.countP fun chunk => tx ∈ chunk) = lookups at hle hpos ⊢
  by_cases htx : tx ∈ batch
  · have honce := h.once tx htx id
    have hforeign : spends (foreign db symbol) tx id = 0 := by
      rw [← Nat.le_zero, ← Nat.not_lt, spends_pos_iff]
      rintro ⟨swap, hswap, -, hspent⟩
      rw [h.foreignUnspent swap hswap tx htx] at hspent
      cases hspent
    have hmem : 0 < batch.count tx := List.count_pos_iff.mpr htx
    have hlookups := hpos.mpr htx
    rw [spends_watched, hforeign, Nat.add_zero]
    generalize payments db symbol tx id = paid at honce ⊢
    generalize spends (onChain db symbol) tx id = spent at honce ⊢
    have hbound : batch.count tx * paid + lookups * spent ≤ batch.count tx * (paid + spent) := by
      rw [Nat.mul_add]
      exact Nat.add_le_add_left (Nat.mul_le_mul_right _ hle) _
    refine ⟨⟨fun hlisted => ⟨htx, ?_⟩, fun hrelevant => ?_⟩, le_trans hbound honce⟩
    · exact Nat.pos_of_mul_pos_left (lt_of_lt_of_le hlisted hbound)
    · rcases Nat.add_pos_iff_pos_or_pos.mp hrelevant.2 with hpaid | hspent
      · exact Nat.add_pos_left (Nat.mul_pos hmem hpaid) _
      · exact Nat.add_pos_right _ (Nat.mul_pos hlookups hspent)
  · have hnone : batch.count tx = 0 := List.count_eq_zero_of_not_mem htx
    have hlookups : lookups = 0 := by omega
    simp [hnone, hlookups, htx]

/-! ### One transaction a chunk, and one chunk for all -/

theorem flatten_singles (batch : List Transaction) :
    (batch.map fun tx => [tx]).flatten = batch := by
  induction batch with
  | nil => rfl
  | cons first batch ih => rw [List.map_cons, List.flatten_cons, ih, List.singleton_append]

theorem countP_mem_singles (batch : List Transaction) (tx : Transaction) :
    ((batch.map fun tx => [tx]).countP fun chunk => tx ∈ chunk) = batch.count tx := by
  induction batch with
  | nil => rfl
  | cons first batch ih =>
    rw [List.map_cons, List.countP_cons, ih, List.count_cons]
    by_cases h : first = tx
    · simp [h]
    · simp [h, Ne.symm h]

theorem count_singles (db : Database) (symbol : String) (batch : List Transaction)
    (tx : Transaction) (id : String) :
    (swapsOf (checkChunks db symbol (batch.map fun tx => [tx])) tx).count id =
      batch.count tx * (payments db symbol tx id + spends (watched db symbol) tx id) := by
  have hfree : ∀ chunk ∈ batch.map fun tx => [tx], ConflictFree db symbol chunk := by
    intro chunk hchunk
    obtain ⟨first, -, rfl⟩ := List.mem_map.mp hchunk
    intro swap _ tx htx other hother _ _
    rw [List.mem_singleton.mp htx, List.mem_singleton.mp hother]
  rw [count_checkChunks hfree, flatten_singles, countP_mem_singles, Nat.mul_add]

/-- What another transaction at the end of the chunk spends is not looked at twice. -/
theorem countP_foundIn_eq_zero (honce : spends (watched db symbol) tx swap.id ≤ 1)
    (hswap : swap ∈ watched db symbol) (hspent : swap.spentBy tx = true)
    (hother : foundIn chunk swap = some other) (hne : tx ≠ other) :
    ((watched db symbol).countP fun candidate =>
      candidate.id = swap.id && foundIn chunk candidate = some tx) = 0 := by
  have hsplit : spends (watched db symbol) tx swap.id = _ :=
    List.countP_eq_countP_filter_add _ _ fun candidate => foundIn chunk candidate = some tx
  have hrest : 0 < spends ((watched db symbol).filter fun candidate =>
      !decide (foundIn chunk candidate = some tx)) tx swap.id := by
    refine spends_pos_iff.mpr ⟨swap, List.mem_filter.mpr ⟨hswap, ?_⟩, rfl, hspent⟩
    simp [hother, Ne.symm hne]
  have hfound : ¬ 0 < spends ((watched db symbol).filter fun candidate =>
      decide (foundIn chunk candidate = some tx)) tx swap.id := by
    unfold spends at hrest hsplit honce ⊢
    omega
  refine List.countP_eq_zero.mpr fun candidate hcandidate h => hfound ?_
  rw [Bool.and_eq_true, decide_eq_true_iff] at h
  exact spends_pos_iff.mpr ⟨candidate, List.mem_filter.mpr ⟨hcandidate, h.2⟩, h.1,
    (of_foundIn (of_decide_eq_true h.2)).2⟩

theorem MatchesExactly.singles (h : MatchesExactly db symbol batch) (htx : tx ∈ batch)
    (id : String) :
    batch.count tx * (payments db symbol tx id + spends (watched db symbol) tx id) ≤ 1 ∧
      (0 < payments db symbol tx id + spends (watched db symbol) tx id →
        Relevant db symbol batch tx id) := by
  obtain ⟨hlisted, hcount⟩ := h batch (List.Perm.refl batch) _ (flatten_singles batch) tx id
  rw [count_singles] at hcount
  refine ⟨hcount, fun hpos => hlisted.mp ?_⟩
  rw [← List.count_pos_iff, count_singles]
  exact Nat.mul_pos (List.count_pos_iff.mpr htx) hpos

theorem MatchesExactly.once (h : MatchesExactly db symbol batch) (htx : tx ∈ batch) (id : String) :
    batch.count tx * (payments db symbol tx id + spends (onChain db symbol) tx id) ≤ 1 := by
  refine le_trans (Nat.mul_le_mul_left _ ?_) (h.singles htx id).1
  rw [spends_watched]
  omega

theorem MatchesExactly.foreignUnspent (h : MatchesExactly db symbol batch)
    (hswap : swap ∈ foreign db symbol) (htx : tx ∈ batch) : swap.spentBy tx = false := by
  by_contra hspent
  rw [Bool.not_eq_false] at hspent
  obtain ⟨hcount, hrelevant⟩ := h.singles htx swap.id
  have hforeign : 0 < spends (foreign db symbol) tx swap.id :=
    spends_pos_iff.mpr ⟨swap, hswap, rfl, hspent⟩
  rw [spends_watched] at hcount hrelevant
  obtain ⟨-, hown⟩ := relevant_iff.mp (hrelevant (by omega))
  have hmem : 1 ≤ batch.count tx := List.count_pos_iff.mpr htx
  have htwice := Nat.mul_le_mul_right
    (payments db symbol tx swap.id +
      (spends (onChain db symbol) tx swap.id + spends (foreign db symbol) tx swap.id)) hmem
  omega

theorem MatchesExactly.conflictFree (h : MatchesExactly db symbol batch) :
    ConflictFree db symbol batch := by
  intro swap hswap tx htx other hother hspent hspentOther
  by_contra hne
  obtain ⟨hcount, hrelevant⟩ := h.singles htx swap.id
  have hpos : 0 < spends (watched db symbol) tx swap.id :=
    spends_pos_iff.mpr ⟨swap, hswap, rfl, hspent⟩
  have hmem : 1 ≤ batch.count tx := List.count_pos_iff.mpr htx
  have hlow := Nat.mul_le_mul_right
    (payments db symbol tx swap.id + spends (watched db symbol) tx swap.id) hmem
  have hpaid : payments db symbol tx swap.id = 0 := by omega
  have hperm : (batch.erase other ++ [other]).Perm batch :=
    (List.perm_append_singleton other _).trans (List.perm_cons_erase hother).symm
  -- the other transaction is the last one of the only chunk
  obtain ⟨hlisted, -⟩ := h _ hperm [batch.erase other ++ [other]] (List.append_nil _) tx swap.id
  have hlast : foundIn (batch.erase other ++ [other]) swap = some other := foundIn_last hspentOther
  have hfound := countP_foundIn_eq_zero (by omega) hswap hspent hlast hne
  have hnone : (swapsOf (checkChunks db symbol [batch.erase other ++ [other]]) tx).count swap.id
      = 0 := by
    rw [count_swapsOf, checkChunks, List.count_append, count_outputs, hpaid, Nat.mul_zero,
      List.flatMap_singleton, count_checkInputs, hfound]
  rw [← List.count_pos_iff, hnone] at hlisted
  exact Nat.lt_irrefl 0 (hlisted.mpr (hrelevant (by omega)))

theorem matches_exactly_iff (db : Database) (symbol : String) (batch : List Transaction) :
    MatchesExactly db symbol batch ↔ Unambiguous db symbol batch := by
  refine ⟨fun h => ⟨fun tx htx id => h.once htx id, fun swap hswap tx htx => ?_, h.conflictFree⟩,
    Unambiguous.matchesExactly⟩
  exact h.foreignUnspent hswap htx

/-- A transaction with two outputs that pay the same script: the swap is listed twice. And two
transactions that spend the same lockup: only the last one is of the swap. -/
theorem matches_inexactly :
    ¬ MatchesExactly ⟨[⟨"swap", "BTC", 3⟩], [], []⟩ "BTC" [⟨1, [], [3, 3]⟩] ∧
      ¬ MatchesExactly ⟨[], [⟨"swap", ⟨"BTC", some 7, some 0⟩⟩], []⟩ "BTC"
        [⟨1, [⟨7, 0⟩], []⟩, ⟨2, [⟨7, 0⟩], []⟩] := by
  refine ⟨fun h => ?_, fun h => ?_⟩
  · have hcount := (h _ (List.Perm.refl _) [[⟨1, [], [3, 3]⟩]] rfl ⟨1, [], [3, 3]⟩ "swap").2
    exact absurd hcount (by decide)
  · have hlisted := (h _ (List.Perm.refl _) [[⟨1, [⟨7, 0⟩], []⟩, ⟨2, [⟨7, 0⟩], []⟩]] rfl
      ⟨1, [⟨7, 0⟩], []⟩ "swap").1
    have hrelevant : Relevant ⟨[], [⟨"swap", ⟨"BTC", some 7, some 0⟩⟩], []⟩ "BTC"
        [⟨1, [⟨7, 0⟩], []⟩, ⟨2, [⟨7, 0⟩], []⟩] ⟨1, [⟨7, 0⟩], []⟩ "swap" :=
      ⟨List.mem_cons_self, .inr ⟨⟨"swap", ⟨"BTC", some 7, some 0⟩⟩, by decide, rfl, by decide⟩⟩
    exact absurd (hlisted.mpr hrelevant) (by decide)

end Boltz.TxCheck

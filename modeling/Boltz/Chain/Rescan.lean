import Boltz.Chain.Transactions
import Mathlib.Algebra.Ring.Int.Defs
import Mathlib.Algebra.Ring.Nat
import Mathlib.Data.List.Basic
import Mathlib.Data.List.Forall2
import Mathlib.Data.List.Nodup
import Mathlib.Data.List.Perm.Subperm

/-!
# Rescans of a chain (`ChainClient::rescan` in `boltzr/src/chain/chain_client.rs`)

Blocks are fetched in batches by two tasks, which stop when a batch cannot be fetched and leave out
single blocks the node does not answer for. The scan itself goes through what arrives, and stores
the height of the chain when nothing arrives any more.
-/

namespace Boltz

namespace Rescan

def batchRequestSize : Nat := 64

/-- What the node answers to the calls of one rescan. -/
structure Node (Hash Raw : Type) where
  blockchainInfo : Option Nat
  getBlockHashes : List Nat → Option (List (Option Hash))
  getBlocks : List Hash → Option (List (Option Raw))
  parseBlock : Raw → Option (List ChainTransaction)

inductive RescanError where
  | blockchainInfo
  | startAfterEnd
  | setHeight
  deriving DecidableEq, Repr

/-- The heights `start..=last` in steps of the size of a batch. -/
def batches (start last : Nat) : List (List Nat) :=
  (List.range ((last - start) / batchRequestSize + 1)).map fun i =>
    List.range' (start + batchRequestSize * i)
      (min batchRequestSize (last + 1 - start - batchRequestSize * i))

/-- The progress of a scan. `scanned` are the heights of the blocks it went through to the end. -/
structure Scan where
  sent : List ChainTransaction := []
  sends : Nat := 0
  scanned : List Nat := []
  deriving DecidableEq, Repr

structure Result where
  result : Except RescanError Nat
  scan : Scan := {}
  tip : Option Int := none
  deriving DecidableEq

/-- `height as i32`. -/
def asI32 (height : Nat) : Int := (height : Int).bmod (2 ^ 32)

section

variable {Hash Raw : Type} (node : Node Hash Raw)

/-- The results of a batch that are there, with what they were asked for. -/
def answered {α β : Type} : List α → List (Option β) → List (α × β)
  | a :: as, some b :: answers => (a, b) :: answered as answers
  | _ :: as, none :: answers => answered as answers
  | _, _ => []

/-- The blocks that arrive from both tasks, which stop at the first batch that fails. -/
def fetchBlocks : List (List Nat) → List (Nat × Raw)
  | [] => []
  | heights :: rest =>
    match node.getBlockHashes heights with
    | none => []
    | some hashes =>
      let found := answered heights hashes
      match node.getBlocks (found.map (·.2)) with
      | none => []
      | some blocks => answered (found.map (·.1)) blocks ++ fetchBlocks rest

/-- Sends the relevant transactions of a block; a failed send ends the block. -/
def sendRelevant (filters : ScanFilters) (sender : Nat → Bool) (height : Nat) :
    List ChainTransaction → Scan → Scan
  | [], scan => { scan with scanned := scan.scanned ++ [height] }
  | tx :: txs, scan =>
    if filters.isRelevantTx tx then
      if sender scan.sends then
        sendRelevant filters sender height txs
          { scan with sent := scan.sent ++ [tx], sends := scan.sends + 1 }
      else { scan with sends := scan.sends + 1 }
    else sendRelevant filters sender height txs scan

def scanBlocks (filters : ScanFilters) (sender : Nat → Bool) : List (Nat × Raw) → Scan → Scan
  | [], scan => scan
  | (height, block) :: blocks, scan =>
    match node.parseBlock block with
    | none => scanBlocks filters sender blocks scan
    | some txs =>
      scanBlocks filters sender blocks (sendRelevant filters sender height txs scan)

/-- `sender` says which sends of the transaction channel have a receiver, `setHeight` whether the
database takes the tip. -/
def rescan (filters : ScanFilters) (sender : Nat → Bool) (setHeight : Bool) (startHeight : Nat) :
    Result :=
  match node.blockchainInfo with
  | none => { result := .error .blockchainInfo }
  | some endHeight =>
    if startHeight > endHeight then { result := .error .startAfterEnd }
    else
      let scan := scanBlocks node filters sender
        (fetchBlocks node (batches startHeight endHeight)) {}
      if setHeight then
        { result := .ok endHeight, scan := scan, tip := some (asI32 endHeight) }
      else { result := .error .setHeight, scan := scan }

end

/-! ## The batches -/

theorem range'_chunks (start len c : Nat) :
    ∀ n, (List.range n).flatMap (fun i => List.range' (start + c * i) (min c (len - c * i))) =
      List.range' start (min len (c * n)) := by
  intro n
  induction n with
  | zero => simp
  | succ n ih =>
    rw [List.range_succ, List.flatMap_append, ih, List.flatMap_singleton]
    have hmul : c * (n + 1) = c * n + c := Nat.mul_succ c n
    by_cases h : c * n ≤ len
    · have hmin : min len (c * n) = c * n := by omega
      have hnext : min len (c * (n + 1)) = c * n + min c (len - c * n) := by omega
      rw [hmin, hnext]
      simp
    · have hmin : min c (len - c * n) = 0 := by omega
      have hnext : min len (c * (n + 1)) = min len (c * n) := by omega
      rw [hmin, hnext, List.range'_zero, List.append_nil]

/-- The batches are the heights from `start` to `last`, each once and in order. -/
theorem batches_flatten {start last : Nat} (h : start ≤ last) :
    (batches start last).flatten = List.range' start (last + 1 - start) := by
  unfold batches
  rw [← List.flatMap_def, range'_chunks]
  congr 1
  simp only [batchRequestSize]
  omega

theorem ne_nil_of_mem_batches {start last : Nat} (h : start ≤ last) {heights : List Nat}
    (hmem : heights ∈ batches start last) : heights ≠ [] := by
  obtain ⟨i, hi, rfl⟩ := List.mem_map.mp hmem
  rw [List.mem_range] at hi
  intro hnil
  have hlen := congrArg List.length hnil
  simp only [List.length_range', List.length_nil, batchRequestSize] at hlen hi
  omega

/-! ## What arrives from the node -/

/-- The node answers for one chain; its heights are 32-bit integers. -/
structure Node.Serves {Hash Raw : Type} (node : Node Hash Raw) (hashAt : Nat → Hash)
    (rawAt : Nat → Raw) (chain : Nat → List ChainTransaction) : Prop where
  height : ∀ last, node.blockchainInfo = some last → last < 2 ^ 31
  hashes : ∀ heights answers, node.getBlockHashes heights = some answers →
    List.Forall₂ (fun height answer => ∀ hash, answer = some hash → hash = hashAt height)
      heights answers
  blocks : ∀ heights answers, node.getBlocks (heights.map hashAt) = some answers →
    List.Forall₂ (fun height answer => ∀ raw, answer = some raw → raw = rawAt height)
      heights answers
  parsed : ∀ height txs, node.parseBlock (rawAt height) = some txs → txs = chain height

/-- Both calls of a batch succeed, for each of its heights. -/
def Node.AnswersBatch {Hash Raw : Type} (node : Node Hash Raw) (hashAt : Nat → Hash)
    (rawAt : Nat → Raw) (heights : List Nat) : Prop :=
  node.getBlockHashes heights = some (heights.map fun height => some (hashAt height)) ∧
    node.getBlocks (heights.map hashAt) = some (heights.map fun height => some (rawAt height))

theorem answered_eq {α β : Type} {f : α → β} {as : List α} {answers : List (Option β)}
    (h : List.Forall₂ (fun a answer => ∀ b, answer = some b → b = f a) as answers) :
    ∃ found, found.Sublist as ∧ answered as answers = found.map (fun a => (a, f a)) ∧
      (found = as ↔ answers = as.map fun a => some (f a)) := by
  induction h with
  | nil => exact ⟨[], List.Sublist.slnil, rfl, by simp⟩
  | @cons a answer as answers hanswer _ ih =>
    obtain ⟨found, hsub, hfound, hall⟩ := ih
    cases answer with
    | none =>
      refine ⟨found, hsub.cons a, hfound, ?_⟩
      constructor
      · rintro rfl
        exact absurd hsub.length_le (by simp)
      · intro hnone
        simp at hnone
    | some b =>
      obtain rfl := hanswer b rfl
      refine ⟨a :: found, hsub.cons_cons a, by rw [answered, hfound, List.map_cons], ?_⟩
      simp only [List.cons.injEq, true_and, List.map_cons]
      exact hall

section

variable {Hash Raw : Type} {node : Node Hash Raw} {hashAt : Nat → Hash} {rawAt : Nat → Raw}
variable {chain : Nat → List ChainTransaction}

/-- What arrives is a part of the chain, in its order; all of it only if every call succeeded. -/
theorem fetchBlocks_eq (hserves : node.Serves hashAt rawAt chain) (bs : List (List Nat))
    (hne : ∀ heights ∈ bs, heights ≠ []) :
    ∃ found, found.Sublist bs.flatten ∧
      fetchBlocks node bs = found.map (fun height => (height, rawAt height)) ∧
      (found = bs.flatten ↔ ∀ heights ∈ bs, node.AnswersBatch hashAt rawAt heights) := by
  induction bs with
  | nil => exact ⟨[], List.Sublist.slnil, rfl, by simp⟩
  | cons heights rest ih =>
    obtain ⟨found, hsub, hfound, hall⟩ := ih fun hs hmem => hne hs (List.mem_cons_of_mem _ hmem)
    have hhead := hne heights (List.mem_cons_self ..)
    have hfailed : ¬node.AnswersBatch hashAt rawAt heights →
        fetchBlocks node (heights :: rest) = [] →
        ∃ found, found.Sublist (heights :: rest).flatten ∧
          fetchBlocks node (heights :: rest) =
            found.map (fun height => (height, rawAt height)) ∧
          (found = (heights :: rest).flatten ↔
            ∀ hs ∈ heights :: rest, node.AnswersBatch hashAt rawAt hs) := by
      intro hnot hnil
      refine ⟨[], List.nil_sublist _, hnil, ?_, fun h => absurd (h heights (by simp)) hnot⟩
      intro hempty
      rw [List.flatten_cons] at hempty
      exact absurd (List.append_eq_nil_iff.mp hempty.symm).1 hhead
    cases hhashes : node.getBlockHashes heights with
    | none =>
      refine hfailed (fun h => ?_) (by rw [fetchBlocks, hhashes])
      rw [h.1] at hhashes
      cases hhashes
    | some hashes =>
      obtain ⟨known, hknown, hanswered, hallknown⟩ := answered_eq (hserves.hashes _ _ hhashes)
      have hasked : (answered heights hashes).map (·.2) = known.map hashAt := by
        rw [hanswered, List.map_map]
        rfl
      have hheights : (answered heights hashes).map (·.1) = known := by
        rw [hanswered, List.map_map]
        exact List.map_id known
      cases hblocks : node.getBlocks (known.map hashAt) with
      | none =>
        refine hfailed (fun h => ?_) ?_
        · obtain rfl : known = heights := hallknown.mpr (Option.some.inj (hhashes.symm.trans h.1))
          rw [h.2] at hblocks
          cases hblocks
        · rw [fetchBlocks, hhashes]
          simp only [hasked, hblocks]
      | some blocks =>
        obtain ⟨arrived, harrived, hblocksEq, hallarrived⟩ :=
          answered_eq (hserves.blocks _ _ hblocks)
        have hfetch : fetchBlocks node (heights :: rest) =
            (arrived ++ found).map (fun height => (height, rawAt height)) := by
          rw [fetchBlocks, hhashes]
          simp only [hasked, hblocks, hheights, hblocksEq, hfound, List.map_append]
        refine ⟨arrived ++ found, ?_, hfetch, ?_⟩
        · rw [List.flatten_cons]
          exact (harrived.trans hknown).append hsub
        · constructor
          · intro heq
            rw [List.flatten_cons] at heq
            have hlen := congrArg List.length heq
            rw [List.length_append, List.length_append] at hlen
            have hle := (harrived.trans hknown).length_le
            have hle' := hsub.length_le
            obtain rfl : arrived = heights :=
              (harrived.trans hknown).eq_of_length (by omega)
            obtain rfl : known = arrived :=
              hknown.eq_of_length (Nat.le_antisymm hknown.length_le harrived.length_le)
            obtain rfl : found = rest.flatten := hsub.eq_of_length (by omega)
            rintro hs hmem
            rcases List.mem_cons.mp hmem with rfl | hmem
            · refine ⟨?_, ?_⟩
              · rw [hhashes, hallknown.mp rfl]
              · rw [hblocks, hallarrived.mp rfl]
            · exact hall.mp rfl hs hmem
          · intro hbatches
            have hbatch := hbatches heights (List.mem_cons_self ..)
            obtain rfl : known = heights :=
              hallknown.mpr (Option.some.inj (hhashes.symm.trans hbatch.1))
            obtain rfl : arrived = known :=
              hallarrived.mpr (Option.some.inj (hblocks.symm.trans hbatch.2))
            rw [hall.mpr fun hs hmem => hbatches hs (List.mem_cons_of_mem _ hmem),
              List.flatten_cons]

/-! ## What is sent -/

variable (filters : ScanFilters) (sender : Nat → Bool)

/-- A block is gone through to its end only if all its relevant transactions are sent. -/
theorem sendRelevant_cases (height : Nat) (txs : List ChainTransaction) (scan : Scan) :
    ((∀ n < (txs.filter filters.isRelevantTx).length, sender (scan.sends + n) = true) ∧
      sendRelevant filters sender height txs scan =
        { sent := scan.sent ++ txs.filter filters.isRelevantTx
          sends := scan.sends + (txs.filter filters.isRelevantTx).length
          scanned := scan.scanned ++ [height] }) ∨
    ((sendRelevant filters sender height txs scan).scanned = scan.scanned ∧
      ∃ n < (txs.filter filters.isRelevantTx).length, sender (scan.sends + n) = false) := by
  induction txs generalizing scan with
  | nil =>
    refine .inl ⟨by simp, ?_⟩
    simp [sendRelevant]
  | cons tx txs ih =>
    rw [sendRelevant, List.filter_cons]
    by_cases hrelevant : filters.isRelevantTx tx = true
    · rw [if_pos hrelevant, if_pos hrelevant, List.length_cons]
      cases hsend : sender scan.sends with
      | false => exact .inr ⟨rfl, 0, by omega, hsend⟩
      | true =>
        rw [if_pos rfl]
        rcases ih { scan with sent := scan.sent ++ [tx], sends := scan.sends + 1 } with
          ⟨hall, hrest⟩ | ⟨hrest, n, hn, hfailed⟩
        · refine .inl ⟨fun n hn => ?_, ?_⟩
          · cases n with
            | zero => exact hsend
            | succ n =>
              have hn' := hall n (by omega)
              simpa [Nat.add_assoc, Nat.add_comm 1 n] using hn'
          · rw [hrest]
            simp [Nat.add_assoc, Nat.add_comm 1]
        · refine .inr ⟨hrest, n + 1, by omega, ?_⟩
          simpa [Nat.add_assoc, Nat.add_comm 1 n] using hfailed
    · rw [if_neg hrelevant, if_neg hrelevant]
      exact ih scan

theorem sendRelevant_scanned (height : Nat) (txs : List ChainTransaction) (scan : Scan) :
    (sendRelevant filters sender height txs scan).scanned = scan.scanned ∨
      (sendRelevant filters sender height txs scan).scanned = scan.scanned ++ [height] := by
  rcases sendRelevant_cases filters sender height txs scan with h | h
  · rw [h.2]
    exact .inr rfl
  · exact .inl h.1

/-- The blocks that were gone through are among those that arrived, in their order. -/
theorem scanBlocks_scanned (node : Node Hash Raw) (rawAt : Nat → Raw) (filters : ScanFilters)
    (sender : Nat → Bool) (heights : List Nat) (scan : Scan) :
    ∃ done, done.Sublist heights ∧
      (scanBlocks node filters sender (heights.map fun height => (height, rawAt height))
        scan).scanned = scan.scanned ++ done := by
  induction heights generalizing scan with
  | nil => exact ⟨[], List.Sublist.slnil, by simp [scanBlocks]⟩
  | cons height heights ih =>
    rw [List.map_cons, scanBlocks]
    cases hparse : node.parseBlock (rawAt height) with
    | none =>
      obtain ⟨done, hdone, heq⟩ := ih scan
      exact ⟨done, hdone.cons height, heq⟩
    | some txs =>
      obtain ⟨done, hdone, heq⟩ := ih (sendRelevant filters sender height txs scan)
      rcases sendRelevant_scanned filters sender height txs scan with
        hsend | hsend
      · exact ⟨done, hdone.cons height, by rw [heq, hsend]⟩
      · exact ⟨height :: done, hdone.cons_cons height, by rw [heq, hsend]; simp⟩

theorem append_ne_of_sublist {before done heights : List Nat} (height : Nat)
    (h : done.Sublist heights) : before ++ done ≠ before ++ height :: heights := by
  intro heq
  have hlen := congrArg List.length (List.append_cancel_left heq)
  have hle := h.length_le
  simp only [List.length_cons] at hlen
  omega

def relevantTxs (filters : ScanFilters) (chain : Nat → List ChainTransaction)
    (heights : List Nat) : List ChainTransaction :=
  heights.flatMap fun height => (chain height).filter filters.isRelevantTx

/-- All blocks are gone through exactly when all parse and all sends have a receiver, and then the
relevant transactions were sent in order. -/
theorem scanBlocks_all (hserves : node.Serves hashAt rawAt chain) (heights : List Nat)
    (scan : Scan) :
    ((scanBlocks node filters sender (heights.map fun height => (height, rawAt height))
        scan).scanned = scan.scanned ++ heights ↔
      (∀ height ∈ heights, (node.parseBlock (rawAt height)).isSome = true) ∧
        ∀ n < (relevantTxs filters chain heights).length, sender (scan.sends + n) = true) ∧
    ((scanBlocks node filters sender (heights.map fun height => (height, rawAt height))
        scan).scanned = scan.scanned ++ heights →
      (scanBlocks node filters sender (heights.map fun height => (height, rawAt height))
        scan).sent = scan.sent ++ relevantTxs filters chain heights) := by
  induction heights generalizing scan with
  | nil => simp [scanBlocks, relevantTxs]
  | cons height heights ih =>
    rw [List.map_cons, scanBlocks]
    cases hparse : node.parseBlock (rawAt height) with
    | none =>
      obtain ⟨done, hdone, heq⟩ := scanBlocks_scanned node rawAt filters sender heights scan
      have hno : (scanBlocks node filters sender (heights.map fun height => (height, rawAt height))
          scan).scanned ≠ scan.scanned ++ height :: heights := by
        rw [heq]
        exact append_ne_of_sublist height hdone
      refine ⟨iff_of_false hno fun h => ?_, fun h => absurd h hno⟩
      have := h.1 height (List.mem_cons_self ..)
      rw [hparse] at this
      cases this
    | some txs =>
      obtain rfl := hserves.parsed height txs hparse
      simp only
      have hcons : relevantTxs filters chain (height :: heights) =
          (chain height).filter filters.isRelevantTx ++ relevantTxs filters chain heights := rfl
      rw [hcons, List.length_append]
      rcases sendRelevant_cases filters sender height (chain height) scan with
        ⟨hall, hsend⟩ | ⟨hscanned, n, hn, hfailed⟩
      · obtain ⟨hiff, hsent⟩ := ih (sendRelevant filters sender height (chain height) scan)
        simp only [hsend, List.append_assoc, List.cons_append, List.nil_append] at hiff hsent ⊢
        refine ⟨hiff.trans ⟨fun h => ⟨?_, fun n hn => ?_⟩, fun h => ⟨?_, fun n hn => ?_⟩⟩, hsent⟩
        · intro k hk
          rcases List.mem_cons.mp hk with rfl | hk
          · rw [hparse]
            rfl
          · exact h.1 k hk
        · by_cases hin : n < ((chain height).filter filters.isRelevantTx).length
          · exact hall n hin
          · have hrest := h.2 (n - ((chain height).filter filters.isRelevantTx).length) (by omega)
            rwa [Nat.add_assoc, Nat.add_sub_cancel' (by omega)] at hrest
        · exact fun k hk => h.1 k (List.mem_cons_of_mem _ hk)
        · rw [Nat.add_assoc]
          exact h.2 _ (by omega)
      · -- the failed send leaves the block out
        obtain ⟨done, hdone, heq⟩ := scanBlocks_scanned node rawAt filters sender heights
          (sendRelevant filters sender height (chain height) scan)
        have hno : (scanBlocks node filters sender
            (heights.map fun height => (height, rawAt height))
            (sendRelevant filters sender height (chain height) scan)).scanned ≠
              scan.scanned ++ height :: heights := by
          rw [heq, hscanned]
          exact append_ne_of_sublist height hdone
        refine ⟨iff_of_false hno fun h => ?_, fun h => absurd h hno⟩
        have := h.2 n (by omega)
        rw [hfailed] at this
        cases this

/-! ## Whole rescans -/

/-- What a successful rescan sent is what the chain has, and up to the tip that is stored every
block was gone through. -/
structure Complete (filters : ScanFilters) (chain : Nat → List ChainTransaction)
    (startHeight : Nat) (r : Result) : Prop where
  sent : ∀ last, r.result = .ok last →
    r.scan.sent = relevantTxs filters chain (List.range' startHeight (last + 1 - startHeight))
  tip : ∀ tip, r.tip = some tip → ∀ height : Nat, startHeight ≤ height → (height : Int) ≤ tip →
    height ∈ r.scan.scanned

/-- No call for a block fails, all blocks parse, and the channel has a receiver for each relevant
transaction; unless the rescan ends with an error anyway. -/
def Undisturbed (node : Node Hash Raw) (hashAt : Nat → Hash) (rawAt : Nat → Raw)
    (chain : Nat → List ChainTransaction) (filters : ScanFilters) (sender : Nat → Bool)
    (setHeight : Bool) (startHeight : Nat) : Prop :=
  ∀ last, node.blockchainInfo = some last → startHeight ≤ last → setHeight = true →
    (∀ heights ∈ batches startHeight last, node.AnswersBatch hashAt rawAt heights) ∧
    (∀ height, startHeight ≤ height → height ≤ last →
      (node.parseBlock (rawAt height)).isSome = true) ∧
    ∀ n < (relevantTxs filters chain
      (List.range' startHeight (last + 1 - startHeight))).length, sender n = true

theorem asI32_of_lt {height : Nat} (h : height < 2 ^ 31) : asI32 height = height := by
  unfold asI32
  exact Int.bmod_eq_of_le (by omega) (by omega)

theorem eq_of_sublist_of_forall_mem {l heights : List Nat} (hsub : l.Sublist heights)
    (hnodup : heights.Nodup) (hmem : ∀ height ∈ heights, height ∈ l) : l = heights :=
  hsub.eq_of_length (Nat.le_antisymm hsub.length_le
    (hnodup.subperm hmem).length_le)

/-- A rescan is complete exactly when nothing disturbs it: it reports no failure of a single block
or of a batch, and stores the height of the chain all the same. -/
theorem rescan_complete_iff (hserves : node.Serves hashAt rawAt chain) (setHeight : Bool)
    (startHeight : Nat) :
    Complete filters chain startHeight (rescan node filters sender setHeight startHeight) ↔
      Undisturbed node hashAt rawAt chain filters sender setHeight startHeight := by
  unfold rescan Undisturbed
  cases hinfo : node.blockchainInfo with
  | none => exact ⟨fun _ _ h => (nomatch h), fun _ => ⟨fun _ h => (nomatch h), fun _ h => (nomatch h)⟩⟩
  | some last =>
    simp only [Option.some.injEq, forall_eq']
    by_cases hstart : startHeight > last
    · rw [if_pos hstart]
      exact ⟨fun _ h => by omega, fun _ => ⟨fun _ h => (nomatch h), fun _ h => (nomatch h)⟩⟩
    · rw [if_neg hstart]
      have hle : startHeight ≤ last := by omega
      cases setHeight with
      | false =>
        exact ⟨fun _ _ h => (nomatch h), fun _ => ⟨fun _ h => (nomatch h), fun _ h => (nomatch h)⟩⟩
      | true =>
        simp only [if_true, hle, forall_const]
        obtain ⟨found, hsub, hfetch, hanswered⟩ :=
          fetchBlocks_eq hserves (batches startHeight last)
            fun heights => ne_nil_of_mem_batches hle
        rw [batches_flatten hle] at hsub hanswered
        rw [hfetch]
        obtain ⟨hall, hsent⟩ := scanBlocks_all filters sender hserves found {}
        have htip := asI32_of_lt (hserves.height last hinfo)
        constructor
        · intro hcomplete
          obtain ⟨done, hdone, hscanned⟩ := scanBlocks_scanned node rawAt filters sender found {}
          have hmem : ∀ height ∈ List.range' startHeight (last + 1 - startHeight),
              height ∈ done := by
            intro height hheight
            rw [List.mem_range'_1] at hheight
            have := hcomplete.tip _ rfl height hheight.1 (by rw [htip]; omega)
            rwa [hscanned] at this
          have heqdone := eq_of_sublist_of_forall_mem (hdone.trans hsub) List.nodup_range' hmem
          obtain rfl : found = List.range' startHeight (last + 1 - startHeight) :=
            hsub.eq_of_length (Nat.le_antisymm hsub.length_le (heqdone ▸ hdone.length_le))
          obtain ⟨hparse, hsends⟩ := hall.mp (by rw [hscanned, heqdone])
          refine ⟨hanswered.mp rfl, fun height h₁ h₂ => ?_, fun n hn => ?_⟩
          · exact hparse height (List.mem_range'_1.mpr (by omega))
          · simpa using hsends n hn
        · rintro ⟨hbatches, hparse, hsends⟩
          obtain rfl := hanswered.mpr hbatches
          have hscanned := hall.mpr ⟨fun height hheight => ?_, fun n hn => ?_⟩
          · refine ⟨fun last' h => ?_, fun tip h height h₁ h₂ => ?_⟩
            · cases h
              simpa using hsent hscanned
            · obtain rfl := Option.some.inj h
              rw [htip] at h₂
              rw [hscanned, List.nil_append, List.mem_range'_1]
              omega
          · rw [List.mem_range'_1] at hheight
            exact hparse height hheight.1 (by omega)
          · simpa using hsends n hn

end

/-! ## A lockup in the second of three blocks -/

def lockupFilters : ScanFilters := { inputs := [], outputs := [[0x51]] }

def lockupChain : Nat → List ChainTransaction
  | 2 => [{ id := 20, inputOutpoints := [], outputScriptPubkeys := [[0x51]] }]
  | _ => []

/-- A node that answers everything but the blocks in `missing`. -/
def lockupNode (missing : List Nat) : Node Nat Nat :=
  { blockchainInfo := some 3
    getBlockHashes := fun heights => some (heights.map some)
    getBlocks := fun hashes =>
      some (hashes.map fun hash => if missing.contains hash then none else some hash)
    parseBlock := fun block => some (lockupChain block) }

theorem lockupNode_serves (missing : List Nat) :
    (lockupNode missing).Serves (fun height => height) (fun height => height) lockupChain := by
  refine ⟨fun last h => ?_, fun heights answers h => ?_, fun heights answers h => ?_,
    fun height txs h => (Option.some.inj h).symm⟩
  · obtain rfl := Option.some.inj h
    decide
  · obtain rfl := Option.some.inj h
    rw [List.forall₂_map_right_iff]
    exact List.forall₂_same.mpr fun _ _ _ hh => (Option.some.inj hh).symm
  · obtain rfl := Option.some.inj h
    rw [List.map_id', List.forall₂_map_right_iff]
    refine List.forall₂_same.mpr fun height _ raw hraw => ?_
    split at hraw
    · cases hraw
    · exact (Option.some.inj hraw).symm

theorem lockupNode_complete :
    Complete lockupFilters lockupChain 1
      (rescan (lockupNode []) lockupFilters (fun _ => true) true 1) := by
  refine (rescan_complete_iff lockupFilters (fun _ => true) (lockupNode_serves []) true 1).mpr ?_
  refine fun last _ _ _ => ⟨fun heights _ => ⟨rfl, ?_⟩, fun _ _ _ => rfl, fun _ _ => rfl⟩
  simp [lockupNode]

/-- The node does not answer for the block with the lockup: the rescan succeeds without having sent
anything, and stores a tip after that block. -/
theorem rescan_skips_block :
    (rescan (lockupNode [2]) lockupFilters (fun _ => true) true 1) =
        { result := .ok 3, scan := { scanned := [1, 3] }, tip := some 3 } ∧
      ¬Complete lockupFilters lockupChain 1
        (rescan (lockupNode [2]) lockupFilters (fun _ => true) true 1) := by
  have hrun : rescan (lockupNode [2]) lockupFilters (fun _ => true) true 1 =
      { result := .ok 3, scan := { scanned := [1, 3] }, tip := some 3 } := by decide
  refine ⟨hrun, fun h => ?_⟩
  rw [hrun] at h
  have hsent := h.sent 3 rfl
  revert hsent
  decide

end Rescan

end Boltz

import Boltz.Service.ClaimBatches

/-!
# Deferred claims are neither lost nor duplicated

A swap is counted wherever it can be: in a call that is about to set it, in the maps, in the batch
that is being claimed and in the broadcasts that succeeded. Every step moves what is counted; only
`deferClaim` and the leftovers of the last run add to it, and they do so for swaps that were not
counted before.
-/

namespace Boltz.ClaimBatches

/-- The symbol of a batch. -/
def Running.symbol? : Running → Option Nat
  | batchClaim symbol _ | failedChunk symbol _ _ | claimedChunk symbol _ _ => some symbol
  | _ => none

/-- The entry that is being claimed cooperatively and still in its map. -/
def Running.details? : Running → Option Entry
  | cooperativeDetails e | broadcastCooperativeTransaction e => some e
  | _ => none

namespace State

section

variable (cfg : Config)

/-- How often a swap is in the maps. -/
def pending (s : State) (k : Key) : Nat := s.maps.pending cfg k

/-- How often a swap is in the batch that is being claimed. -/
def batched (s : State) (k : Key) : Nat := copies (s.running.elim [] Running.batch) k

/-- The swaps of all successful broadcasts. -/
def claimed (s : State) : List Key := s.broadcasts.flatten

/-- The deferred claims are neither lost nor duplicated. -/
structure Conserved (s : State) : Prop where
  /-- what is not claimed is in exactly one place -/
  pending : ∀ k ∈ s.queued, k ∉ s.claimed → s.pending cfg k + s.batched k = 1
  /-- what is in none of them was broadcast -/
  removed : ∀ k ∈ s.queued, s.pending cfg k = 0 → s.batched k = 0 → k ∈ s.claimed
  placed : s.maps.Placed cfg
  /-- no swap is in two broadcasts, or in one of them twice -/
  once : s.claimed.Nodup

/-- `TransactionClaimPending` is stored over a row that `fetchSwapForSettlement` would still
accept, what is settled stays so, the leftovers are read before anything is deferred, and the fee
of a transaction that was sent can be calculated. -/
def Admits (s : State) : Op → Prop
  | .store k row => alreadySettled (s.rows k).status = true → alreadySettled row.status = true
  | .deferClaim e _ => alreadySettled (s.rows e.swap).status = false
  | .readLeftovers => s.stored = []
  | .broadcastCooperativeTransaction result => result ≠ .successThenFailed
  | _ => True

inductive Reaches (admits : State → Op → Prop) (s₀ : State) : State → Prop
  | start : Reaches admits s₀ s₀
  | step {s s' : State} (o : Op) : Reaches admits s₀ s → admits s o → s.step cfg o = some s' →
      Reaches admits s₀ s'

/-- How often a swap is held anywhere. -/
def held (s : State) (k : Key) : Nat :=
  copies s.setting k + copies (s.leftovers.getD []) k + s.pending cfg k + s.batched k +
    s.claimed.count k

structure Inv (s : State) : Prop where
  placed : s.maps.Placed cfg
  symbol : ∀ r symbol, s.running = some r → r.symbol? = some symbol →
    ∀ e ∈ r.batch, cfg.chainCurrency e.swap = symbol
  details : ∀ r e, s.running = some r → r.details? = some e → 0 < s.pending cfg e.swap
  held : ∀ k, s.held cfg k ≤ 1
  settled : ∀ k, 0 < s.held cfg k → alreadySettled (s.rows k).status = true
  stored : ∀ k, 0 < s.held cfg k → k ∈ s.stored
  queued : ∀ k ∈ s.queued, 0 < s.pending cfg k + s.batched k + s.claimed.count k

end

section

variable {cfg : Config} {s s' : State}

theorem Inv.conserved (hi : s.Inv cfg) : s.Conserved cfg := by
  refine ⟨fun k hk hc => ?_, fun k hk hp hb => ?_, hi.placed, ?_⟩
  · have hpos := hi.queued k hk
    have hheld := hi.held k
    have hzero : s.claimed.count k = 0 := List.count_eq_zero.mpr hc
    unfold State.held at hheld
    omega
  · have hpos := hi.queued k hk
    rw [hp, hb] at hpos
    exact List.count_pos_iff.mp (by omega)
  · rw [List.nodup_iff_count_le_one]
    intro k
    have hheld := hi.held k
    unfold State.held at hheld
    omega

theorem inv_start (rows : Key → Row) : ({ rows } : State).Inv cfg where
  placed t symbol e h := by
    unfold PendingMaps.get at h
    split at h <;> cases h
  symbol _ _ h := by cases h
  details _ _ h := by cases h
  held k := by
    have h : ({ rows } : State).held cfg k = 0 := by
      unfold State.held pending PendingMaps.pending PendingMaps.get
      split <;> rfl
    omega
  settled k h := by
    unfold State.held pending PendingMaps.pending PendingMaps.get at h
    split at h <;> cases h
  stored k h := by
    unfold State.held pending PendingMaps.pending PendingMaps.get at h
    split at h <;> cases h
  queued k h := by cases h

/-- A step that holds no swap it did not hold before. -/
theorem Inv.of_moved (hi : s.Inv cfg) (hplaced : s'.maps.Placed cfg)
    (hsymbol : ∀ r symbol, s'.running = some r → r.symbol? = some symbol →
      ∀ e ∈ r.batch, cfg.chainCurrency e.swap = symbol)
    (hdetails : ∀ r e, s'.running = some r → r.details? = some e → 0 < s'.pending cfg e.swap)
    (hheld : ∀ k, s'.held cfg k ≤ s.held cfg k)
    (hrows : ∀ k, alreadySettled (s.rows k).status = true →
      alreadySettled (s'.rows k).status = true)
    (hstored : s'.stored = s.stored)
    (hqueued : ∀ k ∈ s'.queued, 0 < s'.pending cfg k + s'.batched k + s'.claimed.count k) :
    s'.Inv cfg where
  placed := hplaced
  symbol := hsymbol
  details := hdetails
  held k := (hheld k).trans (hi.held k)
  settled k h := hrows k (hi.settled k (h.trans_le (hheld k)))
  stored k h := by
    rw [hstored]
    exact hi.stored k (h.trans_le (hheld k))
  queued := hqueued

/-- A step that neither takes from the maps nor from the batch. -/
theorem Inv.of_running (hi : s.Inv cfg) {r : Option Running} (rows : Key → Row)
    (hbatch : r.elim [] Running.batch = s.running.elim [] Running.batch)
    (hsymbol : ∀ x symbol, r = some x → x.symbol? = some symbol →
      ∀ e ∈ x.batch, cfg.chainCurrency e.swap = symbol)
    (hdetails : ∀ x e, r = some x → x.details? = some e → 0 < s.pending cfg e.swap)
    (hrows : ∀ k, alreadySettled (s.rows k).status = true →
      alreadySettled (rows k).status = true) :
    ({ s with running := r, rows } : State).Inv cfg := by
  have hbatched : ∀ k, ({ s with running := r, rows } : State).batched k = s.batched k :=
    fun k => congrArg (copies · k) hbatch
  refine hi.of_moved hi.placed hsymbol hdetails (fun k => ?_) hrows rfl fun k hk => ?_
  · unfold State.held
    rw [hbatched k]
    exact Nat.le_refl _
  · rw [hbatched k]
    exact hi.queued k hk

/-- `batchClaimLock` is released with no batch left. -/
theorem Inv.released (hi : s.Inv cfg) (rows : Key → Row)
    (hbatch : s.running.elim [] Running.batch = [])
    (hrows : ∀ k, alreadySettled (s.rows k).status = true →
      alreadySettled (rows k).status = true) :
    ({ s with running := none, rows } : State).Inv cfg := by
  refine hi.of_running rows ?_ (fun x symbol hx => ?_) (fun x e hx => ?_) hrows
  · exact hbatch.symm
  · cases hx
  · cases hx

/-! ## Claims that come in -/

theorem settled_storePending (s : State) (e : Entry) (k : Key)
    (h : alreadySettled (s.rows k).status = true ∨ k = e.swap) :
    alreadySettled ((s.storePending e).rows k).status = true := by
  unfold storePending
  by_cases hk : k = e.swap
  · subst hk
    simp only [Function.update_self]
    split <;> rfl
  · simp only [Function.update_of_ne hk]
    exact h.resolve_right hk

theorem settled_storeClaimedRow (s : State) (e : Entry) (k : Key)
    (h : alreadySettled (s.rows k).status = true) :
    alreadySettled ((s.storeClaimedRow e).rows k).status = true := by
  unfold storeClaimedRow
  by_cases hk : k = e.swap
  · subst hk
    simp only [Function.update_self]
    split <;> rfl
  · simp only [Function.update_of_ne hk]
    exact h

theorem inv_store (hi : s.Inv cfg) {k : Key} {row : Row}
    (ha : alreadySettled (s.rows k).status = true → alreadySettled row.status = true) :
    ({ s with rows := Function.update s.rows k row } : State).Inv cfg := by
  refine hi.of_running (r := s.running) _ rfl hi.symbol hi.details fun k' h => ?_
  by_cases hk : k' = k
  · subst hk
    simp only [Function.update_self]
    exact ha h
  · simp only [Function.update_of_ne hk]
    exact h

/-- A swap that is not settled is held nowhere, so that it is held once now. -/
theorem inv_deferClaim (hi : s.Inv cfg) {e : Entry} {latestContracts : Bool}
    (ha : alreadySettled (s.rows e.swap).status = false)
    (h : s.deferClaim cfg e latestContracts = some s') : s'.Inv cfg := by
  unfold deferClaim at h
  split at h
  · cases h
  simp only [Option.some.injEq] at h
  subst h
  have hzero : s.held cfg e.swap = 0 := by
    by_contra hne
    rw [hi.settled e.swap (Nat.pos_of_ne_zero hne)] at ha
    cases ha
  have hheld : ∀ k, State.held cfg
      { s.storePending e with setting := e :: s.setting, stored := e.swap :: s.stored } k =
        s.held cfg k + if e.swap = k then 1 else 0 := by
    intro k
    change copies (e :: s.setting) k + copies (s.leftovers.getD []) k + s.pending cfg k +
      s.batched k + s.claimed.count k = _
    rw [copies_cons]
    unfold State.held
    omega
  refine ⟨hi.placed, hi.symbol, hi.details, fun k => ?_, fun k hk => ?_, fun k hk => ?_, hi.queued⟩
  · have hle := hi.held k
    refine (hheld k).trans_le ?_
    split
    · rename_i heq
      rw [← heq, hzero]
    · omega
  · refine settled_storePending s e k ?_
    by_cases heq : e.swap = k
    · exact .inr heq.symm
    · refine .inl (hi.settled k ?_)
      have := hheld k
      rw [if_neg heq] at this
      exact hk.trans_eq this
  · by_cases heq : e.swap = k
    · exact List.mem_cons.mpr (.inl heq.symm)
    · refine List.mem_cons.mpr (.inr (hi.stored k ?_))
      have := hheld k
      rw [if_neg heq] at this
      exact hk.trans_eq this

/-- The call sets its entry: it is in no map, since it is held once. -/
theorem inv_setToClaim (hi : s.Inv cfg) {e : Entry} (h : s.setToClaim cfg e = some s') :
    s'.Inv cfg := by
  unfold setToClaim at h
  split at h
  · cases h
  rename_i hc
  simp only [Bool.not_eq_true, Bool.not_eq_false', Bool.and_eq_true,
    List.contains_iff_mem] at hc
  simp only [Option.some.injEq] at h
  subst h
  have herase : ∀ k, copies (s.setting.erase e) k + (if e.swap = k then 1 else 0) =
      copies s.setting k := fun k => copies_erase hc.1
  have hzero : s.maps.pending cfg e.swap = 0 := by
    have h1 := hi.held e.swap
    have h2 := herase e.swap
    rw [if_pos rfl] at h2
    unfold State.held pending at h1
    omega
  have hset : ∀ k, (s.maps.set (cfg.chainCurrency e.swap) e).pending cfg k =
      s.maps.pending cfg k + if e.swap = k then 1 else 0 := fun k => PendingMaps.pending_set hzero
  refine hi.of_moved (PendingMaps.placed_set hi.placed) hi.symbol (fun r x hr hx => ?_)
    (fun k => ?_) (fun k h => h) rfl fun k hk => ?_
  · have hpos := hi.details r x hr hx
    unfold pending at hpos ⊢
    rw [hset]
    omega
  · have h2 := herase k
    unfold State.held pending
    rw [hset]
    change copies (s.setting.erase e) k + copies (s.leftovers.getD []) k + _ + s.batched k +
      s.claimed.count k ≤ _
    omega
  · unfold pending
    rw [hset]
    rcases List.mem_cons.mp hk with rfl | hk
    · rw [if_pos rfl]
      omega
    · have hpos := hi.queued k hk
      unfold pending at hpos
      change 0 < _ + s.batched k + s.claimed.count k
      omega

/-! ## Leftovers -/

theorem mem_claimable {e : Entry} (h : e ∈ s.claimable cfg) :
    (s.rows e.swap).status = .transactionClaimPending := by
  unfold claimable at h
  obtain ⟨k, hk, rfl⟩ := List.mem_map.mp h
  rcases List.mem_append.mp hk with hk | hk
  · exact of_decide_eq_true (List.mem_filter.mp (List.mem_filter.mp hk).1).2
  · exact of_decide_eq_true (List.mem_filter.mp (List.mem_filter.mp hk).1).2

theorem copies_claimable (s : State) (k : Key) : copies (s.claimable cfg) k ≤ 1 := by
  have hnodup : ((s.claimable cfg).map (·.swap)).Nodup := by
    unfold claimable
    rw [List.map_map]
    refine List.Nodup.map (fun a b h => h) ?_
    refine List.nodup_append.mpr ⟨(cfg.nodup.filter _).filter _, (cfg.nodup.filter _).filter _, ?_⟩
    rintro a ha b hb rfl
    have h1 := of_decide_eq_true (List.mem_filter.mp ha).2
    have h2 := of_decide_eq_true (List.mem_filter.mp hb).2
    exact h2 h1
  rw [← count_map_swap]
  exact List.nodup_iff_count_le_one.mp hnodup k

theorem inv_readLeftovers (hi : s.Inv cfg) (ha : s.stored = [])
    (h : s.readLeftovers cfg = some s') : s'.Inv cfg := by
  unfold readLeftovers at h
  simp only [Option.some.injEq] at h
  subst h
  have hzero : ∀ k, s.held cfg k = 0 := by
    intro k
    by_contra hne
    have hmem := hi.stored k (Nat.pos_of_ne_zero hne)
    rw [ha] at hmem
    cases hmem
  have hheld : ∀ k, State.held cfg
      { s with
        leftovers := some (s.claimable cfg)
        stored := (s.claimable cfg).map (·.swap) ++ s.stored } k = copies (s.claimable cfg) k := by
    intro k
    have h0 := hzero k
    unfold State.held at h0
    change copies s.setting k + copies (s.claimable cfg) k + s.pending cfg k + s.batched k +
      s.claimed.count k = _
    omega
  refine ⟨hi.placed, hi.symbol, hi.details, fun k => ?_, fun k hk => ?_, fun k hk => ?_, hi.queued⟩
  · exact (hheld k).trans_le (copies_claimable s k)
  · obtain ⟨e, he, rfl⟩ := copies_pos.mp (hk.trans_eq (hheld k))
    change alreadySettled (s.rows e.swap).status = true
    rw [mem_claimable he]
    rfl
  · obtain ⟨e, he, rfl⟩ := copies_pos.mp (hk.trans_eq (hheld k))
    exact List.mem_append_left _ (List.mem_map.mpr ⟨e, he, rfl⟩)

theorem inv_setLeftovers (hi : s.Inv cfg) (h : s.setLeftovers cfg = some s') : s'.Inv cfg := by
  unfold setLeftovers at h
  split at h
  · cases h
  rename_i entries hleft
  split at h
  · cases h
  simp only [Option.some.injEq] at h
  subst h
  -- the loop may stop early: what is set is a part of what was read
  generalize hset : entries.takeWhile
    (fun e => cfg.deferredClaimSymbols.contains (cfg.chainCurrency e.swap)) = taken
  have htaken : ∀ k, copies taken k ≤ copies entries k := by
    intro k
    rw [← hset]
    exact (List.takeWhile_sublist _).countP_le
  have hsum : ∀ k, copies s.setting k + copies entries k + s.maps.pending cfg k + s.batched k +
      s.claimed.count k = s.held cfg k := by
    intro k
    unfold State.held pending
    rw [hleft]
    rfl
  have hmaps : ∀ k, (s.maps.setAll cfg.chainCurrency taken).pending cfg k =
      s.maps.pending cfg k + copies taken k := by
    refine fun k => PendingMaps.pending_setAll taken (fun _ _ => rfl) fun k' => ?_
    have h1 := hi.held k'
    have h2 := hsum k'
    have h3 := htaken k'
    omega
  refine hi.of_moved (PendingMaps.placed_setAll taken (fun _ _ => rfl) hi.placed) hi.symbol
    (fun r x hr hx => ?_) (fun k => ?_) (fun k h => h) rfl fun k hk => ?_
  · have hpos := hi.details r x hr hx
    unfold pending at hpos ⊢
    rw [hmaps]
    omega
  · have h2 := hsum k
    have h3 := htaken k
    unfold State.held pending at h2 ⊢
    rw [hmaps]
    change copies s.setting k + 0 + _ + s.batched k + s.claimed.count k ≤ _
    omega
  · unfold pending
    rw [hmaps]
    rcases List.mem_append.mp hk with hk | hk
    · obtain ⟨e, he, rfl⟩ := List.mem_map.mp hk
      have hpos : 0 < copies taken e.swap := copies_pos.mpr ⟨e, he, rfl⟩
      omega
    · have hpos := hi.queued k hk
      unfold pending at hpos
      change 0 < _ + s.batched k + s.claimed.count k
      omega

/-! ## Batches -/

theorem inv_sweepSymbol (hi : s.Inv cfg) {symbol : Nat} (h : s.sweepSymbol symbol = some s') :
    s'.Inv cfg := by
  unfold sweepSymbol at h
  split at h
  · cases h
  rename_i hfree
  simp only [Option.some.injEq] at h
  subst h
  have hnone : s.running = none := by simpa using hfree
  refine hi.of_running s.rows ?_ (fun x symbol hx hs => ?_) (fun x e hx he => ?_) fun k h => h
  · rw [hnone]
    rfl
  · cases hx
    cases hs
  · cases hx
    cases he

theorem inv_takeToClaim (hi : s.Inv cfg) (h : s.takeToClaim = some s') : s'.Inv cfg := by
  unfold takeToClaim at h
  split at h
  swap
  · cases h
  rename_i symbol hrun
  simp only [Option.some.injEq] at h
  have hchunks : (DeferredClaimer.arrayToChunks DeferredClaimer.maxBatchClaimChunk
      (s.maps.values symbol).length (s.maps.values symbol)).flatten = s.maps.values symbol :=
    flatten_arrayToChunks (by decide) _ _ (Nat.le_refl _)
  have hbatched : ∀ k, s'.batched k = copies (s.maps.values symbol) k := by
    intro k
    subst h
    unfold batched
    dsimp only
    split
    · rename_i hempty
      rw [List.isEmpty_iff.mp hempty]
      rfl
    · exact congrArg (copies · k) hchunks
  have hbefore : ∀ k, s.batched k = 0 := by
    intro k
    unfold batched
    rw [hrun]
    rfl
  have hclear : ∀ k, (s.maps.clear symbol).pending cfg k + s'.batched k = s.maps.pending cfg k := by
    intro k
    rw [hbatched]
    exact PendingMaps.pending_clear hi.placed
  subst h
  refine hi.of_moved (PendingMaps.placed_clear hi.placed) (fun r sym hr hs e he => ?_)
    (fun r e hr he => ?_) (fun k => ?_) (fun k h => h) rfl fun k hk => ?_
  · dsimp only at hr
    split at hr
    · cases hr
    · simp only [Option.some.injEq] at hr
      subst hr
      cases hs
      change e ∈ (DeferredClaimer.arrayToChunks _ _ _).flatten at he
      rw [hchunks] at he
      obtain ⟨t, ht⟩ := PendingMaps.mem_values he
      exact (hi.placed t symbol e ht).2
  · dsimp only at hr
    split at hr
    · cases hr
    · simp only [Option.some.injEq] at hr
      subst hr
      cases he
  · have h1 := hclear k
    have h2 := hbefore k
    unfold State.held pending
    change copies s.setting k + copies (s.leftovers.getD []) k + (s.maps.clear symbol).pending cfg k
      + _ + s.claimed.count k ≤ _
    omega
  · have h1 := hclear k
    have h2 := hbefore k
    have hpos := hi.queued k hk
    unfold pending at hpos ⊢
    change 0 < (s.maps.clear symbol).pending cfg k + _ + s.claimed.count k
    omega

theorem count_claimed_cons {chunk : List Key} {rest : List (List Key)} {k : Key} :
    (chunk :: rest).flatten.count k = chunk.count k + rest.flatten.count k := by
  rw [List.flatten_cons, List.count_append]

/-- A chunk leaves the batch: it was broadcast, or it is about to be put back. -/
theorem inv_broadcastClaim (hi : s.Inv cfg) {success : Bool}
    (h : s.broadcastClaim success = some s') : s'.Inv cfg := by
  unfold broadcastClaim at h
  split at h
  swap
  · cases h
  rename_i symbol chunk chunks hrun
  have hsymbol := hi.symbol _ symbol hrun rfl
  have hbefore : ∀ k, s.batched k = copies chunk k + copies chunks.flatten k := by
    intro k
    unfold batched
    rw [hrun]
    change copies (chunk :: chunks).flatten k = _
    rw [List.flatten_cons, copies_append]
  split at h
  · simp only [Option.some.injEq] at h
    subst h
    have hclaimed : ∀ k, (chunk.map (·.swap) :: s.broadcasts).flatten.count k =
        copies chunk k + s.claimed.count k := by
      intro k
      rw [count_claimed_cons, count_map_swap]
      rfl
    refine hi.of_moved hi.placed (fun r sym hr hs e he => ?_) (fun r e hr he => ?_) (fun k => ?_)
      (fun k h => h) rfl fun k hk => ?_
    · cases hr
      cases hs
      exact hsymbol e (List.mem_flatten.mpr (by
        obtain ⟨l, hl, he⟩ := List.mem_flatten.mp he
        exact ⟨l, List.mem_cons_of_mem _ hl, he⟩))
    · cases hr
      cases he
    · have h1 := hbefore k
      have h2 := hclaimed k
      unfold State.held
      change copies s.setting k + copies (s.leftovers.getD []) k + s.pending cfg k +
        copies chunks.flatten k + (chunk.map (·.swap) :: s.broadcasts).flatten.count k ≤ _
      omega
    · have h1 := hbefore k
      have h2 := hclaimed k
      have hpos := hi.queued k hk
      change 0 < s.pending cfg k + copies chunks.flatten k +
        (chunk.map (·.swap) :: s.broadcasts).flatten.count k
      omega
  · simp only [Option.some.injEq] at h
    subst h
    refine hi.of_running s.rows ?_ (fun x sym hx hs e he => ?_) (fun x e hx he => ?_)
      fun k h => h
    · rw [hrun]
      rfl
    · cases hx
      cases hs
      exact hsymbol e he
    · cases hx
      cases he

theorem inv_restoreToClaim (hi : s.Inv cfg) (h : s.restoreToClaim = some s') : s'.Inv cfg := by
  unfold restoreToClaim at h
  split at h
  swap
  · cases h
  rename_i symbol chunk chunks hrun
  simp only [Option.some.injEq] at h
  subst h
  have hsymbol : ∀ e ∈ chunk ++ chunks.flatten, cfg.chainCurrency e.swap = symbol :=
    hi.symbol _ symbol hrun rfl
  have hown : ∀ e ∈ chunk, symbol = cfg.chainCurrency e.swap :=
    fun e he => (hsymbol e (List.mem_append_left _ he)).symm
  have hbefore : ∀ k, s.batched k = copies chunk k + copies chunks.flatten k := by
    intro k
    unfold batched
    rw [hrun]
    exact copies_append
  have hmaps : ∀ k, (s.maps.setAll (fun _ => symbol) chunk).pending cfg k =
      s.maps.pending cfg k + copies chunk k := by
    refine fun k => PendingMaps.pending_setAll chunk hown fun k' => ?_
    have h1 := hi.held k'
    have h2 := hbefore k'
    unfold State.held pending at h1
    omega
  refine hi.of_moved (PendingMaps.placed_setAll chunk hown hi.placed) (fun r sym hr hs e he => ?_)
    (fun r e hr he => ?_) (fun k => ?_) (fun k h => h) rfl fun k hk => ?_
  · cases hr
    cases hs
    exact hsymbol e (List.mem_append_right _ he)
  · cases hr
    cases he
  · have h1 := hbefore k
    unfold State.held pending
    rw [hmaps]
    change copies s.setting k + copies (s.leftovers.getD []) k + _ + copies chunks.flatten k +
      s.claimed.count k ≤ _
    omega
  · have h1 := hbefore k
    have hpos := hi.queued k hk
    unfold pending at hpos ⊢
    rw [hmaps]
    change 0 < _ + copies chunks.flatten k + s.claimed.count k
    omega

theorem inv_storeClaimed (hi : s.Inv cfg) (h : s.storeClaimed = some s') : s'.Inv cfg := by
  unfold storeClaimed at h
  split at h
  · rename_i symbol e toStore chunks hrun
    simp only [Option.some.injEq] at h
    subst h
    refine hi.of_running (s.storeClaimedRow e).rows ?_ (fun x sym hx hs x' he => ?_)
      (fun x x' hx he => ?_) (settled_storeClaimedRow s e)
    · rw [hrun]
      rfl
    · cases hx
      cases hs
      exact hi.symbol _ symbol hrun rfl x' he
    · cases hx
      cases he
  · rename_i symbol chunks hrun
    simp only [Option.some.injEq] at h
    subst h
    refine hi.of_running s.rows ?_ (fun x sym hx hs e he => ?_) (fun x e hx he => ?_)
      fun k h => h
    · rw [hrun]
      rfl
    · cases hx
      cases hs
      exact hi.symbol _ symbol hrun rfl e he
    · cases hx
      cases he
  · cases h

theorem inv_finishBatch (hi : s.Inv cfg) (h : s.finishBatch = some s') : s'.Inv cfg := by
  unfold finishBatch at h
  split at h
  swap
  · cases h
  rename_i symbol hrun
  simp only [Option.some.injEq] at h
  subst h
  refine hi.released s.rows ?_ fun k h => h
  rw [hrun]
  rfl

/-! ## Cooperative claims -/

theorem inv_broadcastCooperative (hi : s.Inv cfg) {k : Key}
    (h : s.broadcastCooperative k = some s') : s'.Inv cfg := by
  unfold broadcastCooperative at h
  split at h
  · cases h
  rename_i hfree
  simp only [Option.some.injEq] at h
  subst h
  have hnone : s.running = none := by simpa using hfree
  refine hi.of_running s.rows ?_ (fun x symbol hx hs => ?_) (fun x e hx he => ?_) fun k h => h
  · rw [hnone]
    rfl
  · cases hx
    cases hs
  · cases hx
    cases he

theorem inv_getToClaimDetails (hi : s.Inv cfg) {session : Bool}
    (h : s.getToClaimDetails cfg session = some s') : s'.Inv cfg := by
  unfold getToClaimDetails at h
  split at h
  swap
  · cases h
  rename_i k hrun
  dsimp only at h
  have hbatch : s.running.elim [] Running.batch = [] := by
    rw [hrun]
    rfl
  have hstop : ({ s with running := none } : State).Inv cfg :=
    hi.released s.rows hbatch fun k h => h
  split at h
  · rename_i e hfind
    simp only [Option.some.injEq] at h
    cases session with
    | false =>
      subst h
      exact hstop
    | true =>
      subst h
      split at hfind
      · cases hfind
      have hswap : e.swap = k := by simpa using List.find?_some hfind
      have hmem := List.mem_of_find?_eq_some hfind
      refine hi.of_running s.rows ?_ (fun x sym hx hs => ?_) (fun x x' hx he => ?_)
        fun k h => h
      · exact hbatch.symm
      · cases hx
        cases hs
      · cases hx
        cases he
        subst hswap
        exact copies_pos.mpr ⟨e, hmem, rfl⟩
  · simp only [Option.some.injEq] at h
    subst h
    exact hstop

theorem inv_lockToClaim (hi : s.Inv cfg) (h : s.lockToClaim = some s') : s'.Inv cfg := by
  unfold lockToClaim at h
  split at h
  swap
  · cases h
  rename_i e hrun
  simp only [Option.some.injEq] at h
  subst h
  refine hi.of_running s.rows ?_ (fun x sym hx hs => ?_) (fun x x' hx he => ?_)
    fun k h => h
  · rw [hrun]
    rfl
  · cases hx
    cases hs
  · cases hx
    cases he
    exact hi.details _ e hrun rfl

/-- The entry leaves its map when its transaction was sent. -/
theorem inv_broadcastCooperativeTransaction (hi : s.Inv cfg) {result : Broadcast}
    (ha : result ≠ .successThenFailed)
    (h : s.broadcastCooperativeTransaction cfg result = some s') : s'.Inv cfg := by
  unfold broadcastCooperativeTransaction at h
  split at h
  swap
  · cases h
  rename_i e hrun
  have hbefore : ∀ k, s.batched k = 0 := by
    intro k
    unfold batched
    rw [hrun]
    rfl
  cases result with
  | successThenFailed => exact absurd rfl ha
  | failed =>
    simp only [Option.some.injEq] at h
    subst h
    refine hi.released s.rows ?_ fun k h => h
    rw [hrun]
    rfl
  | success =>
    simp only [Option.some.injEq] at h
    subst h
    have hpos : 0 < s.maps.pending cfg e.swap := hi.details _ e hrun rfl
    have hmaps : ∀ k, (s.maps.delete (cfg.chainCurrency e.swap) e.swap).pending cfg k =
        if e.swap = k then 0 else s.maps.pending cfg k := fun k => PendingMaps.pending_delete
    have hclaimed : ∀ k, ([e.swap] :: s.broadcasts).flatten.count k =
        (if e.swap = k then 1 else 0) + s.claimed.count k := by
      intro k
      rw [count_claimed_cons, List.count_singleton]
      simp only [beq_iff_eq]
      rfl
    refine hi.of_moved (PendingMaps.placed_delete hi.placed) (fun r sym hr hs => ?_)
      (fun r x hr hx => ?_) (fun k => ?_) (fun k h => h) rfl fun k hk => ?_
    · cases hr
      cases hs
    · cases hr
      cases hx
    · have h1 := hbefore k
      have h2 := hclaimed k
      unfold State.held pending
      rw [hmaps]
      change copies s.setting k + copies (s.leftovers.getD []) k + _ + 0 +
        ([e.swap] :: s.broadcasts).flatten.count k ≤ _
      by_cases hk : e.swap = k
      · subst hk
        rw [if_pos rfl] at h2 ⊢
        omega
      · rw [if_neg hk] at h2 ⊢
        omega
    · have h1 := hbefore k
      have h2 := hclaimed k
      have hq := hi.queued k hk
      unfold pending at hq ⊢
      rw [hmaps]
      change 0 < _ + 0 + ([e.swap] :: s.broadcasts).flatten.count k
      by_cases hk : e.swap = k
      · rw [if_pos hk] at h2 ⊢
        omega
      · rw [if_neg hk] at h2 ⊢
        omega

theorem inv_storeCooperative (hi : s.Inv cfg) (h : s.storeCooperative = some s') : s'.Inv cfg := by
  unfold storeCooperative at h
  split at h
  swap
  · cases h
  rename_i e hrun
  simp only [Option.some.injEq] at h
  subst h
  refine hi.released (s.storeClaimedRow e).rows ?_ (settled_storeClaimedRow s e)
  rw [hrun]
  rfl

/-! ## Runs -/

theorem inv_step (hi : s.Inv cfg) (o : Op) (ha : s.Admits o) (h : s.step cfg o = some s') :
    s'.Inv cfg := by
  cases o with
  | store k row =>
    simp only [step, Option.some.injEq] at h
    subst h
    exact inv_store hi ha
  | deferClaim e latestContracts => exact inv_deferClaim hi ha h
  | setToClaim e => exact inv_setToClaim hi h
  | readLeftovers => exact inv_readLeftovers hi ha h
  | setLeftovers => exact inv_setLeftovers hi h
  | sweepSymbol symbol => exact inv_sweepSymbol hi h
  | takeToClaim => exact inv_takeToClaim hi h
  | broadcastClaim success => exact inv_broadcastClaim hi h
  | restoreToClaim => exact inv_restoreToClaim hi h
  | storeClaimed => exact inv_storeClaimed hi h
  | finishBatch => exact inv_finishBatch hi h
  | broadcastCooperative k => exact inv_broadcastCooperative hi h
  | getToClaimDetails session => exact inv_getToClaimDetails hi h
  | lockToClaim => exact inv_lockToClaim hi h
  | broadcastCooperativeTransaction result => exact inv_broadcastCooperativeTransaction hi ha h
  | storeCooperative => exact inv_storeCooperative hi h

/-- The deferred claims are neither lost nor duplicated, in every run in which no swap that is
settled is deferred again. -/
theorem claims_conserved {rows : Key → Row} (hr : Reaches cfg Admits { rows } s) :
    s.Conserved cfg := by
  have hinv : s.Inv cfg := by
    induction hr with
    | start => exact inv_start rows
    | step o _ ha h ih => exact inv_step ih o ha h
  exact hinv.conserved

end

/-! ## Runs of one chain swap -/

def sampleSwap : Key := ⟨.chain, 1⟩

def sampleConfig : Config where
  deferredClaimSymbols := [0]
  currencyType _ := .ether
  chainCurrency _ := 0
  version _ := .taproot
  swaps := [sampleSwap]
  nodup := by decide

/-- The lockup of the server is confirmed, and nothing is claimed. -/
def sampleStart : State where
  rows _ := ⟨.transactionServerConfirmed, 0⟩

def runAll (cfg : Config) : State → List Op → Option State
  | s, [] => some s
  | s, o :: os => (s.step cfg o).bind fun s => runAll cfg s os

theorem Reaches.of_runAll {cfg : Config} {admits : State → Op → Prop} {s₀ s s' : State}
    (hr : Reaches cfg admits s₀ s) (os : List Op) (ha : ∀ s o, o ∈ os → admits s o)
    (h : runAll cfg s os = some s') : Reaches cfg admits s₀ s' := by
  induction os generalizing s with
  | nil =>
    cases h
    exact hr
  | cons o os ih =>
    obtain ⟨next, hnext, hrest⟩ := Option.bind_eq_some_iff.mp h
    exact ih (.step o hr (ha s o (by simp)) hnext) (fun s o ho => ha s o (by simp [ho])) hrest

/-- The swap is deferred, its batch fails and is put back, and the next one succeeds. -/
theorem claims_conserved_retried : ∃ s, Reaches sampleConfig Admits sampleStart s ∧
    s.broadcasts = [[sampleSwap]] ∧ s.Conserved sampleConfig := by
  obtain ⟨s, hs, hb⟩ : ∃ s, runAll sampleConfig sampleStart
      [.deferClaim ⟨sampleSwap, 7⟩ true, .setToClaim ⟨sampleSwap, 7⟩, .sweepSymbol 0, .takeToClaim,
        .broadcastClaim false, .restoreToClaim, .finishBatch, .sweepSymbol 0, .takeToClaim,
        .broadcastClaim true, .storeClaimed] = some s ∧ s.broadcasts = [[sampleSwap]] := ⟨_, rfl, rfl⟩
  have hr : Reaches sampleConfig Admits sampleStart s := by
    obtain ⟨next, hnext, hrest⟩ := Option.bind_eq_some_iff.mp hs
    have hopen : sampleStart.Admits (.deferClaim ⟨sampleSwap, 7⟩ true) := by
      change alreadySettled (sampleStart.rows sampleSwap).status = false
      rfl
    refine Reaches.of_runAll (.step _ .start hopen hnext) _ (fun s o ho => ?_) hrest
    simp only [List.mem_cons, List.not_mem_nil, or_false] at ho
    rcases ho with rfl | rfl | rfl | rfl | rfl | rfl | rfl | rfl | rfl | rfl <;> exact trivial
  exact ⟨s, hr, hb, claims_conserved hr⟩

/-- Two calls of `attemptSettleSwap` read the swap before either of them defers it. When the second
one sets its entry, the first is being claimed already: the swap is in the map and in the batch.
Both of them can be broadcast. -/
theorem deferred_twice :
    (∃ s, Reaches sampleConfig (fun _ _ => True) sampleStart s ∧ ¬s.Conserved sampleConfig ∧
      s.pending sampleConfig sampleSwap = 1 ∧ s.batched sampleSwap = 1) ∧
    ∃ s, Reaches sampleConfig (fun _ _ => True) sampleStart s ∧ ¬s.Conserved sampleConfig ∧
      s.broadcasts = [[sampleSwap], [sampleSwap]] := by
  constructor
  · obtain ⟨s, hs, hq, hc, hp, hb⟩ : ∃ s, runAll sampleConfig sampleStart
        [.deferClaim ⟨sampleSwap, 7⟩ true, .setToClaim ⟨sampleSwap, 7⟩, .sweepSymbol 0,
          .takeToClaim, .deferClaim ⟨sampleSwap, 7⟩ true, .setToClaim ⟨sampleSwap, 7⟩] = some s ∧
        sampleSwap ∈ s.queued ∧ sampleSwap ∉ s.claimed ∧
        s.pending sampleConfig sampleSwap = 1 ∧ s.batched sampleSwap = 1 :=
      ⟨_, rfl, by decide, by decide, by decide, by decide⟩
    refine ⟨s, .of_runAll .start _ (fun _ _ _ => trivial) hs, fun h => ?_, hp, hb⟩
    have hone := h.pending sampleSwap hq hc
    omega
  · obtain ⟨s, hs, hb⟩ : ∃ s, runAll sampleConfig sampleStart
        [.deferClaim ⟨sampleSwap, 7⟩ true, .setToClaim ⟨sampleSwap, 7⟩, .sweepSymbol 0,
          .takeToClaim, .deferClaim ⟨sampleSwap, 7⟩ true, .setToClaim ⟨sampleSwap, 7⟩,
          .broadcastClaim true, .storeClaimed, .storeClaimed, .finishBatch, .sweepSymbol 0,
          .takeToClaim, .broadcastClaim true] = some s ∧
        s.broadcasts = [[sampleSwap], [sampleSwap]] := ⟨_, rfl, rfl⟩
    refine ⟨s, .of_runAll .start _ (fun _ _ _ => trivial) hs, fun h => ?_, hb⟩
    have honce := h.once
    unfold claimed at honce
    rw [hb] at honce
    exact absurd honce (by decide)

end State

end Boltz.ClaimBatches

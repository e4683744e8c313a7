import Boltz.Service.SwapRescue

/-!
# Windows of a scan

What a scan returns is the swaps with a key in the windows it looked at. A scan without pagination
looks at the windows up to the last used index when no gap between used indices is larger than the
gap limit. `Scans` are the steps of a scan that succeeds, and `isOk_scanWindows` says when one does.
-/

namespace Boltz.SwapRescue

/-! ## Gap limits -/

/-- The smallest used index is below `gap`, and consecutive used indices differ by at most `gap`. -/
structure Gapless (used : Nat → Prop) (gap : Nat) : Prop where
  first : ∀ i, used i → (∀ j, used j → i ≤ j) → i < gap
  next : ∀ i j, used i → used j → i < j → (∀ n, i < n → n < j → ¬ used n) → j ≤ i + gap

/-- Every used index from `start` on is in the first window or at most `gap` above another one. -/
def GaplessFrom (used : Nat → Prop) (start gap : Nat) : Prop :=
  ∀ i, used i → start ≤ i → i < start + gap ∨ ∃ j, used j ∧ start ≤ j ∧ j < i ∧ i ≤ j + gap

theorem exists_greatest_below {used : Nat → Prop} {i : Nat} (h : ∃ j, used j ∧ j < i) :
    ∃ j, used j ∧ j < i ∧ ∀ n, j < n → n < i → ¬ used n := by
  induction i with
  | zero =>
    obtain ⟨j, -, hj⟩ := h
    omega
  | succ i ih =>
    by_cases hi : used i
    · exact ⟨i, hi, by omega, fun n hn hn' => by omega⟩
    · obtain ⟨j, hj, hlt⟩ := h
      have hne : j ≠ i := fun heq => hi (heq ▸ hj)
      obtain ⟨j', hj', hlt', hnone⟩ := ih ⟨j, hj, by omega⟩
      refine ⟨j', hj', by omega, fun n hn hn' => ?_⟩
      by_cases heq : n = i
      · exact heq ▸ hi
      · exact hnone n hn (by omega)

theorem Gapless.gaplessFrom {used : Nat → Prop} {gap : Nat} (h : Gapless used gap) (start : Nat) :
    GaplessFrom used start gap := by
  intro i hi hstart
  by_cases hex : ∃ j, used j ∧ j < i
  · obtain ⟨j, hj, hlt, hnone⟩ := exists_greatest_below hex
    have hle : i ≤ j + gap := h.next j i hj hi hlt hnone
    by_cases hsj : start ≤ j
    · exact .inr ⟨j, hj, hsj, hlt, hle⟩
    · exact .inl (by omega)
  · have hleast : ∀ j, used j → i ≤ j := fun j hj => by
      by_contra hlt
      exact hex ⟨j, hj, by omega⟩
    have := h.first i hi hleast
    exact .inl (by omega)

theorem GaplessFrom.next {used : Nat → Prop} {start gap : Nat} (h : GaplessFrom used start gap) :
    GaplessFrom used (start + gap) gap := by
  intro i hi hstart
  rcases h i hi (by omega) with hlt | ⟨j, hj, hsj, hlt, hle⟩
  · omega
  · by_cases hnext : start + gap ≤ j
    · exact .inr ⟨j, hj, hnext, hlt, hle⟩
    · exact .inl (by omega)

/-- Without a used index in the first window there is none at all. -/
theorem GaplessFrom.first_used {used : Nat → Prop} {start gap : Nat}
    (h : GaplessFrom used start gap) {i : Nat} (hi : used i) (hstart : start ≤ i) :
    ∃ j, used j ∧ start ≤ j ∧ j < start + gap := by
  induction i using Nat.strongRecOn with
  | ind i ih =>
    rcases h i hi hstart with hlt | ⟨j, hj, hsj, hlt, -⟩
    · exact ⟨i, hi, hstart, hlt⟩
    · exact ih j hlt hj hsj

/-! ## The result map -/

section Results

variable {R : Type} {swapId : R → Nat} {result swaps : List R}

theorem map_insert (swap : R) :
    (insert swapId result swap).map swapId =
      (result.map swapId).filter (· != swapId swap) ++ [swapId swap] := by
  rw [insert, List.map_append, List.filter_map]
  rfl

theorem mem_map_insertAll {id : Nat} :
    id ∈ (insertAll swapId result swaps).map swapId ↔
      id ∈ result.map swapId ∨ id ∈ swaps.map swapId := by
  induction swaps generalizing result with
  | nil => simp [insertAll]
  | cons swap swaps ih =>
    have hstep : insertAll swapId result (swap :: swaps) =
        insertAll swapId (insert swapId result swap) swaps := rfl
    rw [hstep, ih, map_insert, List.mem_append, List.mem_filter, List.mem_singleton, List.map_cons,
      List.mem_cons]
    by_cases heq : id = swapId swap
    · simp [heq]
    · simp [heq]

theorem nodup_map_insertAll (h : (result.map swapId).Nodup) :
    ((insertAll swapId result swaps).map swapId).Nodup := by
  induction swaps generalizing result with
  | nil => exact h
  | cons swap swaps ih =>
    apply ih
    rw [map_insert, List.nodup_append]
    refine ⟨h.filter _, by simp, fun id hid id' hid' => ?_⟩
    rw [List.mem_singleton] at hid'
    subst hid'
    simpa using (List.mem_filter.mp hid).2

end Results

/-! ## What a window finds -/

variable {κ δ : Type} [DecidableEq κ]

def Swap.HasKey (s : Swap κ δ) (key : κ) : Prop := 0 < s.version ∧ s.refundPublicKey = some key

def ChainSwapInfo.HasKey (s : ChainSwapInfo κ δ) (key : κ) : Prop :=
  s.sending.theirPublicKey = some key ∨ s.receiving.theirPublicKey = some key

def ReverseSwap.HasKey (s : ReverseSwap κ δ) (key : κ) : Prop :=
  0 < s.version ∧ s.claimPublicKey = some key

/-- A swap of the scanned types has the key. -/
def Database.Uses (db : Database κ δ) (swapTypes : List SwapType) (key : κ) : Prop :=
  (.submarine ∈ swapTypes ∧ ∃ s ∈ db.swaps, s.HasKey key) ∨
    (.chain ∈ swapTypes ∧ ∃ s ∈ db.chainSwaps, s.HasKey key) ∨
    (.reverseSubmarine ∈ swapTypes ∧ ∃ s ∈ db.reverseSwaps, s.HasKey key)

/-- The indices of the key sequence whose key a swap of the scanned types has. -/
def Used (db : Database κ δ) (iterator : PubkeyIterator κ) (swapTypes : List SwapType)
    (i : Nat) : Prop :=
  i < iterator.maxKeys ∧ ∃ key, iterator.key? i = some key ∧ db.Uses swapTypes key

section Query

variable {db : Database κ δ} {swapTypes : List SwapType} {keys : List κ}

theorem any_contains {key : Option κ} :
    key.any (keys.contains ·) = true ↔ ∃ k ∈ keys, key = some k := by
  cases key with
  | none => simp
  | some key => simp [eq_comm]

theorem mem_getSwaps {s : Swap κ δ} :
    s ∈ db.getSwaps keys ↔ s ∈ db.swaps ∧ ∃ key ∈ keys, s.HasKey key := by
  rw [Database.getSwaps, List.mem_filter, Bool.and_eq_true, decide_eq_true_eq, any_contains]
  simp only [Swap.HasKey]
  refine and_congr_right fun _ => ⟨?_, ?_⟩
  · rintro ⟨hversion, key, hkey, h⟩
    exact ⟨key, hkey, hversion, h⟩
  · rintro ⟨key, hkey, hversion, h⟩
    exact ⟨hversion, key, hkey, h⟩

theorem mem_getChainSwaps {s : ChainSwapInfo κ δ} :
    s ∈ db.getChainSwaps keys ↔ s ∈ db.chainSwaps ∧ ∃ key ∈ keys, s.HasKey key := by
  rw [Database.getChainSwaps, List.mem_filter, Bool.or_eq_true, any_contains, any_contains]
  simp only [ChainSwapInfo.HasKey]
  refine and_congr_right fun _ => ⟨?_, ?_⟩
  · rintro (⟨key, hkey, h⟩ | ⟨key, hkey, h⟩)
    · exact ⟨key, hkey, .inl h⟩
    · exact ⟨key, hkey, .inr h⟩
  · rintro ⟨key, hkey, h | h⟩
    · exact .inl ⟨key, hkey, h⟩
    · exact .inr ⟨key, hkey, h⟩

theorem mem_getReverseSwaps {s : ReverseSwap κ δ} :
    s ∈ db.getReverseSwaps keys ↔ s ∈ db.reverseSwaps ∧ ∃ key ∈ keys, s.HasKey key := by
  rw [Database.getReverseSwaps, List.mem_filter, Bool.and_eq_true, decide_eq_true_eq,
    any_contains]
  simp only [ReverseSwap.HasKey]
  refine and_congr_right fun _ => ⟨?_, ?_⟩
  · rintro ⟨hversion, key, hkey, h⟩
    exact ⟨key, hkey, hversion, h⟩
  · rintro ⟨key, hkey, hversion, h⟩
    exact ⟨hversion, key, hkey, h⟩

theorem mem_if_nil {α : Type} {p : Prop} [Decidable p] {xs : List α} {x : α} :
    x ∈ (if p then xs else []) ↔ p ∧ x ∈ xs := by
  split <;> simp_all

theorem isEmpty_query :
    (db.query swapTypes keys).isEmpty = true ↔ ∀ key ∈ keys, ¬ db.Uses swapTypes key := by
  simp only [Rows.isEmpty, Database.query, Bool.and_eq_true, List.isEmpty_iff,
    List.eq_nil_iff_forall_not_mem, mem_if_nil, mem_getSwaps, mem_getChainSwaps,
    mem_getReverseSwaps, Database.Uses]
  constructor
  · rintro ⟨⟨hs, hc⟩, hr⟩ key hkey (⟨ht, s, hmem, h⟩ | ⟨ht, s, hmem, h⟩ | ⟨ht, s, hmem, h⟩)
    · exact hs s ⟨ht, hmem, key, hkey, h⟩
    · exact hc s ⟨ht, hmem, key, hkey, h⟩
    · exact hr s ⟨ht, hmem, key, hkey, h⟩
  · intro h
    refine ⟨⟨?_, ?_⟩, ?_⟩
    · rintro s ⟨ht, hmem, key, hkey, hs⟩
      exact h key hkey (.inl ⟨ht, s, hmem, hs⟩)
    · rintro s ⟨ht, hmem, key, hkey, hs⟩
      exact h key hkey (.inr (.inl ⟨ht, s, hmem, hs⟩))
    · rintro s ⟨ht, hmem, key, hkey, hs⟩
      exact h key hkey (.inr (.inr ⟨ht, s, hmem, hs⟩))

end Query

/-! ## Steps of the scan -/

section Windows

variable {R : Type} {swapId : R → Nat} {db : Database κ δ} {iterator : PubkeyIterator κ}
  {swapTypes : List SwapType} {process : KeyMap κ → Rows κ δ → Except ScanError (List R)}
  {gap scanEnd : Nat} {paginated : Bool} {start fuel : Nat} {m m' : KeyMap κ} {keys : List κ}
  {result result' : List R}

/-- The end of the window that starts at `start`. -/
def windowEnd (gap scanEnd start : Nat) : Nat := min (start + gap) scanEnd

/-- A window that was derived did not overflow. -/
theorem window_derived (hgap : 0 < gap) (hgap' : gap ≤ u32Max) (hend : scanEnd ≤ iterator.maxKeys)
    (hstart : start < scanEnd)
    (h : iterator.deriveKeys m start (min ((start + gap) % 2 ^ 32) scanEnd) = .ok (m', keys)) :
    start + gap < 2 ^ 32 ∧
      iterator.deriveKeys m start (windowEnd gap scanEnd start) = .ok (m', keys) ∧
      iterator.Derived start (windowEnd gap scanEnd start) m m' keys := by
  have hmax : iterator.maxKeys ≤ 2 ^ 32 - 1 := iterator.maxKeys_le_u32Max
  have hgap'' : gap ≤ 2 ^ 32 - 1 := hgap'
  have hfits : start + gap < 2 ^ 32 := by
    by_contra hover
    have hmod : (start + gap) % 2 ^ 32 < start := by
      rw [Nat.mod_eq_sub_mod (by omega)]
      exact Nat.lt_of_le_of_lt (Nat.mod_le _ _) (by omega)
    rw [PubkeyIterator.deriveKeys_of_lt (by omega) (by omega)] at h
    cases h
  rw [Nat.mod_eq_of_lt hfits] at h
  have hlast : windowEnd gap scanEnd start ≤ u32Max :=
    Nat.le_trans (Nat.min_le_right _ _) (Nat.le_trans hend iterator.maxKeys_le_u32Max)
  have hlt : start < windowEnd gap scanEnd start := by
    unfold windowEnd
    omega
  exact ⟨hfits, h, PubkeyIterator.deriveKeys_derived (by omega) hlt hlast h⟩

/-- The steps of a scan that succeeds. -/
inductive Scans (swapId : R → Nat) (db : Database κ δ) (iterator : PubkeyIterator κ)
    (swapTypes : List SwapType) (process : KeyMap κ → Rows κ δ → Except ScanError (List R))
    (gap scanEnd : Nat) (paginated : Bool) : Nat → KeyMap κ → List R → List R → Prop where
  | done {start : Nat} {m : KeyMap κ} {result : List R} (h : scanEnd ≤ start) :
      Scans swapId db iterator swapTypes process gap scanEnd paginated start m result result
  | empty {start : Nat} {m m' : KeyMap κ} {keys : List κ} {result : List R} (hlt : start < scanEnd)
      (hkeys : iterator.Derived start (windowEnd gap scanEnd start) m m' keys)
      (hpage : paginated = false) (hnone : ∀ key ∈ keys, ¬ db.Uses swapTypes key) :
      Scans swapId db iterator swapTypes process gap scanEnd paginated start m result result
  | window {start : Nat} {m m' : KeyMap κ} {keys : List κ} {result swaps result' : List R}
      (hlt : start < scanEnd)
      (hkeys : iterator.Derived start (windowEnd gap scanEnd start) m m' keys)
      (hfound : paginated = true ∨ ∃ key ∈ keys, db.Uses swapTypes key)
      (hswaps : process m' (db.query swapTypes keys) = .ok swaps)
      (hnext : Scans swapId db iterator swapTypes process gap scanEnd paginated (start + gap) m'
        (insertAll swapId result swaps) result') :
      Scans swapId db iterator swapTypes process gap scanEnd paginated start m result result'

theorem scans_of_ok (hgap : 0 < gap) (hgap' : gap ≤ u32Max) (hend : scanEnd ≤ iterator.maxKeys)
    (hfuel : scanEnd ≤ start + fuel)
    (h : scanWindows swapId db iterator swapTypes process gap scanEnd paginated fuel start m
      result = .ok result') :
    Scans swapId db iterator swapTypes process gap scanEnd paginated start m result result' := by
  induction fuel generalizing start m result with
  | zero =>
    cases h
    exact .done (by omega)
  | succ fuel ih =>
    rw [scanWindows] at h
    split at h
    · rename_i hlt
      obtain ⟨⟨m', keys⟩, hkeys, h⟩ := bind_eq_ok.mp h
      obtain ⟨hfits, -, hderived⟩ := window_derived hgap hgap' hend hlt hkeys
      dsimp only at h
      split at h
      · rename_i hempty
        cases h
        rw [Bool.and_eq_true, Bool.not_eq_true', isEmpty_query] at hempty
        exact .empty hlt hderived hempty.1 hempty.2
      · rename_i hfound
        obtain ⟨swaps, hswaps, h⟩ := bind_eq_ok.mp h
        rw [Bool.and_eq_true, Bool.not_eq_true', isEmpty_query, not_and_or,
          Bool.not_eq_false] at hfound
        push Not at hfound
        split at h
        · rename_i hmax
          cases h
          rw [Nat.mod_eq_of_lt hfits] at hmax
          exact .window hlt hderived hfound hswaps (.done (by omega))
        · exact .window hlt hderived hfound hswaps (ih (by omega) h)
    · cases h
      exact .done (by omega)

/-- The ids in the results are the ids of the swaps with a key in the scanned windows. `lists` says
which swaps the process function keeps. -/
theorem Scans.mem_ids {lists : κ → Nat → Prop}
    (huses : ∀ key id, lists key id → db.Uses swapTypes key)
    (hprocess : ∀ m keys swaps, process m (db.query swapTypes keys) = .ok swaps →
      ∀ id, id ∈ swaps.map swapId ↔ ∃ key ∈ keys, lists key id)
    (h : Scans swapId db iterator swapTypes process gap scanEnd paginated start m result result')
    (hgapless : paginated = false → scanEnd = iterator.maxKeys ∧
      GaplessFrom (Used db iterator swapTypes) start gap) (id : Nat) :
    id ∈ result'.map swapId ↔ id ∈ result.map swapId ∨
      ∃ i key, start ≤ i ∧ i < scanEnd ∧ iterator.key? i = some key ∧ lists key id := by
  induction h with
  | done hle =>
    refine ⟨.inl, ?_⟩
    rintro (h | ⟨i, key, hi, hi', -⟩)
    · exact h
    · omega
  | @empty start m m' keys result hlt hkeys hpage hnone =>
    refine ⟨.inl, ?_⟩
    rintro (h | ⟨i, key, hi, hi', hkey, hlists⟩)
    · exact h
    · obtain ⟨hscan, hgapless⟩ := hgapless hpage
      have hused : Used db iterator swapTypes i := ⟨by omega, key, hkey, huses key id hlists⟩
      obtain ⟨j, ⟨hj, key', hkey', huses'⟩, hsj, hjlt⟩ := hgapless.first_used hused hi
      refine absurd huses' (hnone key' ((hkeys.mem key').mpr ⟨j, hsj, ?_, hkey'⟩))
      unfold windowEnd
      omega
  | @window start m m' keys result swaps result' hlt hkeys hfound hswaps hnext ih =>
    rw [ih fun hpage => ⟨(hgapless hpage).1, (hgapless hpage).2.next⟩, mem_map_insertAll,
      hprocess _ _ _ hswaps, or_assoc]
    refine or_congr_right ⟨?_, ?_⟩
    · rintro (⟨key, hkey, hlists⟩ | ⟨i, key, hi, hi', hkey, hlists⟩)
      · obtain ⟨i, hi, hi', hkey⟩ := (hkeys.mem key).mp hkey
        exact ⟨i, key, hi, Nat.lt_of_lt_of_le hi' (Nat.min_le_right _ _), hkey, hlists⟩
      · exact ⟨i, key, by omega, hi', hkey, hlists⟩
    · rintro ⟨i, key, hi, hi', hkey, hlists⟩
      by_cases hwindow : i < start + gap
      · refine .inl ⟨key, (hkeys.mem key).mpr ⟨i, hi, ?_, hkey⟩, hlists⟩
        unfold windowEnd
        omega
      · exact .inr ⟨i, key, by omega, hi', hkey, hlists⟩

theorem Scans.nodup_ids
    (h : Scans swapId db iterator swapTypes process gap scanEnd paginated start m result result')
    (hnodup : (result.map swapId).Nodup) : (result'.map swapId).Nodup := by
  induction h with
  | done | empty => exact hnodup
  | window _ _ _ _ _ ih => exact ih (nodup_map_insertAll hnodup)

/-! ## When a scan succeeds -/

/-- The window that starts at `start` does not overflow and has all its keys, and the keys that the
process function needs for what it finds there have an index from `lo` to the end of the map. -/
def WindowOk (iterator : PubkeyIterator κ) (needs : κ → κ → Prop) (gap scanEnd lo start : Nat) :
    Prop :=
  start + gap < 2 ^ 32 ∧ iterator.Derives start (windowEnd gap scanEnd start) ∧
    ∀ key key' i, start ≤ i → i < windowEnd gap scanEnd start → iterator.key? i = some key →
      needs key key' →
      ∃ j, lo ≤ j ∧ j < PubkeyIterator.mapEnd start (windowEnd gap scanEnd start) ∧
        iterator.key? j = some key'

/-- When the process function succeeds: the keys of the window are in the map, and so are those it
needs. -/
def Processes (db : Database κ δ) (swapTypes : List SwapType)
    (process : KeyMap κ → Rows κ δ → Except ScanError (List R)) (needs : κ → κ → Prop) : Prop :=
  ∀ (m : KeyMap κ) (keys : List κ), (∀ key ∈ keys, (m key).isSome) →
    ((∃ swaps, process m (db.query swapTypes keys) = .ok swaps) ↔
      ∀ key ∈ keys, ∀ key', needs key key' → (m key').isSome)

theorem scanWindows_of_le (h : scanEnd ≤ start) :
    scanWindows swapId db iterator swapTypes process gap scanEnd paginated fuel start m result =
      .ok result := by
  cases fuel with
  | zero => rfl
  | succ fuel => rw [scanWindows, if_neg (Nat.not_lt.mpr h)]

/-- One window of a scan that succeeds. -/
theorem isOk_scanWindows_succ (hgap : 0 < gap) (hgap' : gap ≤ u32Max)
    (hend : scanEnd ≤ iterator.maxKeys) (hlt : start < scanEnd) :
    (∃ r, scanWindows swapId db iterator swapTypes process gap scanEnd paginated (fuel + 1) start m
        result = .ok r) ↔
      start + gap < 2 ^ 32 ∧
        ∃ m' keys, iterator.deriveKeys m start (windowEnd gap scanEnd start) = .ok (m', keys) ∧
          ((paginated = false ∧ ∀ key ∈ keys, ¬ db.Uses swapTypes key) ∨
            ∃ swaps, process m' (db.query swapTypes keys) = .ok swaps ∧
              ∃ r, scanWindows swapId db iterator swapTypes process gap scanEnd paginated fuel
                (start + gap) m' (insertAll swapId result swaps) = .ok r) := by
  rw [scanWindows, if_pos hlt]
  constructor
  · rintro ⟨r, h⟩
    obtain ⟨⟨m', keys⟩, hkeys, h⟩ := bind_eq_ok.mp h
    obtain ⟨hfits, hkeys', -⟩ := window_derived hgap hgap' hend hlt hkeys
    refine ⟨hfits, m', keys, hkeys', ?_⟩
    dsimp only at h
    split at h
    · rename_i hempty
      rw [Bool.and_eq_true, Bool.not_eq_true', isEmpty_query] at hempty
      exact .inl hempty
    · obtain ⟨swaps, hswaps, h⟩ := bind_eq_ok.mp h
      refine .inr ⟨swaps, hswaps, ?_⟩
      split at h
      · exact ⟨_, scanWindows_of_le (by omega)⟩
      · exact ⟨r, h⟩
  · rintro ⟨hfits, m', keys, hkeys, hrest⟩
    rw [Nat.mod_eq_of_lt hfits]
    by_cases hempty : (!paginated && (db.query swapTypes keys).isEmpty) = true
    · exact ⟨result, bind_eq_ok.mpr ⟨_, hkeys, if_pos hempty⟩⟩
    rcases hrest with ⟨hpage, hnone⟩ | ⟨swaps, hswaps, r, hr⟩
    · rw [← isEmpty_query] at hnone
      simp [hpage, hnone] at hempty
    · by_cases hmax : iterator.maxKeys ≤ windowEnd gap scanEnd start
      · refine ⟨insertAll swapId result swaps, bind_eq_ok.mpr ⟨_, hkeys, ?_⟩⟩
        refine (if_neg hempty).trans (bind_eq_ok.mpr ⟨_, hswaps, ?_⟩)
        exact if_pos hmax
      · refine ⟨r, bind_eq_ok.mpr ⟨_, hkeys, ?_⟩⟩
        refine (if_neg hempty).trans (bind_eq_ok.mpr ⟨_, hswaps, ?_⟩)
        exact (if_neg hmax).trans hr

/-- A page is scanned to its end, so every window has to be derived. -/
theorem isOk_scanWindows_page (hgap : 0 < gap) (hgap' : gap ≤ u32Max)
    (hend : scanEnd ≤ iterator.maxKeys)
    (hprocess : Processes db swapTypes process fun _ _ => False) (hfuel : scanEnd ≤ start + fuel) :
    (∃ r, scanWindows swapId db iterator swapTypes process gap scanEnd true fuel start m
        result = .ok r) ↔
      ∀ k, start + k * gap < scanEnd → start + k * gap + gap < 2 ^ 32 ∧
        iterator.Derives (start + k * gap) (windowEnd gap scanEnd (start + k * gap)) := by
  induction fuel generalizing start m result with
  | zero => exact iff_of_true ⟨_, rfl⟩ fun k hk => by omega
  | succ fuel ih =>
    by_cases hlt : start < scanEnd
    · have hlast : windowEnd gap scanEnd start ≤ u32Max :=
        Nat.le_trans (Nat.min_le_right _ _) (Nat.le_trans hend iterator.maxKeys_le_u32Max)
      have hle : start < windowEnd gap scanEnd start := by
        unfold windowEnd
        omega
      rw [isOk_scanWindows_succ hgap hgap' hend hlt]
      constructor
      · rintro ⟨hfits, m', keys, hkeys, ⟨hpage, -⟩ | ⟨swaps, -, hr⟩⟩ k hk
        · cases hpage
        · cases k with
          | zero =>
            rw [Nat.zero_mul]
            exact ⟨hfits, (PubkeyIterator.deriveKeys_isOk (Nat.le_of_lt hle)).mp ⟨_, hkeys⟩⟩
          | succ k =>
            have hk' : start + (k + 1) * gap = start + gap + k * gap := by
              rw [Nat.add_mul, Nat.one_mul]
              omega
            rw [hk'] at hk ⊢
            exact (ih (by omega)).mp hr k hk
      · intro h
        obtain ⟨hfits, hderives⟩ := h 0 (by omega)
        rw [Nat.zero_mul] at hfits hderives
        obtain ⟨⟨m', keys⟩, hkeys⟩ :=
          (PubkeyIterator.deriveKeys_isOk (m := m) (Nat.le_of_lt hle)).mpr hderives
        have hderived := PubkeyIterator.deriveKeys_derived (by omega) hle hlast hkeys
        obtain ⟨swaps, hswaps⟩ :=
          (hprocess m' keys (hderived.isSome hlast)).mpr fun _ _ _ h => h.elim
        refine ⟨hfits, m', keys, hkeys, .inr ⟨swaps, hswaps, (ih (by omega)).mpr fun k hk => ?_⟩⟩
        have hk' : start + gap + k * gap = start + (k + 1) * gap := by
          rw [Nat.add_mul, Nat.one_mul]
          omega
        rw [hk'] at hk ⊢
        exact h (k + 1) hk
    · exact iff_of_true ⟨_, scanWindows_of_le (by omega)⟩ fun k hk => by omega

/-- Without pagination, a window is scanned when it is the first one or the window before it has a
used index. -/
theorem isOk_scanWindows {needs : κ → κ → Prop} {lo hi : Nat} (hgap : 0 < gap)
    (hgap' : gap ≤ u32Max) (hend : scanEnd = iterator.maxKeys)
    (hfits : ∀ start, start + gap < scanEnd →
      iterator.Derives start (start + gap) → start + gap + gap ≤ scanEnd)
    (huses : ∀ key key', needs key key' → db.Uses swapTypes key)
    (hprocess : Processes db swapTypes process needs)
    (hgapless : GaplessFrom (Used db iterator swapTypes) start gap)
    (hmap : iterator.IsMap lo hi m) (hlo : lo ≤ start)
    (hhi : hi = start ∨ hi = start + gap ∧ hi ≤ scanEnd) (hfuel : scanEnd ≤ start + fuel) :
    (∃ r, scanWindows swapId db iterator swapTypes process gap scanEnd false fuel start m
        result = .ok r) ↔
      ∀ k, start + k * gap < scanEnd →
        (k = 0 ∨ ∃ i, start + (k - 1) * gap ≤ i ∧ i < start + k * gap ∧
          Used db iterator swapTypes i) →
        WindowOk iterator needs gap scanEnd lo (start + k * gap) := by
  induction fuel generalizing start m result hi with
  | zero => exact iff_of_true ⟨_, rfl⟩ fun k hk => by omega
  | succ fuel ih =>
    by_cases hlt : start < scanEnd
    · have hlast : windowEnd gap scanEnd start ≤ u32Max := by
        refine Nat.le_trans (Nat.min_le_right _ _) ?_
        rw [hend]
        exact iterator.maxKeys_le_u32Max
      have hle : start < windowEnd gap scanEnd start := by
        unfold windowEnd
        omega
      have hwindow : windowEnd gap scanEnd start = min (start + gap) scanEnd := rfl
      have hmapEnd : windowEnd gap scanEnd start ≤
          PubkeyIterator.mapEnd start (windowEnd gap scanEnd start) :=
        PubkeyIterator.le_mapEnd hlast
      have hnext : ∀ m' swaps, iterator.Derives start (windowEnd gap scanEnd start) →
          iterator.IsMap lo (PubkeyIterator.mapEnd start (windowEnd gap scanEnd start)) m' →
          ((∃ r, scanWindows swapId db iterator swapTypes process gap scanEnd false fuel
              (start + gap) m' (insertAll swapId result swaps) = .ok r) ↔
            ∀ k, start + gap + k * gap < scanEnd →
              (k = 0 ∨ ∃ i, start + gap + (k - 1) * gap ≤ i ∧ i < start + gap + k * gap ∧
                Used db iterator swapTypes i) →
              WindowOk iterator needs gap scanEnd lo (start + gap + k * gap)) := by
        intro m' swaps hderives hmap'
        by_cases hlt' : start + gap < scanEnd
        · have hfull : windowEnd gap scanEnd start = start + gap := by omega
          rw [hfull] at hderives hmap' hlast
          have hle' := hfits start hlt' hderives
          have hmax : iterator.maxKeys ≤ u32Max := iterator.maxKeys_le_u32Max
          have hend' : PubkeyIterator.mapEnd start (start + gap) = start + gap + gap := by
            unfold PubkeyIterator.mapEnd
            omega
          exact ih hgapless.next hmap' (by omega) (.inr ⟨hend', by omega⟩) (by omega)
        · exact iff_of_true ⟨_, scanWindows_of_le (by omega)⟩ fun k hk => by omega
      rw [isOk_scanWindows_succ hgap hgap' (by omega) hlt]
      constructor
      · rintro ⟨hover, m', keys, hkeys, hrest⟩
        have hderives := (PubkeyIterator.deriveKeys_isOk (Nat.le_of_lt hle)).mp ⟨_, hkeys⟩
        have hderived := PubkeyIterator.deriveKeys_derived (by omega) hle hlast hkeys
        have hmap' := hderived.isMap hmap hlo (by omega) (by omega)
        intro k hk hreach
        cases k with
        | zero =>
          rw [Nat.zero_mul]
          refine ⟨hover, hderives, fun key key' i hi hi' hkey hneeds => ?_⟩
          have hmem : key ∈ keys := (hderived.mem key).mpr ⟨i, hi, hi', hkey⟩
          rcases hrest with ⟨-, hnone⟩ | ⟨swaps, hswaps, -⟩
          · exact absurd (huses key key' hneeds) (hnone key hmem)
          · have hsome := (hprocess m' keys (hderived.isSome hlast)).mp ⟨swaps, hswaps⟩
            exact hmap'.isSome_iff.mp (hsome key hmem key' hneeds)
        | succ k =>
          have hk' : start + (k + 1) * gap = start + gap + k * gap := by
            rw [Nat.add_mul, Nat.one_mul]
            omega
          rw [hk'] at hk ⊢
          rcases hreach with hzero | ⟨i, hi, hi', hused⟩
          · cases hzero
          rw [Nat.add_sub_cancel] at hi
          obtain ⟨j, ⟨-, key, hkey, hkeyUses⟩, hj, hj'⟩ := hgapless.first_used hused (by omega)
          rcases hrest with ⟨-, hnone⟩ | ⟨swaps, -, hr⟩
          · exact absurd hkeyUses (hnone key ((hderived.mem key).mpr ⟨j, hj, by omega, hkey⟩))
          refine (hnext m' swaps hderives hmap').mp hr k hk ?_
          cases k with
          | zero => exact .inl rfl
          | succ k =>
            rw [Nat.add_mul, Nat.one_mul] at hi
            refine .inr ⟨i, ?_, by omega, hused⟩
            rw [Nat.add_sub_cancel]
            omega
      · intro h
        obtain ⟨hover, hderives, hneeds⟩ := h 0 (by omega) (.inl rfl)
        rw [Nat.zero_mul, Nat.add_zero] at hover hderives hneeds
        obtain ⟨⟨m', keys⟩, hkeys⟩ :=
          (PubkeyIterator.deriveKeys_isOk (m := m) (Nat.le_of_lt hle)).mpr hderives
        have hderived := PubkeyIterator.deriveKeys_derived (by omega) hle hlast hkeys
        have hmap' := hderived.isMap hmap hlo (by omega) (by omega)
        refine ⟨hover, m', keys, hkeys, ?_⟩
        by_cases hnone : ∀ key ∈ keys, ¬ db.Uses swapTypes key
        · exact .inl ⟨rfl, hnone⟩
        push Not at hnone
        obtain ⟨key, hkey, hkeyUses⟩ := hnone
        obtain ⟨i, hi, hi', hikey⟩ := (hderived.mem key).mp hkey
        obtain ⟨swaps, hswaps⟩ :=
          (hprocess m' keys (hderived.isSome hlast)).mpr fun key₁ hkey₁ key' hneed => by
            obtain ⟨i₁, hi₁, hi₁', hikey₁⟩ := (hderived.mem key₁).mp hkey₁
            exact hmap'.isSome_iff.mpr (hneeds key₁ key' i₁ hi₁ hi₁' hikey₁ hneed)
        refine .inr ⟨swaps, hswaps, (hnext m' swaps hderives hmap').mpr fun k hk hreach => ?_⟩
        have hk' : start + gap + k * gap = start + (k + 1) * gap := by
          rw [Nat.add_mul, Nat.one_mul]
          omega
        have hsub : k + 1 - 1 = k := rfl
        rw [hk'] at hk ⊢
        refine h (k + 1) hk (.inr ?_)
        rw [hsub]
        rcases hreach with rfl | ⟨i₁, hi₁, hi₁', hused⟩
        · exact ⟨i, by omega, by omega, by omega, key, hikey, hkeyUses⟩
        · refine ⟨i₁, ?_, by omega, hused⟩
          cases k with
          | zero => omega
          | succ k =>
            rw [Nat.add_sub_cancel] at hi₁
            rw [Nat.add_mul, Nat.one_mul]
            omega
    · exact iff_of_true ⟨_, scanWindows_of_le (by omega)⟩ fun k hk => by omega

end Windows

end Boltz.SwapRescue

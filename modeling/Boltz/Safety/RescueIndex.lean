import Boltz.Safety.RescueScans

/-!
# The cached key index (`SwapRescue::index`)

`index` reads the highest key index from the cache, scans from the index after it, and writes the
highest index it found back. Calls can overlap, swaps are created and the cache drops entries in
between. The entry of the cache is the identifier of the iterator, so calls that share an
identifier have to be about the same keys.
-/

namespace Boltz.SwapRescue

/-- A call of `index` that waits for the cache. -/
inductive IndexCall (κ : Type) where
  | scanning (iterator : PubkeyIterator κ) (startIndex : Option Nat)
  | caching (identifier highestIndex : Nat)

structure IndexState (κ δ : Type) where
  db : Database κ δ
  cache : Nat → Option Nat := fun _ => none
  calls : List (IndexCall κ) := []

inductive IndexOp (κ δ : Type) where
  | index (iterator : PubkeyIterator κ)
  | scan (call : Nat)
  | store (call : Nat)
  | addSwap (swap : Swap κ δ)
  | addChainSwap (swap : ChainSwapInfo κ δ)
  | addReverseSwap (swap : ReverseSwap κ δ)
  | evict (identifier : Nat)

variable {κ δ : Type} [DecidableEq κ]

namespace IndexState

/-- The cache is read, the scan runs once the value is there. -/
def index (s : IndexState κ δ) (iterator : PubkeyIterator κ) : IndexState κ δ :=
  { s with calls := s.calls ++ [.scanning iterator (s.cache iterator.identifier)] }

/-- The scan of a call. The result is written to the cache when there is one. -/
def scan (s : IndexState κ δ) (call : Nat) : IndexState κ δ :=
  match s.calls[call]? with
  | some (.scanning iterator startIndex) =>
    match indexScan s.db iterator startIndex with
    | .ok restorable =>
      match highestIndex restorable with
      | some index => { s with calls := s.calls.set call (.caching iterator.identifier index) }
      | none => { s with calls := s.calls.eraseIdx call }
    | .error _ => { s with calls := s.calls.eraseIdx call }
  | _ => s

def store (s : IndexState κ δ) (call : Nat) : IndexState κ δ :=
  match s.calls[call]? with
  | some (.caching identifier index) =>
    { s with
      cache := Function.update s.cache identifier (some index)
      calls := s.calls.eraseIdx call }
  | _ => s

def step (s : IndexState κ δ) : IndexOp κ δ → IndexState κ δ
  | .index iterator => s.index iterator
  | .scan call => s.scan call
  | .store call => s.store call
  | .addSwap swap => { s with db := { s.db with swaps := s.db.swaps ++ [swap] } }
  | .addChainSwap swap => { s with db := { s.db with chainSwaps := s.db.chainSwaps ++ [swap] } }
  | .addReverseSwap swap =>
    { s with db := { s.db with reverseSwaps := s.db.reverseSwaps ++ [swap] } }
  | .evict identifier => { s with cache := Function.update s.cache identifier none }

/-- Runs whose calls are about iterators in `clients`. -/
inductive Reaches (clients : PubkeyIterator κ → Prop) (s₀ : IndexState κ δ) :
    IndexState κ δ → Prop where
  | refl : Reaches clients s₀ s₀
  | step {s : IndexState κ δ} (h : Reaches clients s₀ s) (op : IndexOp κ δ)
      (hop : ∀ iterator, op = .index iterator → clients iterator) : Reaches clients s₀ (s.step op)

end IndexState

/-! ## The index that a scan finds -/

section Highest

omit [DecidableEq κ]

variable {swap : RestorableSwap δ} {i : Nat} {d : δ}

theorem le_keyIndex?_refund (h : swap.refundDetails = some (.utxo i d)) :
    ∃ j, i ≤ j ∧ swap.keyIndex? = some j := by
  unfold RestorableSwap.keyIndex?
  rw [h, Option.bind_some, SwapDetails.keyIndex?]
  cases swap.claimDetails.bind SwapDetails.keyIndex? with
  | none => exact ⟨i, Nat.le_refl i, rfl⟩
  | some claim => exact ⟨max i claim, Nat.le_max_left i claim, rfl⟩

theorem le_keyIndex?_claim (h : swap.claimDetails = some (.utxo i d)) :
    ∃ j, i ≤ j ∧ swap.keyIndex? = some j := by
  unfold RestorableSwap.keyIndex?
  rw [h, Option.bind_some, SwapDetails.keyIndex?]
  cases swap.refundDetails.bind SwapDetails.keyIndex? with
  | none => exact ⟨i, Nat.le_refl i, rfl⟩
  | some refund => exact ⟨max refund i, Nat.le_max_right refund i, rfl⟩

theorem eq_utxo_of_keyIndex? {details : Option (SwapDetails δ)}
    (h : details.bind SwapDetails.keyIndex? = some i) : ∃ d, details = some (.utxo i d) := by
  rcases details with _ | ⟨j, d⟩ | address
  · cases h
  · cases h
    exact ⟨d, rfl⟩
  · cases h

/-- The index of a swap is the index of one of its sides. -/
theorem utxo_of_keyIndex? (h : swap.keyIndex? = some i) :
    (∃ d, swap.refundDetails = some (.utxo i d)) ∨ ∃ d, swap.claimDetails = some (.utxo i d) := by
  unfold RestorableSwap.keyIndex? at h
  split at h
  · rename_i refund claim hrefund hclaim
    cases h
    rcases Nat.le_total refund claim with hle | hle
    · rw [Nat.max_eq_right hle]
      exact .inr (eq_utxo_of_keyIndex? hclaim)
    · rw [Nat.max_eq_left hle]
      exact .inl (eq_utxo_of_keyIndex? hrefund)
  · rename_i refund hrefund hclaim
    cases h
    exact .inl (eq_utxo_of_keyIndex? hrefund)
  · rename_i claim hrefund hclaim
    cases h
    exact .inr (eq_utxo_of_keyIndex? hclaim)
  · cases h

end Highest

/-! ## What the process function records -/

section Process

variable {db : Database κ δ} {m : KeyMap κ} {keys : List κ} {swaps : List (RestorableSwap δ)}

theorem exists_of_mem_mapM {α β : Type} {f : α → Except ScanError β} {xs : List α} {ys : List β}
    {y : β} (h : xs.mapM f = .ok ys) (hy : y ∈ ys) : ∃ x ∈ xs, f x = .ok y := by
  rw [mapM_eq_ok] at h
  induction h with
  | nil => cases hy
  | cons hf _ ih =>
    rcases List.mem_cons.mp hy with rfl | hy
    · exact ⟨_, List.mem_cons_self, hf⟩
    · obtain ⟨x, hx, hfx⟩ := ih hy
      exact ⟨x, List.mem_cons_of_mem _ hx, hfx⟩

theorem exists_mem_mapM {α β : Type} {f : α → Except ScanError β} {xs : List α} {ys : List β}
    {x : α} (h : xs.mapM f = .ok ys) (hx : x ∈ xs) : ∃ y ∈ ys, f x = .ok y := by
  rw [mapM_eq_ok] at h
  induction h with
  | nil => cases hx
  | cons hf _ ih =>
    rcases List.mem_cons.mp hx with rfl | hx
    · exact ⟨_, List.mem_cons_self, hf⟩
    · obtain ⟨y, hy, hfy⟩ := ih hx
      exact ⟨y, List.mem_cons_of_mem _ hy, hfy⟩

omit [DecidableEq κ] in
theorem eq_some_of_lookupFromKeys {key : Option κ} {id i : Nat}
    (h : lookupFromKeys m key id = .ok i) : ∃ k, key = some k ∧ m k = some i := by
  unfold lookupFromKeys at h
  split at h
  · cases h
  · split at h
    · cases h
    · rename_i k _ index hindex
      cases h
      exact ⟨k, rfl, hindex⟩

omit [DecidableEq κ] in
theorem eq_some_of_utxoDetails {data : ChainSwapData κ δ} {i : Nat} {d : δ}
    (h : utxoDetails m data = .ok (some (.utxo i d))) :
    ∃ k, data.theirPublicKey = some k ∧ m k = some i := by
  unfold utxoDetails at h
  split at h
  · rename_i index hindex
    obtain ⟨d', -, h⟩ := bind_eq_ok.mp h
    cases h
    exact Option.bind_eq_some_iff.mp hindex
  · cases h

omit [DecidableEq κ] in
theorem eq_some_of_sendingDetails {data : ChainSwapData κ δ} {i : Nat} {d : δ}
    (h : sendingDetails m data = .ok (some (.utxo i d))) :
    ∃ k, data.theirPublicKey = some k ∧ m k = some i := by
  unfold sendingDetails at h
  split at h
  · cases h
  · exact eq_some_of_utxoDetails h

omit [DecidableEq κ] in
theorem key_of_createRestorableSwap {s : Swap κ δ} {r : RestorableSwap δ} {i : Nat}
    (h : createRestorableSwap m s = .ok r) (hi : r.keyIndex? = some i) :
    ∃ k, s.refundPublicKey = some k ∧ m k = some i := by
  obtain ⟨index, hindex, h⟩ := bind_eq_ok.mp h
  obtain ⟨d, -, h⟩ := bind_eq_ok.mp h
  cases h
  cases hi
  exact eq_some_of_lookupFromKeys hindex

omit [DecidableEq κ] in
theorem key_of_createRestorableChainSwap {s : ChainSwapInfo κ δ} {r : RestorableSwap δ} {i : Nat}
    (h : createRestorableChainSwap m s = .ok r) (hi : r.keyIndex? = some i) :
    ∃ k, s.HasKey k ∧ m k = some i := by
  obtain ⟨claim, hclaim, h⟩ := bind_eq_ok.mp h
  obtain ⟨refund, hrefund, h⟩ := bind_eq_ok.mp h
  split at h
  · cases h
  cases h
  rcases utxo_of_keyIndex? hi with ⟨d, rfl⟩ | ⟨d, rfl⟩
  · obtain ⟨k, hk, hm⟩ := eq_some_of_utxoDetails hrefund
    exact ⟨k, .inr hk, hm⟩
  · obtain ⟨k, hk, hm⟩ := eq_some_of_sendingDetails hclaim
    exact ⟨k, .inl hk, hm⟩

omit [DecidableEq κ] in
theorem key_of_createRestorableReverseSwap {s : ReverseSwap κ δ} {r : RestorableSwap δ} {i : Nat}
    (h : createRestorableReverseSwap m s = .ok r) (hi : r.keyIndex? = some i) :
    ∃ k, s.claimPublicKey = some k ∧ m k = some i := by
  unfold createRestorableReverseSwap at h
  split at h
  · cases h
    cases hi
  · obtain ⟨index, hindex, h⟩ := bind_eq_ok.mp h
    obtain ⟨d, -, h⟩ := bind_eq_ok.mp h
    cases h
    cases hi
    exact eq_some_of_lookupFromKeys hindex

/-- An index that is recorded is the index of a used key in the map. -/
theorem uses_of_mem_processRestorable {r : RestorableSwap δ} {i : Nat}
    (h : processRestorableSwaps m (db.query restoreTypes keys) = .ok swaps) (hr : r ∈ swaps)
    (hi : r.keyIndex? = some i) : ∃ key, m key = some i ∧ db.Uses restoreTypes key := by
  obtain ⟨rs, hrs, h⟩ := bind_eq_ok.mp h
  obtain ⟨rc, hrc, h⟩ := bind_eq_ok.mp h
  obtain ⟨rr, hrr, h⟩ := bind_eq_ok.mp h
  cases h
  rw [List.mem_append, List.mem_append] at hr
  rcases hr with (hr | hr) | hr
  · obtain ⟨s, hs, hf⟩ := exists_of_mem_mapM hrs hr
    obtain ⟨k, hk, hm⟩ := key_of_createRestorableSwap hf hi
    obtain ⟨hs, key, -, hversion, -⟩ := (mem_query_swaps (by decide)).mp hs
    exact ⟨k, hm, .inl ⟨by decide, s, hs, hversion, hk⟩⟩
  · obtain ⟨s, hs, hf⟩ := exists_of_mem_mapM hrc hr
    obtain ⟨k, hk, hm⟩ := key_of_createRestorableChainSwap hf hi
    obtain ⟨hs, -⟩ := (mem_query_chainSwaps (by decide)).mp hs
    exact ⟨k, hm, .inr (.inl ⟨by decide, s, hs, hk⟩)⟩
  · obtain ⟨s, hs, hf⟩ := exists_of_mem_mapM hrr hr
    obtain ⟨k, hk, hm⟩ := key_of_createRestorableReverseSwap hf hi
    obtain ⟨hs, key, -, hversion, -⟩ := (mem_query_reverseSwaps (by decide)).mp hs
    exact ⟨k, hm, .inr (.inr ⟨by decide, s, hs, hversion, hk⟩)⟩

/-- The index of a used key of the window is recorded, or a higher one of the same swap. -/
theorem mem_processRestorable_of_uses (hdb : db.Derivable) {key : κ} {i : Nat}
    (h : processRestorableSwaps m (db.query restoreTypes keys) = .ok swaps) (hkey : key ∈ keys)
    (hm : m key = some i) (huses : db.Uses restoreTypes key) :
    ∃ r ∈ swaps, ∃ j, i ≤ j ∧ r.keyIndex? = some j := by
  obtain ⟨rs, hrs, h⟩ := bind_eq_ok.mp h
  obtain ⟨rc, hrc, h⟩ := bind_eq_ok.mp h
  obtain ⟨rr, hrr, h⟩ := bind_eq_ok.mp h
  cases h
  simp only [List.mem_append]
  rcases huses with ⟨-, s, hs, hhas⟩ | ⟨-, s, hs, hhas⟩ | ⟨-, s, hs, hhas⟩
  · obtain ⟨r, hr, hf⟩ := exists_mem_mapM hrs
      ((mem_query_swaps (by decide)).mpr ⟨hs, key, hkey, hhas⟩)
    obtain ⟨index, hindex, hf⟩ := bind_eq_ok.mp hf
    obtain ⟨d, -, hf⟩ := bind_eq_ok.mp hf
    obtain ⟨k, hk, hmk⟩ := eq_some_of_lookupFromKeys hindex
    rw [hhas.2] at hk
    cases hk
    rw [hm] at hmk
    cases hmk
    cases hf
    exact ⟨_, .inl (.inl hr), le_keyIndex?_refund rfl⟩
  · obtain ⟨r, hr, hf⟩ := exists_mem_mapM hrc
      ((mem_query_chainSwaps (by decide)).mpr ⟨hs, key, hkey, hhas⟩)
    obtain ⟨r', hf', hclaim, hrefund⟩ :=
      createRestorableChainSwap_ok hdb hs hhas (m := m) (by rw [hm]; rfl)
    rw [hf'] at hf
    cases hf
    rcases hhas with hhas | hhas
    · obtain ⟨d, hd⟩ := hclaim key i hhas hm
      exact ⟨r, .inl (.inr hr), le_keyIndex?_claim hd⟩
    · obtain ⟨d, hd⟩ := hrefund key i hhas hm
      exact ⟨r, .inl (.inr hr), le_keyIndex?_refund hd⟩
  · obtain ⟨r, hr, hf⟩ := exists_mem_mapM hrr
      ((mem_query_reverseSwaps (by decide)).mpr ⟨hs, key, hkey, hhas⟩)
    have hnone : s.claimAddress = none := by
      by_contra haddress
      have := s.evm (Option.isSome_iff_ne_none.mpr haddress)
      rw [hhas.2] at this
      cases this
    rw [createRestorableReverseSwap, hnone] at hf
    obtain ⟨index, hindex, hf⟩ := bind_eq_ok.mp hf
    obtain ⟨d, -, hf⟩ := bind_eq_ok.mp hf
    obtain ⟨k, hk, hmk⟩ := eq_some_of_lookupFromKeys hindex
    rw [hhas.2] at hk
    cases hk
    rw [hm] at hmk
    cases hmk
    cases hf
    exact ⟨_, .inr hr, le_keyIndex?_claim rfl⟩

def Database.ids (db : Database κ δ) : List Nat :=
  db.swaps.map Swap.id ++ db.chainSwaps.map ChainSwapInfo.id ++ db.reverseSwaps.map ReverseSwap.id

theorem nodup_processRestorable (hids : db.ids.Nodup)
    (h : processRestorableSwaps m (db.query restoreTypes keys) = .ok swaps) :
    (swaps.map RestorableSwap.id).Nodup := by
  obtain ⟨rs, hrs, h⟩ := bind_eq_ok.mp h
  obtain ⟨rc, hrc, h⟩ := bind_eq_ok.mp h
  obtain ⟨rr, hrr, h⟩ := bind_eq_ok.mp h
  cases h
  rw [List.map_append, List.map_append, map_of_mapM id_createRestorableSwap hrs,
    map_of_mapM id_createRestorableChainSwap hrc, map_of_mapM id_createRestorableReverseSwap hrr]
  refine hids.sublist (List.Sublist.append (List.Sublist.append ?_ ?_) ?_)
  · exact List.Sublist.map _ List.filter_sublist
  · exact List.Sublist.map _ List.filter_sublist
  · exact List.Sublist.map _ List.filter_sublist

end Process

/-! ## The result of a scan -/

section Scan

variable {db : Database κ δ} {iterator : PubkeyIterator κ} {start lo : Nat} {m m' : KeyMap κ}
  {result result' : List (RestorableSwap δ)}

omit [DecidableEq κ] in
theorem mem_insertAll {R : Type} {swapId : R → Nat} {result swaps : List R} {r : R}
    (h : r ∈ insertAll swapId result swaps) : r ∈ result ∨ r ∈ swaps := by
  induction swaps generalizing result with
  | nil => exact .inl h
  | cons swap swaps ih =>
    rcases ih h with hr | hr
    · rcases List.mem_append.mp hr with hr | hr
      · exact .inl (List.mem_filter.mp hr).1
      · rw [List.mem_singleton] at hr
        exact .inr (by simp [hr])
    · exact .inr (List.mem_cons_of_mem _ hr)

omit [DecidableEq κ] in
theorem mem_insertAll_of_ne {R : Type} {swapId : R → Nat} {result swaps : List R} {r : R}
    (hr : r ∈ result) (hne : ∀ swap ∈ swaps, swapId r ≠ swapId swap) :
    r ∈ insertAll swapId result swaps := by
  induction swaps generalizing result with
  | nil => exact hr
  | cons swap swaps ih =>
    refine ih (List.mem_append_left _ (List.mem_filter.mpr ⟨hr, ?_⟩)) fun s hs =>
      hne s (List.mem_cons_of_mem _ hs)
    simpa using hne swap List.mem_cons_self

omit [DecidableEq κ] in
theorem mem_insertAll_of_mem {R : Type} {swapId : R → Nat} {result swaps : List R} {r : R}
    (hnodup : (swaps.map swapId).Nodup) (hr : r ∈ swaps) : r ∈ insertAll swapId result swaps := by
  induction swaps generalizing result with
  | nil => cases hr
  | cons swap swaps ih =>
    rw [List.map_cons, List.nodup_cons] at hnodup
    rcases List.mem_cons.mp hr with rfl | hr
    · have hmem : r ∈ insert swapId result r :=
        List.mem_append_right _ (List.mem_singleton_self r)
      show r ∈ insertAll swapId (insert swapId result r) swaps
      refine mem_insertAll_of_ne hmem fun s hs heq => ?_
      exact hnodup.1 (heq ▸ List.mem_map_of_mem hs)
    · exact ih hnodup.2 hr

/-- A scan of `index` that succeeds. -/
abbrev IndexScans (db : Database κ δ) (iterator : PubkeyIterator κ) :=
  Scans RestorableSwap.id db iterator restoreTypes processRestorableSwaps iterator.gapLimit
    iterator.maxKeys false

/-- The map has indices of its keys from `lo` on. -/
def MapSound (iterator : PubkeyIterator κ) (lo : Nat) (m : KeyMap κ) : Prop :=
  ∀ key i, m key = some i → lo ≤ i ∧ iterator.key? i = some key

omit [DecidableEq κ] in
theorem MapSound.derived {last : Nat} {keys : List κ} (hm : MapSound iterator lo m)
    (hlo : lo ≤ start) (h : iterator.Derived start last m m' keys) :
    MapSound iterator lo m' := by
  intro key i hi
  by_cases hnone : ∀ i, start ≤ i → i < PubkeyIterator.mapEnd start last →
      iterator.key? i ≠ some key
  · rw [h.other key hnone] at hi
    exact hm key i hi
  · push Not at hnone
    obtain ⟨i₀, hi₀, hlt₀, hkey₀⟩ := hnone
    obtain ⟨j, hle, -, hkey, hj⟩ := h.greatest key i₀ hi₀ hlt₀ hkey₀
    rw [hj] at hi
    cases hi
    exact ⟨by omega, hkey⟩

/-- Every index that a scan records is used and in the scanned range. -/
theorem used_of_scans (hkeys : ∀ i, (iterator.key? i).isSome → i < iterator.maxKeys)
    (h : IndexScans db iterator start m result result') (hmap : MapSound iterator lo m)
    (hlo : lo ≤ start)
    (hresult : ∀ r ∈ result, ∀ i, r.keyIndex? = some i → lo ≤ i ∧ Used db iterator restoreTypes i) :
    ∀ r ∈ result', ∀ i, r.keyIndex? = some i → lo ≤ i ∧ Used db iterator restoreTypes i := by
  induction h with
  | done | empty => exact hresult
  | window hlt hderived hfound hswaps hnext ih =>
    have hmap' := hmap.derived hlo hderived
    refine ih hmap' (by omega) fun r hr i hi => ?_
    rcases mem_insertAll hr with hr | hr
    · exact hresult r hr i hi
    · obtain ⟨key, hkey, huses⟩ := uses_of_mem_processRestorable hswaps hr hi
      obtain ⟨hlo, hkey⟩ := hmap' key i hkey
      exact ⟨hlo, hkeys i (by rw [hkey]; rfl), key, hkey, huses⟩

/-- The window of the highest used index records it. -/
theorem highest_of_scans (hdb : db.Derivable) (hids : db.ids.Nodup) {i : Nat}
    (hi : Used db iterator restoreTypes i)
    (hmax : ∀ j, Used db iterator restoreTypes j → j ≤ i)
    (h : IndexScans db iterator start m result result') (hstart : start ≤ i)
    (hgapless : GaplessFrom (Used db iterator restoreTypes) start iterator.gapLimit) :
    ∃ r ∈ result', ∃ j, i ≤ j ∧ r.keyIndex? = some j := by
  induction h with
  | done hle =>
    have := hi.1
    omega
  | @empty start m m' keys result hlt hderived _ hnone =>
    obtain ⟨j, ⟨hj, key, hkey, huses⟩, hsj, hjlt⟩ := hgapless.first_used hi hstart
    refine absurd huses (hnone key ((hderived.mem key).mpr ⟨j, hsj, ?_, hkey⟩))
    unfold windowEnd
    omega
  | @window start m m' keys result swaps result' hlt hderived _ hswaps hnext ih =>
    by_cases hwindow : i < start + iterator.gapLimit
    · obtain ⟨hi', key, hkey, huses⟩ := hi
      have hlast : i < windowEnd iterator.gapLimit iterator.maxKeys start := by
        unfold windowEnd
        omega
      have hmem : key ∈ keys := (hderived.mem key).mpr ⟨i, hstart, hlast, hkey⟩
      have hend : windowEnd iterator.gapLimit iterator.maxKeys start ≤
          PubkeyIterator.mapEnd start (windowEnd iterator.gapLimit iterator.maxKeys start) :=
        PubkeyIterator.le_mapEnd
          (Nat.le_trans (Nat.min_le_right _ _) iterator.maxKeys_le_u32Max)
      obtain ⟨j, hle, -, -, hj⟩ := hderived.greatest key i hstart (by omega) hkey
      obtain ⟨r, hr, j', hle', hj'⟩ := mem_processRestorable_of_uses hdb hswaps hmem hj huses
      have hr' : r ∈ insertAll RestorableSwap.id result swaps :=
        mem_insertAll_of_mem (nodup_processRestorable hids hswaps) hr
      -- There are no used indices after this window, so the results do not change anymore.
      cases hnext with
      | done | empty => exact ⟨r, hr', j', by omega, hj'⟩
      | window hlt' hderived' hfound' _ _ =>
        rcases hfound' with hfound' | ⟨key', hkey', huses'⟩
        · cases hfound'
        · obtain ⟨i', hsi', hli', hki'⟩ := (hderived'.mem key').mp hkey'
          have hlt'' : i' < iterator.maxKeys := Nat.lt_of_lt_of_le hli' (Nat.min_le_right _ _)
          have := hmax i' ⟨hlt'', key', hki', huses'⟩
          omega
    · exact ih (by omega) hgapless.next

/-- The highest used index, or -1 when there is none. -/
def HighestUsed (db : Database κ δ) (iterator : PubkeyIterator κ) (v : Int) : Prop :=
  (∃ i : Nat, v = i ∧ Used db iterator restoreTypes i ∧
    ∀ j, Used db iterator restoreTypes j → j ≤ i) ∨
  (v = -1 ∧ ∀ i, ¬ Used db iterator restoreTypes i)

omit [DecidableEq κ] in
theorem HighestUsed.unique {v w : Int} (hv : HighestUsed db iterator v)
    (hw : HighestUsed db iterator w) : v = w := by
  rcases hv with ⟨i, rfl, hi, hmaxi⟩ | ⟨rfl, hv⟩
  · rcases hw with ⟨j, rfl, hj, hmaxj⟩ | ⟨rfl, hw⟩
    · have hij := hmaxi j hj
      have hji := hmaxj i hi
      omega
    · exact absurd hi (hw i)
  · rcases hw with ⟨j, rfl, hj, -⟩ | ⟨rfl, -⟩
    · exact absurd hj (hv j)
    · rfl

omit [DecidableEq κ] in
theorem exists_highest {p : Nat → Prop} {bound : Nat} (hbound : ∀ i, p i → i < bound)
    (h : ∃ i, p i) : ∃ i, p i ∧ ∀ j, p j → j ≤ i := by
  obtain ⟨i, hi⟩ := h
  obtain ⟨j, hj, hlt, hnone⟩ := exists_greatest_below ⟨i, hi, hbound i hi⟩
  refine ⟨j, hj, fun n hn => ?_⟩
  by_contra hgt
  exact hnone n (by omega) (hbound n hn) hn

theorem used_of_indexScan (hkeys : ∀ i, (iterator.key? i).isSome → i < iterator.maxKeys)
    {startIndex : Option Nat} {i : Nat} (h : indexScan db iterator startIndex = .ok result)
    (hi : highestIndex result = some i) : Used db iterator restoreTypes i := by
  obtain ⟨r, hr, hindex⟩ := List.mem_filterMap.mp (List.max?_mem hi)
  by_cases hgap : 0 < iterator.gapLimit
  · have hscan : scanSwapsPaginated RestorableSwap.id db iterator restoreTypes
        processRestorableSwaps (startIndex.map (· + 1)) none = .ok result := h
    rw [scanSwaps_eq hgap] at hscan
    have hscans := scans_of_ok hgap (gapLimit_le_u32Max iterator) (Nat.le_refl _) (by omega) hscan
    exact (used_of_scans hkeys hscans (fun _ _ hi => (nomatch hi)) (Nat.le_refl _)
      (fun _ hr => (nomatch hr)) r hr i hindex).2
  · rw [indexScan, scanSwapsPaginated, scanGap_eq, if_pos (by omega)] at h
    cases h
    cases hr

/-- The result of `index` is the highest used index when the scan starts after a used one. -/
theorem highestUsed_of_indexScan (hgap : 0 < iterator.gapLimit) (hdb : db.Derivable)
    (hids : db.ids.Nodup) (hkeys : ∀ i, (iterator.key? i).isSome → i < iterator.maxKeys)
    (hgapless : Gapless (Used db iterator restoreTypes) iterator.gapLimit)
    {startIndex : Option Nat} (hstart : ∀ i, startIndex = some i → Used db iterator restoreTypes i)
    (h : indexScan db iterator startIndex = .ok result) :
    HighestUsed db iterator (indexResult (highestIndex result) startIndex) := by
  have hscan : scanSwapsPaginated RestorableSwap.id db iterator restoreTypes processRestorableSwaps
      (startIndex.map (· + 1)) none = .ok result := h
  rw [scanSwaps_eq hgap] at hscan
  have hscans := scans_of_ok hgap (gapLimit_le_u32Max iterator) (Nat.le_refl _) (by omega) hscan
  have hrecorded := used_of_scans hkeys hscans (fun _ _ hi => (nomatch hi)) (Nat.le_refl _)
    (fun _ hr => (nomatch hr))
  by_cases hex : ∃ i, Used db iterator restoreTypes i ∧ (startIndex.map (· + 1)).getD 0 ≤ i
  · obtain ⟨i₀, hi₀, hstart₀⟩ := hex
    obtain ⟨i, hi, hmax⟩ := exists_highest (fun _ hi => hi.1) ⟨i₀, hi₀⟩
    have hle := hmax i₀ hi₀
    obtain ⟨r, hr, j, hj, hindex⟩ := highest_of_scans hdb hids hi hmax hscans (by omega)
      (hgapless.gaplessFrom _)
    have hij : j = i := Nat.le_antisymm (hmax j (hrecorded r hr j hindex).2) hj
    have hhighest : highestIndex result = some i := by
      rw [highestIndex, List.max?_eq_some_iff]
      refine ⟨List.mem_filterMap.mpr ⟨r, hr, by rw [hindex, hij]⟩, fun n hn => ?_⟩
      obtain ⟨r', hr', hn'⟩ := List.mem_filterMap.mp hn
      exact hmax n (hrecorded r' hr' n hn').2
    rw [hhighest]
    exact .inl ⟨i, rfl, hi, hmax⟩
  · have hhighest : highestIndex result = none := by
      rw [highestIndex, List.max?_eq_none_iff, List.filterMap_eq_nil_iff]
      intro r hr
      cases hindex : r.keyIndex? with
      | none => rfl
      | some n =>
        obtain ⟨hn, hused⟩ := hrecorded r hr n hindex
        exact absurd ⟨n, hused, hn⟩ hex
    rw [hhighest]
    cases startIndex with
    | none => exact .inr ⟨rfl, fun i hi => hex ⟨i, hi, Nat.zero_le i⟩⟩
    | some i =>
      refine .inl ⟨i, rfl, hstart i rfl, fun j hj => ?_⟩
      by_contra hgt
      exact hex ⟨j, hj, Nat.lt_of_not_le hgt⟩

end Scan

/-! ## Runs -/

/-- Two iterators have the same keys. -/
def SameKeys (a b : PubkeyIterator κ) : Prop := a.maxKeys = b.maxKeys ∧ ∀ i, a.key? i = b.key? i

/-- The iterators that calls are about: those with one identifier have the same keys, and no key
has an index that a 32-bit integer cannot hold. -/
structure Clients (clients : PubkeyIterator κ → Prop) : Prop where
  same : ∀ a b, clients a → clients b → a.identifier = b.identifier → SameKeys a b
  bounded : ∀ a, clients a → ∀ i, (a.key? i).isSome → i < a.maxKeys

omit [DecidableEq κ] in
theorem SameKeys.used {db : Database κ δ} {a b : PubkeyIterator κ} (h : SameKeys a b) {i : Nat}
    (hi : Used db a restoreTypes i) : Used db b restoreTypes i := by
  obtain ⟨hlt, key, hkey, huses⟩ := hi
  exact ⟨h.1 ▸ hlt, key, by rw [← h.2, hkey], huses⟩

namespace IndexState

variable {clients : PubkeyIterator κ → Prop} {s s₀ : IndexState κ δ}

/-- `i` is a used index of every client with the identifier. -/
def UsedBy (clients : PubkeyIterator κ → Prop) (db : Database κ δ) (identifier i : Nat) : Prop :=
  ∀ iterator, clients iterator → iterator.identifier = identifier →
    Used db iterator restoreTypes i

/-- Cached indices are used, and so are the indices that calls read from the cache or are about to
write to it. -/
structure Inv (clients : PubkeyIterator κ → Prop) (s : IndexState κ δ) : Prop where
  cache : ∀ identifier i, s.cache identifier = some i → UsedBy clients s.db identifier i
  scanning : ∀ iterator start, .scanning iterator start ∈ s.calls → clients iterator ∧
    ∀ i, start = some i → UsedBy clients s.db iterator.identifier i
  caching : ∀ identifier i, .caching identifier i ∈ s.calls → UsedBy clients s.db identifier i

omit [DecidableEq κ] in
/-- New swaps do not make an index unused. -/
theorem Inv.grow (h : Inv clients s) (db : Database κ δ)
    (hdb : ∀ key, s.db.Uses restoreTypes key → db.Uses restoreTypes key) :
    Inv clients { s with db } := by
  have hmono : ∀ identifier i, UsedBy clients s.db identifier i →
      UsedBy clients db identifier i := by
    intro identifier i hused iterator hclient hidentifier
    obtain ⟨hlt, key, hkey, huses⟩ := hused iterator hclient hidentifier
    exact ⟨hlt, key, hkey, hdb key huses⟩
  constructor
  · exact fun identifier i hi => hmono _ _ (h.cache identifier i hi)
  · intro iterator start hcall
    obtain ⟨hclient, hstart⟩ := h.scanning iterator start hcall
    exact ⟨hclient, fun i hi => hmono _ _ (hstart i hi)⟩
  · exact fun identifier i hi => hmono _ _ (h.caching identifier i hi)

omit [DecidableEq κ] in
/-- Calls that end do not matter. -/
theorem Inv.drop (h : Inv clients s) {calls : List (IndexCall κ)} (hcalls : calls ⊆ s.calls) :
    Inv clients { s with calls } :=
  ⟨h.cache, fun iterator start hcall => h.scanning iterator start (hcalls hcall),
    fun identifier i hcall => h.caching identifier i (hcalls hcall)⟩

omit [DecidableEq κ] in
theorem inv_index (h : Inv clients s) {iterator : PubkeyIterator κ} (hclient : clients iterator) :
    Inv clients (s.index iterator) := by
  refine ⟨h.cache, fun iterator' start hcall => ?_, fun identifier i hcall => ?_⟩
  · rcases List.mem_append.mp hcall with hcall | hcall
    · exact h.scanning iterator' start hcall
    · rw [List.mem_singleton] at hcall
      cases hcall
      exact ⟨hclient, fun i hi => h.cache iterator.identifier i hi⟩
  · rcases List.mem_append.mp hcall with hcall | hcall
    · exact h.caching identifier i hcall
    · rw [List.mem_singleton] at hcall
      cases hcall

theorem inv_scan (hclients : Clients clients) (h : Inv clients s) (call : Nat) :
    Inv clients (s.scan call) := by
  unfold scan
  split
  · rename_i iterator start hcall
    obtain ⟨hclient, -⟩ := h.scanning iterator start (List.mem_of_getElem? hcall)
    split
    · rename_i restorable hscan
      split
      · rename_i index hindex
        have hused := used_of_indexScan (hclients.bounded iterator hclient) hscan hindex
        refine ⟨h.cache, fun iterator' start' hcall' => ?_, fun identifier i hcall' => ?_⟩
        · rcases List.mem_or_eq_of_mem_set hcall' with hcall' | hcall'
          · exact h.scanning iterator' start' hcall'
          · cases hcall'
        · rcases List.mem_or_eq_of_mem_set hcall' with hcall' | hcall'
          · exact h.caching identifier i hcall'
          · cases hcall'
            intro iterator' hclient' hidentifier
            exact (hclients.same iterator iterator' hclient hclient' hidentifier.symm).used hused
      · exact h.drop (List.eraseIdx_subset ..)
    · exact h.drop (List.eraseIdx_subset ..)
  · exact h

omit [DecidableEq κ] in
theorem inv_store (h : Inv clients s) (call : Nat) : Inv clients (s.store call) := by
  unfold store
  split
  · rename_i identifier index hcall
    have hcaching := h.caching identifier index (List.mem_of_getElem? hcall)
    have hdrop := h.drop (List.eraseIdx_subset (l := s.calls) (k := call))
    refine ⟨fun identifier' i hi => ?_, hdrop.scanning, hdrop.caching⟩
    by_cases heq : identifier' = identifier
    · subst heq
      simp only [Function.update_self, Option.some.injEq] at hi
      subst hi
      exact hcaching
    · simp only [Function.update_of_ne heq] at hi
      exact h.cache identifier' i hi
  · exact h

theorem inv_step (hclients : Clients clients) (h : Inv clients s) (op : IndexOp κ δ)
    (hop : ∀ iterator, op = .index iterator → clients iterator) : Inv clients (s.step op) := by
  cases op with
  | index iterator => exact inv_index h (hop iterator rfl)
  | scan call => exact inv_scan hclients h call
  | store call => exact inv_store h call
  | addSwap swap =>
    refine h.grow _ ?_
    rintro key (⟨ht, s', hs, hhas⟩ | huses)
    · exact .inl ⟨ht, s', List.mem_append_left _ hs, hhas⟩
    · exact .inr huses
  | addChainSwap swap =>
    refine h.grow _ ?_
    rintro key (huses | ⟨ht, s', hs, hhas⟩ | huses)
    · exact .inl huses
    · exact .inr (.inl ⟨ht, s', List.mem_append_left _ hs, hhas⟩)
    · exact .inr (.inr huses)
  | addReverseSwap swap =>
    refine h.grow _ ?_
    rintro key (huses | huses | ⟨ht, s', hs, hhas⟩)
    · exact .inl huses
    · exact .inr (.inl huses)
    · exact .inr (.inr ⟨ht, s', List.mem_append_left _ hs, hhas⟩)
  | evict identifier =>
    refine ⟨fun identifier' i hi => ?_, h.scanning, h.caching⟩
    by_cases heq : identifier' = identifier
    · subst heq
      simp only [step, Function.update_self] at hi
      cases hi
    · simp only [step, Function.update_of_ne heq] at hi
      exact h.cache identifier' i hi

theorem inv_of_reaches (hclients : Clients clients) (h₀ : Inv clients s₀)
    (h : Reaches clients s₀ s) : Inv clients s := by
  induction h with
  | refl => exact h₀
  | step _ op hop ih => exact inv_step hclients ih op hop

/-- Whenever a call scans, its scan returns the highest used index, whatever the cache held when
the call read it. This is also what a scan without the cache returns. -/
theorem index_highest (hclients : Clients clients) (db₀ : Database κ δ)
    (h : Reaches clients { db := db₀ } s) {iterator : PubkeyIterator κ} {startIndex : Option Nat}
    (hcall : .scanning iterator startIndex ∈ s.calls) (hgap : 1 ≤ iterator.gapLimit)
    (hgapless : Gapless (Used s.db iterator restoreTypes) iterator.gapLimit)
    (hdb : s.db.Derivable) (hids : s.db.ids.Nodup)
    (hwindows : WindowsOk s.db iterator restoreTypes (fun _ _ => False)
      ((startIndex.map (· + 1)).getD 0)) :
    ∃ restorable, indexScan s.db iterator startIndex = .ok restorable ∧
      HighestUsed s.db iterator (indexResult (highestIndex restorable) startIndex) ∧
      ∀ restorable', indexScan s.db iterator none = .ok restorable' →
        indexResult (highestIndex restorable') none =
          indexResult (highestIndex restorable) startIndex := by
  have h₀ : Inv clients ({ db := db₀ } : IndexState κ δ) :=
    ⟨fun _ _ hi => (nomatch hi), fun _ _ hc => (nomatch hc), fun _ _ hc => (nomatch hc)⟩
  obtain ⟨hclient, hstart⟩ := (inv_of_reaches hclients h₀ h).scanning iterator startIndex hcall
  have hkeys := hclients.bounded iterator hclient
  obtain ⟨restorable, hscan⟩ : ∃ r, indexScan s.db iterator startIndex = .ok r :=
    (isOk_scanSwaps hgap (fun _ _ hneeds => hneeds.elim) (processes_restorable hdb) hgapless
      (startIndex.map (· + 1))).mpr hwindows
  have hhighest := highestUsed_of_indexScan hgap hdb hids hkeys hgapless
    (fun i hi => hstart i hi iterator hclient rfl) hscan
  refine ⟨restorable, hscan, hhighest, fun restorable' hscan' => ?_⟩
  exact (highestUsed_of_indexScan hgap hdb hids hkeys hgapless (fun _ hi => by cases hi)
    hscan').unique hhighest

/-- An extended key below which a key is the path that leads to it. -/
def pathKeys (derivationPath : List Nat) : PubkeyIterator (List Nat) :=
  .xpub ⟨7, .ok⟩ derivationPath 1 none

theorem key?_pathKeys {path key : List Nat} {i : Nat} :
    (pathKeys path).key? i = some key ↔ i < 2 ^ 31 ∧ path ++ [i] = key := by
  rw [pathKeys, PubkeyIterator.key?_xpub, PubkeyIterator.childKey, fromNormalIdx]
  by_cases hlt : i < 2 ^ 31
  · rw [if_pos hlt]
    exact ⟨fun h => ⟨hlt, Except.ok.inj h⟩, fun h => congrArg Except.ok h.2⟩
  · rw [if_neg hlt]
    refine ⟨fun h => ?_, fun h => absurd h.1 hlt⟩
    cases h

theorem used_pathKeys {swaps : List (Swap (List Nat) Unit)} {path : List Nat} {i : Nat} :
    Used { swaps } (pathKeys path) restoreTypes i ↔
      i < 2 ^ 31 ∧ ∃ s ∈ swaps, s.HasKey (path ++ [i]) := by
  constructor
  · rintro ⟨-, key, hkey, huses⟩
    obtain ⟨hlt, rfl⟩ := key?_pathKeys.mp hkey
    rcases huses with ⟨-, s, hs, hhas⟩ | ⟨-, s, hs, -⟩ | ⟨-, s, hs, -⟩
    · exact ⟨hlt, s, hs, hhas⟩
    · cases hs
    · cases hs
  · rintro ⟨hlt, s, hs, hhas⟩
    have hmax : (pathKeys path).maxKeys = 2 ^ 32 - 1 := rfl
    exact ⟨by omega, _, key?_pathKeys.mpr ⟨hlt, rfl⟩, .inl ⟨by decide, s, hs, hhas⟩⟩

def keySwap (id index : Nat) : Swap (List Nat) Unit := ⟨id, 3, some [0, index], .ok ()⟩

/-- A client asks for its index, creates another swap and asks again. -/
def askedTwice : IndexState (List Nat) Unit :=
  [.index (pathKeys [0]), .scan 0, .store 0, .addSwap (keySwap 2 1), .index (pathKeys [0])].foldl
    step { db := { swaps := [keySwap 1 0] } }

theorem index_highest_askedTwice :
    ∃ restorable, indexScan askedTwice.db (pathKeys [0]) (some 0) = .ok restorable ∧
      HighestUsed askedTwice.db (pathKeys [0]) (indexResult (highestIndex restorable) (some 0)) ∧
      ∀ restorable', indexScan askedTwice.db (pathKeys [0]) none = .ok restorable' →
        indexResult (highestIndex restorable') none =
          indexResult (highestIndex restorable) (some 0) := by
  have hclients : Clients fun iterator => iterator = pathKeys [0] := by
    refine ⟨fun a b ha hb _ => ?_, fun a ha i hi => ?_⟩
    · rw [ha, hb]
      exact ⟨rfl, fun _ => rfl⟩
    · subst ha
      obtain ⟨key, hkey⟩ := Option.isSome_iff_exists.mp hi
      have hlt := (key?_pathKeys.mp hkey).1
      have hmax : 2 ^ 31 < (pathKeys [0]).maxKeys := by decide
      omega
  have hused : ∀ i, Used askedTwice.db (pathKeys [0]) restoreTypes i ↔ i < 2 := by
    intro i
    show Used { swaps := [keySwap 1 0, keySwap 2 1] } (pathKeys [0]) restoreTypes i ↔ i < 2
    rw [used_pathKeys]
    simp only [List.mem_cons, List.not_mem_nil, or_false, exists_eq_or_imp, exists_eq_left,
      Swap.HasKey, keySwap]
    simp
    omega
  have hreaches : Reaches (fun iterator => iterator = pathKeys [0])
      { db := { swaps := [keySwap 1 0] } } askedTwice :=
    .step (.step (.step (.step (.step .refl (.index (pathKeys [0])) (by simp)) (.scan 0) (by simp))
      (.store 0) (by simp)) (.addSwap (keySwap 2 1)) (by simp)) (.index (pathKeys [0])) (by simp)
  have hcall : .scanning (pathKeys [0]) (some 0) ∈ askedTwice.calls := by
    show _ ∈ [IndexCall.scanning (pathKeys [0]) (some 0)]
    exact List.mem_cons_self
  have hgapless : Gapless (Used askedTwice.db (pathKeys [0]) restoreTypes)
      (pathKeys [0]).gapLimit := by
    have hgap : (pathKeys [0]).gapLimit = 1 := rfl
    refine ⟨fun i hi hleast => ?_, fun i j hi hj hlt hnone => ?_⟩
    · have := hleast 0 ((hused 0).mpr (by decide))
      omega
    · have := (hused j).mp hj
      omega
  have hdb : askedTwice.db.Derivable := by
    show Database.Derivable { swaps := [keySwap 1 0, keySwap 2 1] }
    exact ⟨by simp [keySwap], by simp, by simp, by simp⟩
  refine index_highest hclients _ hreaches hcall (by decide) hgapless hdb (by decide) ?_
  intro k hk hreach
  have hgap : (pathKeys [0]).gapLimit = 1 := rfl
  have hmax : (pathKeys [0]).maxKeys = 2 ^ 32 - 1 := rfl
  have hstart : ((some 0).map (· + 1)).getD 0 = 1 := rfl
  rw [hgap, hstart] at hreach
  rw [hgap, hmax, hstart] at hk ⊢
  have hk2 : k ≤ 1 := by
    rcases hreach with rfl | ⟨i, hi, hi', hi2⟩
    · omega
    · rw [hused] at hi2
      omega
  refine ⟨by omega, fun i hi hi' => ?_, fun _ _ _ _ _ _ h => h.elim⟩
  unfold PubkeyIterator.mapEnd windowEnd at hi'
  exact ⟨[0, i], PubkeyIterator.key?_xpub.mp (key?_pathKeys.mpr ⟨by omega, rfl⟩)⟩

/-- A client asks with one derivation path, then with another one that has no swaps. -/
def askedOtherPath : IndexState (List Nat) Unit :=
  [.index (pathKeys [0]), .scan 0, .store 0, .index (pathKeys [1])].foldl step
    { db := { swaps := [keySwap 1 0] } }

/-- The second call starts after the index that the first one cached, and returns it. -/
theorem index_of_other_path :
    Reaches (fun _ => True) { db := { swaps := [keySwap 1 0] } } askedOtherPath ∧
      .scanning (pathKeys [1]) (some 0) ∈ askedOtherPath.calls ∧
      Gapless (Used askedOtherPath.db (pathKeys [1]) restoreTypes) (pathKeys [1]).gapLimit ∧
      indexScan askedOtherPath.db (pathKeys [1]) (some 0) = .ok [] ∧
      ¬ HighestUsed askedOtherPath.db (pathKeys [1]) (indexResult (highestIndex ([] :
        List (RestorableSwap Unit))) (some 0)) := by
  have hunused : ∀ i, ¬ Used askedOtherPath.db (pathKeys [1]) restoreTypes i := by
    intro i hi
    have hi' : Used { swaps := [keySwap 1 0] } (pathKeys [1]) restoreTypes i := hi
    obtain ⟨-, s, hs, -, hkey⟩ := used_pathKeys.mp hi'
    rw [List.mem_singleton] at hs
    subst hs
    cases hkey
  refine ⟨?_, ?_, ⟨fun i hi => absurd hi (hunused i), fun i _ hi => absurd hi (hunused i)⟩, rfl, ?_⟩
  · exact .step (.step (.step (.step .refl (.index (pathKeys [0])) (by simp)) (.scan 0) (by simp))
      (.store 0) (by simp)) (.index (pathKeys [1])) (by simp)
  · show _ ∈ [IndexCall.scanning (pathKeys [1]) (some 0)]
    exact List.mem_cons_self
  · rintro (⟨i, -, hi, -⟩ | ⟨hv, -⟩)
    · exact hunused i hi
    · cases hv

end IndexState

end Boltz.SwapRescue

import Boltz.Logic.RescueWindows

/-!
# Rescue and restore scans are exact

A restore returns the swaps with a key in the scanned range. A scan fails when a key it derives
does not exist, and a rescue also fails when it finds a chain swap by one of its keys before the
key of the receiving side is in the map.
-/

namespace Boltz.SwapRescue

variable {κ δ : Type} [DecidableEq κ]

/-! ## The process functions -/

section Process

theorem mapM_eq_ok {α β : Type} {f : α → Except ScanError β} {xs : List α} {ys : List β} :
    xs.mapM f = .ok ys ↔ List.Forall₂ (fun x y => f x = .ok y) xs ys := by
  induction xs generalizing ys with
  | nil =>
    rw [List.mapM_nil, List.forall₂_nil_left_iff]
    exact ⟨fun h => by cases h; rfl, fun h => by rw [h]; rfl⟩
  | cons x xs ih =>
    rw [List.mapM_cons, bind_eq_ok, List.forall₂_cons_left_iff]
    constructor
    · rintro ⟨y, hy, h⟩
      obtain ⟨ys', hys', h⟩ := bind_eq_ok.mp h
      cases h
      exact ⟨y, ys', hy, ih.mp hys', rfl⟩
    · rintro ⟨y, ys', hy, hys', rfl⟩
      exact ⟨y, hy, bind_eq_ok.mpr ⟨ys', ih.mpr hys', rfl⟩⟩

theorem isOk_mapM {α β : Type} {f : α → Except ScanError β} {xs : List α} :
    (∃ ys, xs.mapM f = .ok ys) ↔ ∀ x ∈ xs, ∃ y, f x = .ok y := by
  simp only [mapM_eq_ok]
  induction xs with
  | nil => exact iff_of_true ⟨[], .nil⟩ fun _ h => (nomatch h)
  | cons x xs ih =>
    rw [List.forall_mem_cons, ← ih]
    constructor
    · rintro ⟨_, h⟩
      obtain ⟨y, ys, hy, hys, rfl⟩ := List.forall₂_cons_left_iff.mp h
      exact ⟨⟨y, hy⟩, ys, hys⟩
    · rintro ⟨⟨y, hy⟩, ys, hys⟩
      exact ⟨y :: ys, .cons hy hys⟩

theorem map_of_mapM {α β : Type} {f : α → Except ScanError β} {xs : List α} {ys : List β}
    {id : α → Nat} {id' : β → Nat} (hid : ∀ x y, f x = .ok y → id' y = id x)
    (h : xs.mapM f = .ok ys) : ys.map id' = xs.map id := by
  rw [mapM_eq_ok] at h
  induction h with
  | nil => rfl
  | cons hy _ ih => rw [List.map_cons, List.map_cons, ih, hid _ _ hy]

variable {db : Database κ δ} {m : KeyMap κ}

/-- What the server has to add to the swaps can be derived. -/
structure Database.Derivable (db : Database κ δ) : Prop where
  swaps : ∀ s ∈ db.swaps, s.refundPublicKey.isSome → ∃ d, s.details = .ok d
  sending : ∀ s ∈ db.chainSwaps, s.sending.theirPublicKey.isSome → ∃ d, s.sending.details = .ok d
  receiving : ∀ s ∈ db.chainSwaps, s.receiving.theirPublicKey.isSome →
    ∃ d, s.receiving.details = .ok d
  reverseSwaps : ∀ s ∈ db.reverseSwaps, s.claimPublicKey.isSome → ∃ d, s.details = .ok d

omit [DecidableEq κ] in
theorem lookupFromKeys_some {key : κ} {id : Nat} :
    (∃ i, lookupFromKeys m (some key) id = .ok i) ↔ (m key).isSome := by
  rw [lookupFromKeys]
  cases m key with
  | none => simp
  | some i => simp

/-- The swaps with a key that a rescue returns. -/
def Rescues (db : Database κ δ) (key : κ) (id : Nat) : Prop :=
  (∃ s ∈ db.swaps, s.HasKey key ∧ s.id = id) ∨
    ∃ s ∈ db.chainSwaps, s.HasKey key ∧ s.receiving.theirPublicKey.isSome ∧ s.id = id

/-- The swaps with a key that a restore returns. -/
def Restores (db : Database κ δ) (key : κ) (id : Nat) : Prop :=
  (∃ s ∈ db.swaps, s.HasKey key ∧ s.id = id) ∨ (∃ s ∈ db.chainSwaps, s.HasKey key ∧ s.id = id) ∨
    ∃ s ∈ db.reverseSwaps, s.HasKey key ∧ s.id = id

/-- The receiving key of a chain swap that is found by `key`. -/
def RescueNeeds (db : Database κ δ) (key key' : κ) : Prop :=
  ∃ s ∈ db.chainSwaps, s.HasKey key ∧ s.receiving.theirPublicKey = some key'

omit [DecidableEq κ] in
theorem id_createRescuableSwap (s : Swap κ δ) (r : RescuableSwap δ)
    (h : createRescuableSwap m s = .ok r) : r.id = s.id := by
  obtain ⟨i, -, h⟩ := bind_eq_ok.mp h
  obtain ⟨d, -, h⟩ := bind_eq_ok.mp h
  cases h
  rfl

omit [DecidableEq κ] in
theorem id_createRescuableChainSwap (s : ChainSwapInfo κ δ) (r : RescuableSwap δ)
    (h : createRescuableChainSwap m s = .ok r) : r.id = s.id := by
  obtain ⟨i, -, h⟩ := bind_eq_ok.mp h
  obtain ⟨d, -, h⟩ := bind_eq_ok.mp h
  cases h
  rfl

theorem mem_query_swaps {swapTypes : List SwapType} {keys : List κ} {s : Swap κ δ}
    (ht : .submarine ∈ swapTypes) :
    s ∈ (db.query swapTypes keys).swaps ↔ s ∈ db.swaps ∧ ∃ key ∈ keys, s.HasKey key := by
  rw [Database.query, if_pos ht, mem_getSwaps]

theorem mem_query_chainSwaps {swapTypes : List SwapType} {keys : List κ} {s : ChainSwapInfo κ δ}
    (ht : .chain ∈ swapTypes) :
    s ∈ (db.query swapTypes keys).chainSwaps ↔
      s ∈ db.chainSwaps ∧ ∃ key ∈ keys, s.HasKey key := by
  rw [Database.query, if_pos ht, mem_getChainSwaps]

theorem mem_query_reverseSwaps {swapTypes : List SwapType} {keys : List κ} {s : ReverseSwap κ δ}
    (ht : .reverseSubmarine ∈ swapTypes) :
    s ∈ (db.query swapTypes keys).reverseSwaps ↔
      s ∈ db.reverseSwaps ∧ ∃ key ∈ keys, s.HasKey key := by
  rw [Database.query, if_pos ht, mem_getReverseSwaps]

theorem mem_ids_processRescuable {keys : List κ} {swaps : List (RescuableSwap δ)}
    (h : processRescuableSwaps m (db.query [.submarine, .chain] keys) = .ok swaps) (id : Nat) :
    id ∈ swaps.map RescuableSwap.id ↔ ∃ key ∈ keys, Rescues db key id := by
  obtain ⟨rs, hrs, h⟩ := bind_eq_ok.mp h
  obtain ⟨rc, hrc, h⟩ := bind_eq_ok.mp h
  cases h
  rw [List.map_append, map_of_mapM id_createRescuableSwap hrs,
    map_of_mapM id_createRescuableChainSwap hrc, List.mem_append, List.mem_map, List.mem_map]
  simp only [List.mem_filter, mem_query_swaps (show .submarine ∈ [SwapType.submarine, .chain] by simp),
    mem_query_chainSwaps (show .chain ∈ [SwapType.submarine, .chain] by simp)]
  constructor
  · rintro (⟨s, ⟨hs, key, hkey, hhas⟩, rfl⟩ | ⟨s, ⟨⟨hs, key, hkey, hhas⟩, hsome⟩, rfl⟩)
    · exact ⟨key, hkey, .inl ⟨s, hs, hhas, rfl⟩⟩
    · exact ⟨key, hkey, .inr ⟨s, hs, hhas, hsome, rfl⟩⟩
  · rintro ⟨key, hkey, ⟨s, hs, hhas, rfl⟩ | ⟨s, hs, hhas, hsome, rfl⟩⟩
    · exact .inl ⟨s, ⟨hs, key, hkey, hhas⟩, rfl⟩
    · exact .inr ⟨s, ⟨⟨hs, key, hkey, hhas⟩, hsome⟩, rfl⟩

theorem processes_rescuable (hdb : db.Derivable) :
    Processes db [.submarine, .chain] processRescuableSwaps (RescueNeeds db) := by
  intro m keys hkeys
  have hsubmarine : .submarine ∈ [SwapType.submarine, .chain] := by simp
  have hchain : .chain ∈ [SwapType.submarine, .chain] := by simp
  constructor
  · rintro ⟨swaps, h⟩ key hkey key' ⟨s, hs, hhas, hreceiving⟩
    obtain ⟨rs, -, h⟩ := bind_eq_ok.mp h
    obtain ⟨rc, hrc, -⟩ := bind_eq_ok.mp h
    obtain ⟨r, hr⟩ := isOk_mapM.mp ⟨rc, hrc⟩ s (by
      rw [List.mem_filter, mem_query_chainSwaps hchain]
      exact ⟨⟨hs, key, hkey, hhas⟩, by rw [hreceiving]; rfl⟩)
    rw [createRescuableChainSwap, hreceiving] at hr
    obtain ⟨i, hi, -⟩ := bind_eq_ok.mp hr
    exact lookupFromKeys_some.mp ⟨i, hi⟩
  · intro hneeds
    obtain ⟨rs, hrs⟩ : ∃ rs, (db.query [.submarine, .chain] keys).swaps.mapM
        (createRescuableSwap m) = .ok rs := by
      rw [isOk_mapM]
      intro s hs
      obtain ⟨hs, key, hkey, -, hhas⟩ := (mem_query_swaps hsubmarine).mp hs
      obtain ⟨i, hi⟩ := lookupFromKeys_some.mpr (hkeys key hkey)
      obtain ⟨d, hd⟩ := hdb.swaps s hs (by rw [hhas]; rfl)
      exact ⟨_, bind_eq_ok.mpr ⟨i, by rw [hhas, hi],
        bind_eq_ok.mpr ⟨d, hd, rfl⟩⟩⟩
    obtain ⟨rc, hrc⟩ : ∃ rc, ((db.query [.submarine, .chain] keys).chainSwaps.filter
        (·.receiving.theirPublicKey.isSome)).mapM (createRescuableChainSwap m) = .ok rc := by
      rw [isOk_mapM]
      intro s hs
      rw [List.mem_filter, mem_query_chainSwaps hchain] at hs
      obtain ⟨⟨hs, key, hkey, hhas⟩, hsome⟩ := hs
      obtain ⟨key', hkey'⟩ := Option.isSome_iff_exists.mp hsome
      obtain ⟨i, hi⟩ := lookupFromKeys_some.mpr
        (hneeds key hkey key' ⟨s, hs, hhas, hkey'⟩)
      obtain ⟨d, hd⟩ := hdb.receiving s hs hsome
      exact ⟨_, bind_eq_ok.mpr ⟨i, by rw [hkey', hi],
        bind_eq_ok.mpr ⟨d, hd, rfl⟩⟩⟩
    exact ⟨_, bind_eq_ok.mpr ⟨rs, hrs,
      bind_eq_ok.mpr ⟨rc, hrc, rfl⟩⟩⟩

omit [DecidableEq κ] in
theorem id_createRestorableSwap (s : Swap κ δ) (r : RestorableSwap δ)
    (h : createRestorableSwap m s = .ok r) : r.id = s.id := by
  obtain ⟨i, -, h⟩ := bind_eq_ok.mp h
  obtain ⟨d, -, h⟩ := bind_eq_ok.mp h
  cases h
  rfl

omit [DecidableEq κ] in
theorem id_createRestorableChainSwap (s : ChainSwapInfo κ δ) (r : RestorableSwap δ)
    (h : createRestorableChainSwap m s = .ok r) : r.id = s.id := by
  obtain ⟨c, -, h⟩ := bind_eq_ok.mp h
  obtain ⟨d, -, h⟩ := bind_eq_ok.mp h
  split at h
  · cases h
  · cases h
    rfl

omit [DecidableEq κ] in
theorem id_createRestorableReverseSwap (s : ReverseSwap κ δ) (r : RestorableSwap δ)
    (h : createRestorableReverseSwap m s = .ok r) : r.id = s.id := by
  rw [createRestorableReverseSwap] at h
  split at h
  · cases h
    rfl
  · obtain ⟨i, -, h⟩ := bind_eq_ok.mp h
    obtain ⟨d, -, h⟩ := bind_eq_ok.mp h
    cases h
    rfl

/-- The swap types of a restore. -/
def restoreTypes : List SwapType := [.submarine, .chain, .reverseSubmarine]

theorem mem_ids_processRestorable {keys : List κ} {swaps : List (RestorableSwap δ)}
    (h : processRestorableSwaps m (db.query restoreTypes keys) = .ok swaps) (id : Nat) :
    id ∈ swaps.map RestorableSwap.id ↔ ∃ key ∈ keys, Restores db key id := by
  obtain ⟨rs, hrs, h⟩ := bind_eq_ok.mp h
  obtain ⟨rc, hrc, h⟩ := bind_eq_ok.mp h
  obtain ⟨rr, hrr, h⟩ := bind_eq_ok.mp h
  cases h
  rw [List.map_append, List.map_append, map_of_mapM id_createRestorableSwap hrs,
    map_of_mapM id_createRestorableChainSwap hrc, map_of_mapM id_createRestorableReverseSwap hrr,
    List.mem_append, List.mem_append, List.mem_map, List.mem_map, List.mem_map]
  simp only [mem_query_swaps (show .submarine ∈ restoreTypes by decide),
    mem_query_chainSwaps (show .chain ∈ restoreTypes by decide),
    mem_query_reverseSwaps (show .reverseSubmarine ∈ restoreTypes by decide)]
  constructor
  · rintro ((⟨s, ⟨hs, key, hkey, hhas⟩, rfl⟩ | ⟨s, ⟨hs, key, hkey, hhas⟩, rfl⟩) |
      ⟨s, ⟨hs, key, hkey, hhas⟩, rfl⟩)
    · exact ⟨key, hkey, .inl ⟨s, hs, hhas, rfl⟩⟩
    · exact ⟨key, hkey, .inr (.inl ⟨s, hs, hhas, rfl⟩)⟩
    · exact ⟨key, hkey, .inr (.inr ⟨s, hs, hhas, rfl⟩)⟩
  · rintro ⟨key, hkey, ⟨s, hs, hhas, rfl⟩ | ⟨s, hs, hhas, rfl⟩ | ⟨s, hs, hhas, rfl⟩⟩
    · exact .inl (.inl ⟨s, ⟨hs, key, hkey, hhas⟩, rfl⟩)
    · exact .inl (.inr ⟨s, ⟨hs, key, hkey, hhas⟩, rfl⟩)
    · exact .inr ⟨s, ⟨hs, key, hkey, hhas⟩, rfl⟩

omit [DecidableEq κ] in
theorem isOk_utxoDetails {data : ChainSwapData κ δ}
    (h : data.theirPublicKey.isSome → ∃ d, data.details = .ok d) :
    ∃ r, utxoDetails m data = .ok r ∧
      ∀ key i, data.theirPublicKey = some key → m key = some i → ∃ d, r = some (.utxo i d) := by
  unfold utxoDetails lookupOptionalFromKeys
  cases hkey : data.theirPublicKey with
  | none => exact ⟨none, rfl, fun _ _ h => (nomatch h)⟩
  | some key =>
    rw [Option.bind_some]
    cases hi : m key with
    | none =>
      refine ⟨none, rfl, fun key' i h h' => ?_⟩
      cases h
      rw [hi] at h'
      cases h'
    | some i =>
      obtain ⟨d, hd⟩ := h (by rw [hkey]; rfl)
      refine ⟨some (.utxo i d), by rw [hd]; rfl, fun key' i' h h' => ?_⟩
      cases h
      rw [hi] at h'
      cases h'
      exact ⟨d, rfl⟩

omit [DecidableEq κ] in
/-- A chain swap that has a key in the map can be restored, with the index of each of its keys that
is in the map. -/
theorem createRestorableChainSwap_ok (hdb : db.Derivable) {s : ChainSwapInfo κ δ}
    (hs : s ∈ db.chainSwaps) {key : κ} (hhas : s.HasKey key) (hkey : (m key).isSome) :
    ∃ r, createRestorableChainSwap m s = .ok r ∧
      (∀ key i, s.sending.theirPublicKey = some key → m key = some i →
        ∃ d, r.claimDetails = some (.utxo i d)) ∧
      ∀ key i, s.receiving.theirPublicKey = some key → m key = some i →
        ∃ d, r.refundDetails = some (.utxo i d) := by
  obtain ⟨refund, hrefund, hrefund'⟩ := isOk_utxoDetails (m := m) (hdb.receiving s hs)
  obtain ⟨i, hi⟩ := Option.isSome_iff_exists.mp hkey
  cases haddress : s.sending.claimAddress with
  | some address =>
    have hnone : s.sending.theirPublicKey = none := s.sending.evm (by rw [haddress]; rfl)
    refine ⟨⟨s.id, some (.evm address), refund⟩, ?_, fun key i h => ?_, hrefund'⟩
    · rw [createRestorableChainSwap, sendingDetails, haddress]
      exact bind_eq_ok.mpr ⟨_, rfl,
        bind_eq_ok.mpr ⟨refund, hrefund, rfl⟩⟩
    · rw [hnone] at h
      cases h
  | none =>
    obtain ⟨claim, hclaim, hclaim'⟩ := isOk_utxoDetails (m := m) (hdb.sending s hs)
    refine ⟨⟨s.id, claim, refund⟩, ?_, hclaim', hrefund'⟩
    rw [createRestorableChainSwap, sendingDetails, haddress]
    refine bind_eq_ok.mpr ⟨claim, hclaim,
      bind_eq_ok.mpr ⟨refund, hrefund, if_neg ?_⟩⟩
    rcases hhas with hkey' | hkey'
    · obtain ⟨d, rfl⟩ := hclaim' key i hkey' hi
      simp
    · obtain ⟨d, rfl⟩ := hrefund' key i hkey' hi
      simp

theorem processes_restorable (hdb : db.Derivable) :
    Processes db restoreTypes processRestorableSwaps fun _ _ => False := by
  intro m keys hkeys
  refine iff_of_true ?_ fun _ _ _ h => h.elim
  obtain ⟨rs, hrs⟩ : ∃ rs, (db.query restoreTypes keys).swaps.mapM
      (createRestorableSwap m) = .ok rs := by
    rw [isOk_mapM]
    intro s hs
    obtain ⟨hs, key, hkey, -, hhas⟩ := (mem_query_swaps (by decide)).mp hs
    obtain ⟨i, hi⟩ := lookupFromKeys_some.mpr (hkeys key hkey)
    obtain ⟨d, hd⟩ := hdb.swaps s hs (by rw [hhas]; rfl)
    exact ⟨_, bind_eq_ok.mpr ⟨i, by rw [hhas, hi],
      bind_eq_ok.mpr ⟨d, hd, rfl⟩⟩⟩
  obtain ⟨rc, hrc⟩ : ∃ rc, (db.query restoreTypes keys).chainSwaps.mapM
      (createRestorableChainSwap m) = .ok rc := by
    rw [isOk_mapM]
    intro s hs
    obtain ⟨hs, key, hkey, hhas⟩ := (mem_query_chainSwaps (by decide)).mp hs
    obtain ⟨r, hr, -⟩ := createRestorableChainSwap_ok hdb hs hhas (hkeys key hkey)
    exact ⟨r, hr⟩
  obtain ⟨rr, hrr⟩ : ∃ rr, (db.query restoreTypes keys).reverseSwaps.mapM
      (createRestorableReverseSwap m) = .ok rr := by
    rw [isOk_mapM]
    intro s hs
    obtain ⟨hs, key, hkey, -, hhas⟩ := (mem_query_reverseSwaps (by decide)).mp hs
    rw [createRestorableReverseSwap]
    split
    · exact ⟨_, rfl⟩
    · obtain ⟨i, hi⟩ := lookupFromKeys_some.mpr (hkeys key hkey)
      obtain ⟨d, hd⟩ := hdb.reverseSwaps s hs (by rw [hhas]; rfl)
      exact ⟨_, bind_eq_ok.mpr ⟨i, by rw [hhas, hi],
        bind_eq_ok.mpr ⟨d, hd, rfl⟩⟩⟩
  exact ⟨_, bind_eq_ok.mpr ⟨rs, hrs, bind_eq_ok.mpr ⟨rc, hrc,
    bind_eq_ok.mpr ⟨rr, hrr, rfl⟩⟩⟩⟩

end Process

/-! ## Exact scans -/

section Exact

/-- A scan returned the matching swaps, each id once. -/
def Exact {R : Type} (swapId : R → Nat) (scan : Except ScanError (List R))
    (matching : Nat → Prop) : Prop :=
  ∃ swaps, scan = .ok swaps ∧ (swaps.map swapId).Nodup ∧ ∀ id, id ∈ swaps.map swapId ↔ matching id

/-- A swap with the id has a key with an index in `lo .. hi`. -/
def KeyIn (iterator : PubkeyIterator κ) (lists : κ → Nat → Prop) (lo hi id : Nat) : Prop :=
  ∃ i key, lo ≤ i ∧ i < hi ∧ iterator.key? i = some key ∧ lists key id

/-- The windows that a scan without pagination visits can be scanned. -/
def WindowsOk (db : Database κ δ) (iterator : PubkeyIterator κ) (swapTypes : List SwapType)
    (needs : κ → κ → Prop) (start : Nat) : Prop :=
  ∀ k, start + k * iterator.gapLimit < iterator.maxKeys →
    (k = 0 ∨ ∃ i, start + (k - 1) * iterator.gapLimit ≤ i ∧ i < start + k * iterator.gapLimit ∧
      Used db iterator swapTypes i) →
    WindowOk iterator needs iterator.gapLimit iterator.maxKeys start (start + k * iterator.gapLimit)

/-- The range of a page does not overflow, and the keys of its windows exist. -/
def PageOk (iterator : PubkeyIterator κ) (page : Pagination) : Prop :=
  page.start + page.limit.toNat ≤ u32Max ∧
    ∀ k, page.start + k * iterator.gapLimit < page.start + page.limit.toNat →
      page.start + k * iterator.gapLimit + iterator.gapLimit < 2 ^ 32 ∧
        iterator.Derives (page.start + k * iterator.gapLimit)
          (windowEnd iterator.gapLimit (page.start + page.limit.toNat)
            (page.start + k * iterator.gapLimit))

/-- Pages that cover `lo .. hi` one after the other. -/
def Consecutive : Nat → List Pagination → Nat → Prop
  | lo, [], hi => lo = hi
  | lo, page :: pages, hi =>
    page.start = lo ∧ Consecutive (page.start + page.limit.toNat) pages hi

omit [DecidableEq κ] in
theorem scanGap_eq (iterator : PubkeyIterator κ) : scanGap iterator = iterator.gapLimit := by
  cases iterator with
  | xpub root derivationPath gapLimit pagination =>
    have hlt : gapLimit.toNat < 2 ^ 32 := gapLimit.toNat_lt
    exact Nat.min_eq_left (Nat.le_sub_one_of_lt hlt)
  | keyVec identifier keys => exact Nat.min_self _
  | singleKey identifier key => exact Nat.min_self _

omit [DecidableEq κ] in
theorem gapLimit_le_u32Max (iterator : PubkeyIterator κ) : iterator.gapLimit ≤ u32Max := by
  rw [← scanGap_eq]
  exact Nat.le_trans (Nat.min_le_right _ _) iterator.maxKeys_le_u32Max

omit [DecidableEq κ] in
theorem lt_of_childKey {root : Xpub κ} {derivationPath : List Nat} {i : Nat} {key : κ}
    (h : PubkeyIterator.childKey root derivationPath i = .ok key) : i < 2 ^ 31 := by
  obtain ⟨child, hchild, -⟩ := bind_eq_ok.mp h
  rw [fromNormalIdx] at hchild
  split at hchild
  · assumption
  · cases hchild

omit [DecidableEq κ] in
/-- The buffer of a window that is not the last one ends below the number of keys. -/
theorem buffer_le_maxKeys (iterator : PubkeyIterator κ) (hgap : 0 < iterator.gapLimit)
    (start : Nat) (hlt : start + iterator.gapLimit < iterator.maxKeys)
    (h : iterator.Derives start (start + iterator.gapLimit)) :
    start + iterator.gapLimit + iterator.gapLimit ≤ iterator.maxKeys := by
  cases iterator with
  | xpub root derivationPath gapLimit pagination =>
    have hmax : (PubkeyIterator.xpub root derivationPath gapLimit pagination).maxKeys =
        2 ^ 32 - 1 := rfl
    have hu32 : u32Max = 2 ^ 32 - 1 := rfl
    generalize (PubkeyIterator.xpub root derivationPath gapLimit pagination).gapLimit = gap at *
    by_contra hover
    have hmapEnd : PubkeyIterator.mapEnd start (start + gap) = 2 ^ 32 - 1 := by
      unfold PubkeyIterator.mapEnd
      omega
    obtain ⟨key, hkey⟩ := h (2 ^ 32 - 2) (by omega) (by omega)
    have := lt_of_childKey hkey
    omega
  | keyVec identifier keys =>
    have heq : (PubkeyIterator.keyVec identifier keys).gapLimit =
        (PubkeyIterator.keyVec identifier keys).maxKeys := rfl
    omega
  | singleKey identifier key =>
    have heq : (PubkeyIterator.singleKey identifier key).gapLimit =
        (PubkeyIterator.singleKey identifier key).maxKeys := rfl
    omega

variable {R : Type} {swapId : R → Nat} {db : Database κ δ} {iterator : PubkeyIterator κ}
  {swapTypes : List SwapType} {process : KeyMap κ → Rows κ δ → Except ScanError (List R)}
  {lists : κ → Nat → Prop} {needs : κ → κ → Prop}

theorem scanSwaps_eq (hgap : 0 < iterator.gapLimit) (startIndex : Option Nat) :
    scanSwapsPaginated swapId db iterator swapTypes process startIndex none =
      scanWindows swapId db iterator swapTypes process iterator.gapLimit iterator.maxKeys false
        (iterator.maxKeys - startIndex.getD 0) (startIndex.getD 0) (fun _ => none) [] := by
  rw [scanSwapsPaginated, scanGap_eq, if_neg (by omega)]
  rfl

theorem scanPage_eq (hgap : 0 < iterator.gapLimit) {page : Pagination}
    (hpage : page.start + page.limit.toNat ≤ u32Max) :
    scanSwapsPaginated swapId db iterator swapTypes process none (some page) =
      scanWindows swapId db iterator swapTypes process iterator.gapLimit
        (page.start + page.limit.toNat) true (page.start + page.limit.toNat - page.start)
        page.start (fun _ => none) [] := by
  have hend : page.endIndex = .ok (page.start + page.limit.toNat) := if_pos hpage
  rw [scanSwapsPaginated, scanGap_eq, if_neg (by omega), scanRange, hend]
  rfl

/-- When a scan without pagination from `start` succeeds. -/
theorem isOk_scanSwaps (hgap : 0 < iterator.gapLimit)
    (hneeds : ∀ key key', needs key key' → db.Uses swapTypes key)
    (hprocess : Processes db swapTypes process needs)
    (hgapless : Gapless (Used db iterator swapTypes) iterator.gapLimit) (startIndex : Option Nat) :
    (∃ r, scanSwapsPaginated swapId db iterator swapTypes process startIndex none = .ok r) ↔
      WindowsOk db iterator swapTypes needs (startIndex.getD 0) := by
  rw [scanSwaps_eq hgap]
  exact isOk_scanWindows hgap (gapLimit_le_u32Max iterator) rfl (buffer_le_maxKeys iterator hgap)
    hneeds hprocess (hgapless.gaplessFrom _) (PubkeyIterator.isMap_empty _) (Nat.le_refl _)
    (.inl rfl) (by omega)

theorem exact_scan (hgap : 0 < iterator.gapLimit)
    (huses : ∀ key id, lists key id → db.Uses swapTypes key)
    (hneeds : ∀ key key', needs key key' → db.Uses swapTypes key)
    (hlists : ∀ m keys swaps, process m (db.query swapTypes keys) = .ok swaps →
      ∀ id, id ∈ swaps.map swapId ↔ ∃ key ∈ keys, lists key id)
    (hprocess : Processes db swapTypes process needs)
    (hgapless : Gapless (Used db iterator swapTypes) iterator.gapLimit) :
    Exact swapId (scanSwapsPaginated swapId db iterator swapTypes process none none)
        (KeyIn iterator lists 0 iterator.maxKeys) ↔
      WindowsOk db iterator swapTypes needs 0 := by
  constructor
  · rintro ⟨swaps, hswaps, -⟩
    exact (isOk_scanSwaps hgap hneeds hprocess hgapless none).mp ⟨swaps, hswaps⟩
  · intro hwindows
    obtain ⟨swaps, hswaps⟩ := (isOk_scanSwaps hgap hneeds hprocess hgapless none).mpr hwindows
    refine ⟨swaps, hswaps, ?_⟩
    rw [scanSwaps_eq hgap] at hswaps
    have hscans := scans_of_ok hgap (gapLimit_le_u32Max iterator) (Nat.le_refl _) (by omega) hswaps
    refine ⟨hscans.nodup_ids List.nodup_nil, fun id => ?_⟩
    rw [hscans.mem_ids huses hlists fun _ => ⟨rfl, hgapless.gaplessFrom _⟩]
    simp [KeyIn]

/-- The page is exact when its windows can be scanned. -/
theorem exact_page (hgap : 0 < iterator.gapLimit) {page : Pagination}
    (hmax : page.start + page.limit.toNat ≤ u32Max →
      page.start + page.limit.toNat ≤ iterator.maxKeys)
    (huses : ∀ key id, lists key id → db.Uses swapTypes key)
    (hlists : ∀ m keys swaps, process m (db.query swapTypes keys) = .ok swaps →
      ∀ id, id ∈ swaps.map swapId ↔ ∃ key ∈ keys, lists key id)
    (hprocess : Processes db swapTypes process fun _ _ => False) :
    Exact swapId (scanSwapsPaginated swapId db iterator swapTypes process none (some page))
        (KeyIn iterator lists page.start (page.start + page.limit.toNat)) ↔
      PageOk iterator page := by
  by_cases hpage : page.start + page.limit.toNat ≤ u32Max
  · have hgap' : iterator.gapLimit ≤ u32Max := gapLimit_le_u32Max iterator
    have hfuel : page.start + page.limit.toNat ≤
        page.start + (page.start + page.limit.toNat - page.start) := by omega
    rw [scanPage_eq hgap hpage, PageOk]
    constructor
    · rintro ⟨swaps, hswaps, -⟩
      exact ⟨hpage, (isOk_scanWindows_page hgap hgap' (hmax hpage) hprocess hfuel).mp
        ⟨swaps, hswaps⟩⟩
    · rintro ⟨-, hwindows⟩
      obtain ⟨swaps, hswaps⟩ :=
        (isOk_scanWindows_page hgap hgap' (hmax hpage) hprocess hfuel).mpr hwindows
      have hscans := scans_of_ok hgap hgap' (hmax hpage) hfuel hswaps
      refine ⟨swaps, hswaps, hscans.nodup_ids List.nodup_nil, fun id => ?_⟩
      rw [hscans.mem_ids huses hlists fun h => (nomatch h)]
      simp [KeyIn]
  · refine iff_of_false ?_ fun h => hpage h.1
    rintro ⟨swaps, hswaps, -⟩
    have hend : page.endIndex = .error .paginationRangeOverflow := if_neg hpage
    rw [scanSwapsPaginated, scanGap_eq, if_neg (by omega), scanRange, hend] at hswaps
    cases hswaps

theorem Consecutive.le {lo hi : Nat} {pages : List Pagination} (h : Consecutive lo pages hi) :
    lo ≤ hi := by
  induction pages generalizing lo with
  | nil => exact Nat.le_of_eq h
  | cons page pages ih =>
    have hrest := ih h.2
    have hstart := h.1
    omega

omit [DecidableEq κ] in
/-- The union of the ids of consecutive pages. -/
theorem mem_pages {scan : Pagination → Except ScanError (List R)} {pages : List Pagination}
    {lo hi : Nat} (hpages : Consecutive lo pages hi)
    (hexact : ∀ page ∈ pages, Exact swapId (scan page)
      (KeyIn iterator lists page.start (page.start + page.limit.toNat))) (id : Nat) :
    (∃ page ∈ pages, ∃ swaps, scan page = .ok swaps ∧ id ∈ swaps.map swapId) ↔
      KeyIn iterator lists lo hi id := by
  induction pages generalizing lo with
  | nil =>
    have hle : hi ≤ lo := Nat.le_of_eq (Eq.symm hpages)
    refine iff_of_false (by simp) ?_
    rintro ⟨i, key, hlo, hhi, -⟩
    omega
  | cons page pages ih =>
    obtain ⟨hstart, hpages⟩ := hpages
    obtain ⟨swaps, hswaps, -, hids⟩ := hexact page (by simp)
    have hle : page.start + page.limit.toNat ≤ hi := hpages.le
    have hrest := ih hpages fun page' hpage' => hexact page' (by simp [hpage'])
    have hfirst : (∃ swaps, scan page = .ok swaps ∧ id ∈ swaps.map swapId) ↔
        KeyIn iterator lists page.start (page.start + page.limit.toNat) id := by
      rw [← hids id]
      constructor
      · rintro ⟨swaps', hswaps', hmem⟩
        rw [hswaps] at hswaps'
        cases hswaps'
        exact hmem
      · exact fun hmem => ⟨swaps, hswaps, hmem⟩
    rw [List.exists_mem_cons_iff, hrest, hfirst]
    constructor
    · rintro (⟨i, key, hi, hi', h⟩ | ⟨i, key, hi, hi', h⟩)
      · exact ⟨i, key, by omega, by omega, h⟩
      · exact ⟨i, key, by omega, hi', h⟩
    · rintro ⟨i, key, hi, hi', h⟩
      by_cases hpage : i < page.start + page.limit.toNat
      · exact .inl ⟨i, key, by omega, hpage, h⟩
      · exact .inr ⟨i, key, by omega, hi', h⟩

omit [DecidableEq κ] in
theorem uses_of_rescues (key : κ) (id : Nat) (h : Rescues db key id) :
    db.Uses [.submarine, .chain] key := by
  rcases h with ⟨s, hs, hhas, -⟩ | ⟨s, hs, hhas, -, -⟩
  · exact .inl ⟨by simp, s, hs, hhas⟩
  · exact .inr (.inl ⟨by simp, s, hs, hhas⟩)

omit [DecidableEq κ] in
theorem uses_of_rescueNeeds (key key' : κ) (h : RescueNeeds db key key') :
    db.Uses [.submarine, .chain] key := by
  obtain ⟨s, hs, hhas, -⟩ := h
  exact .inr (.inl ⟨by simp, s, hs, hhas⟩)

omit [DecidableEq κ] in
theorem uses_of_restores (key : κ) (id : Nat) (h : Restores db key id) :
    db.Uses restoreTypes key := by
  rcases h with ⟨s, hs, hhas, -⟩ | ⟨s, hs, hhas, -⟩ | ⟨s, hs, hhas, -⟩
  · exact .inl ⟨by decide, s, hs, hhas⟩
  · exact .inr (.inl ⟨by decide, s, hs, hhas⟩)
  · exact .inr (.inr ⟨by decide, s, hs, hhas⟩)

/-- A page of a restore. -/
theorem exact_restorePage (hgap : 0 < iterator.gapLimit) (hdb : db.Derivable) {page : Pagination}
    (hpage : iterator.pagination = some page) :
    Exact RestorableSwap.id (restoreScan db iterator)
        (KeyIn iterator (Restores db) page.start (page.start + page.limit.toNat)) ↔
      PageOk iterator page := by
  rw [restoreScan, hpage]
  refine exact_page hgap (fun h => ?_) uses_of_restores
    (fun _ _ _ h id => mem_ids_processRestorable h id) (processes_restorable hdb)
  cases iterator with
  | xpub root derivationPath gapLimit pagination => exact h
  | keyVec identifier keys => cases hpage
  | singleKey identifier key => cases hpage

/-- Scans without pagination are exact when the windows they visit can be scanned, which for a
rescue means that it never finds a chain swap before the key of its receiving side is in the map.
Pages are exact when their keys exist, and then consecutive pages add up. -/
theorem scans_exact (db : Database κ δ) (iterator : PubkeyIterator κ)
    (hgap : 1 ≤ iterator.gapLimit) (hdb : db.Derivable) :
    (Gapless (Used db iterator [.submarine, .chain]) iterator.gapLimit →
      (Exact RescuableSwap.id (rescueScan db iterator)
          (KeyIn iterator (Rescues db) 0 iterator.maxKeys) ↔
        WindowsOk db iterator [.submarine, .chain] (RescueNeeds db) 0)) ∧
    (iterator.pagination = none → Gapless (Used db iterator restoreTypes) iterator.gapLimit →
      (Exact RestorableSwap.id (restoreScan db iterator)
          (KeyIn iterator (Restores db) 0 iterator.maxKeys) ↔
        WindowsOk db iterator restoreTypes (fun _ _ => False) 0)) ∧
    (∀ page, iterator.pagination = some page →
      (Exact RestorableSwap.id (restoreScan db iterator)
          (KeyIn iterator (Restores db) page.start (page.start + page.limit.toNat)) ↔
        PageOk iterator page)) ∧
    ∀ pages n, iterator.pagination.isSome → Consecutive 0 pages n →
      (∀ page ∈ pages, PageOk iterator page) → ∀ id,
        ((∃ page ∈ pages, ∃ swaps, restoreScan db (iterator.withPagination (some page)) = .ok swaps ∧
            id ∈ swaps.map RestorableSwap.id) ↔
          KeyIn iterator (Restores db) 0 n id) := by
  refine ⟨fun hgapless => ?_, fun hpage hgapless => ?_, fun page hpage => ?_,
    fun pages n hsome hpages hok => ?_⟩
  · exact exact_scan hgap uses_of_rescues uses_of_rescueNeeds
      (fun _ _ _ h id => mem_ids_processRescuable h id) (processes_rescuable hdb) hgapless
  · rw [restoreScan, hpage]
    exact exact_scan hgap uses_of_restores (fun _ _ h => h.elim)
      (fun _ _ _ h id => mem_ids_processRestorable h id) (processes_restorable hdb) hgapless
  · exact exact_restorePage hgap hdb hpage
  · cases iterator with
    | keyVec identifier keys => cases hsome
    | singleKey identifier key => cases hsome
    | xpub root derivationPath gapLimit pagination =>
      refine mem_pages hpages fun page hpage => ?_
      have hgap' : 0 <
          (PubkeyIterator.xpub root derivationPath gapLimit (some page)).gapLimit := hgap
      exact (exact_restorePage hgap' hdb rfl).mpr (hok page hpage)

end Exact

/-- A client whose chain swap has its keys three windows apart. -/
def farApart : Database Nat Unit where
  swaps := [⟨2, 3, some 1, .ok ()⟩, ⟨3, 3, some 2, .ok ()⟩]
  chainSwaps := [{
    id := 1
    sending := ⟨some 0, none, .ok (), by simp⟩
    receiving := ⟨some 3, none, .ok (), by simp⟩ }]

/-- The extended key whose child keys are their indices, with a gap limit of one. -/
def indexKeys : PubkeyIterator Nat :=
  .xpub ⟨0, fun path => .ok (path.getLastD 0)⟩ [44, 0, 0, 0] 1 none

theorem derivable_farApart : farApart.Derivable where
  swaps := by simp [farApart]
  sending := by simp [farApart]
  receiving := by simp [farApart]
  reverseSwaps := by simp [farApart]

theorem childKey_indexKeys {i : Nat} (h : i < 2 ^ 31) :
    PubkeyIterator.childKey ⟨0, fun path => .ok (path.getLastD 0)⟩ [44, 0, 0, 0] i = .ok i := by
  rw [PubkeyIterator.childKey, fromNormalIdx, if_pos h]
  rfl

theorem lt_of_uses_farApart {types : List SwapType} {key : Nat} (h : farApart.Uses types key) :
    key < 4 := by
  rcases h with ⟨-, s, hs, -, hkey⟩ | ⟨-, s, hs, hkey⟩ | ⟨-, s, hs, -⟩
  · simp only [farApart, List.mem_cons, List.not_mem_nil, or_false] at hs
    rcases hs with rfl | rfl <;> cases hkey <;> decide
  · simp only [farApart, List.mem_cons, List.not_mem_nil, or_false] at hs
    subst hs
    rcases hkey with hkey | hkey <;> cases hkey <;> decide
  · cases hs

theorem used_farApart {types : List SwapType} (hs : .submarine ∈ types) (hc : .chain ∈ types)
    {i : Nat} : Used farApart indexKeys types i ↔ i < 4 := by
  constructor
  · rintro ⟨-, key, hkey, huses⟩
    have hi := PubkeyIterator.key?_xpub.mp hkey
    rw [childKey_indexKeys (lt_of_childKey hi)] at hi
    cases hi
    exact lt_of_uses_farApart huses
  · intro hi
    refine ⟨Nat.lt_trans hi (by decide), i,
      PubkeyIterator.key?_xpub.mpr (childKey_indexKeys (by omega)), ?_⟩
    have hi' : i = 0 ∨ i = 1 ∨ i = 2 ∨ i = 3 := by omega
    rcases hi' with rfl | rfl | rfl | rfl
    · exact .inr (.inl ⟨hc, _, List.mem_cons_self, .inl rfl⟩)
    · exact .inl ⟨hs, _, List.mem_cons_self, by decide, rfl⟩
    · exact .inl ⟨hs, _, List.mem_cons_of_mem _ List.mem_cons_self, by decide, rfl⟩
    · exact .inr (.inl ⟨hc, _, List.mem_cons_self, .inr rfl⟩)

theorem gapless_farApart {types : List SwapType} (hs : .submarine ∈ types) (hc : .chain ∈ types) :
    Gapless (Used farApart indexKeys types) indexKeys.gapLimit := by
  have hgap : indexKeys.gapLimit = 1 := rfl
  constructor
  · intro i hi hleast
    have := hleast 0 ((used_farApart hs hc).mpr (by decide))
    omega
  · intro i j hi hj hlt hnone
    by_contra hgt
    have := (used_farApart hs hc).mp hj
    exact hnone (i + 1) (by omega) (by omega) ((used_farApart hs hc).mpr (by omega))

theorem restore_farApart :
    Exact RestorableSwap.id (restoreScan farApart indexKeys)
      (KeyIn indexKeys (Restores farApart) 0 indexKeys.maxKeys) := by
  have hused : ∀ i, Used farApart indexKeys restoreTypes i ↔ i < 4 :=
    fun i => used_farApart (by decide) (by decide)
  have hgap : indexKeys.gapLimit = 1 := rfl
  have hmax : indexKeys.maxKeys = 2 ^ 32 - 1 := rfl
  refine ((scans_exact farApart indexKeys (by decide) derivable_farApart).2.1 rfl
    (gapless_farApart (by decide) (by decide))).mpr fun k hk hreach => ?_
  rw [hgap, hmax] at hk ⊢
  have hk4 : k ≤ 4 := by
    rw [hgap] at hreach
    rcases hreach with rfl | ⟨i, hi, hi', hi4⟩
    · omega
    · rw [hused] at hi4
      omega
  refine ⟨by omega, fun i hi hi' => ?_, fun _ _ _ _ _ _ h => h.elim⟩
  refine ⟨i, childKey_indexKeys ?_⟩
  unfold PubkeyIterator.mapEnd windowEnd at hi'
  omega

/-- The first window finds the chain swap by its sending key, and the map ends before the key of
its receiving side. -/
theorem rescue_farApart_fails :
    (∀ key, farApart.Uses [.submarine, .chain] key → ∃ i < 4, indexKeys.key? i = some key) ∧
      Gapless (Used farApart indexKeys [.submarine, .chain]) indexKeys.gapLimit ∧
      ¬ Exact RescuableSwap.id (rescueScan farApart indexKeys)
        (KeyIn indexKeys (Rescues farApart) 0 indexKeys.maxKeys) := by
  refine ⟨fun key huses => ⟨key, lt_of_uses_farApart huses, ?_⟩,
    gapless_farApart (by simp) (by simp), ?_⟩
  · have hlt := lt_of_uses_farApart huses
    exact PubkeyIterator.key?_xpub.mpr (childKey_indexKeys (by omega))
  rintro ⟨swaps, hswaps, -⟩
  have herror : rescueScan farApart indexKeys = .error (.noKeyMapping 1) := by
    rfl
  rw [herror] at hswaps
  cases hswaps

end Boltz.SwapRescue

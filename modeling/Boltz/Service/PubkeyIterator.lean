import Boltz.Utils
import Mathlib

/-!
# Public keys of a client (`boltzr/src/service/pubkey_iterator.rs`)

The iterators that a rescue request can be about: an extended public key with a derivation path,
a list of keys, or one key. `deriveKeys` returns the keys of a window of indices and puts the keys
of a longer window in the map from keys to indices.
-/

namespace Boltz

def u32Max : Nat := 2 ^ 32 - 1

/-- Errors of a scan. `bip32` and `details` are errors of the key derivation and of what the
wallet and the stored swap tree give for a swap. -/
inductive ScanError where
  | paginationRangeOverflow
  | endBeforeStart (last start : Nat)
  | invalidChildNumber (index : Nat)
  | bip32 (message : String)
  | noPublicKey (id : Nat)
  | noKeyMapping (id : Nat)
  | details (message : String)
  deriving DecidableEq, Repr

structure Pagination where
  startIndex : UInt32
  limit : UInt32
  deriving DecidableEq

namespace Pagination

def start (page : Pagination) : Nat := page.startIndex.toNat

def endIndex (page : Pagination) : Except ScanError Nat :=
  if page.startIndex.toNat + page.limit.toNat ≤ u32Max then
    .ok (page.startIndex.toNat + page.limit.toNat)
  else
    .error .paginationRangeOverflow

end Pagination

/-- `buffered_end`: the subtraction is checked, the addition saturates. -/
def bufferedEnd (start last : Nat) : Except ScanError Nat :=
  if last < start then .error (.endBeforeStart last start)
  else .ok (min (last + (last - start)) u32Max)

/-- The map from keys to their indices that a scan builds. -/
abbrev KeyMap (κ : Type) := κ → Option Nat

/-- An extended public key, by what the scan asks of it. -/
structure Xpub (κ : Type) where
  identifier : Nat
  derivePub : List Nat → Except ScanError κ

/-- `ChildNumber::from_normal_idx`. -/
def fromNormalIdx (index : Nat) : Except ScanError Nat :=
  if index < 2 ^ 31 then .ok index else .error (.invalidChildNumber index)

/-- The implementations of `PubkeyIterator`. The identifiers of `keyVec` and `singleKey` are hashes
of their keys. -/
inductive PubkeyIterator (κ : Type) where
  | xpub (root : Xpub κ) (derivationPath : List Nat) (gapLimit : UInt32)
      (pagination : Option Pagination)
  | keyVec (identifier : Nat) (keys : List κ)
  | singleKey (identifier : Nat) (key : κ)

variable {κ : Type} [DecidableEq κ]

/-- Insert keys at consecutive indices, from `i` on. -/
def KeyMap.insertFrom (m : KeyMap κ) : Nat → List κ → KeyMap κ
  | _, [] => m
  | i, key :: keys => KeyMap.insertFrom (Function.update m key (some i)) (i + 1) keys

namespace PubkeyIterator

def identifier : PubkeyIterator κ → Nat
  | .xpub root _ _ _ => root.identifier
  | .keyVec identifier _ => identifier
  | .singleKey identifier _ => identifier

def maxKeys : PubkeyIterator κ → Nat
  | .xpub .. => u32Max
  | .keyVec _ keys => keys.length % 2 ^ 32
  | .singleKey .. => 1

def gapLimit : PubkeyIterator κ → Nat
  | .xpub _ _ gapLimit _ => gapLimit.toNat
  | .keyVec identifier keys => maxKeys (.keyVec identifier keys)
  | .singleKey identifier key => maxKeys (.singleKey identifier key)

def pagination : PubkeyIterator κ → Option Pagination
  | .xpub _ _ _ pagination => pagination
  | _ => none

def withPagination (pagination : Option Pagination) : PubkeyIterator κ → PubkeyIterator κ
  | .xpub root derivationPath gapLimit _ => .xpub root derivationPath gapLimit pagination
  | iterator => iterator

/-- The key that an xpub has at an index of the derivation path. -/
def childKey (root : Xpub κ) (derivationPath : List Nat) (index : Nat) : Except ScanError κ := do
  let child ← fromNormalIdx index
  root.derivePub (derivationPath ++ [child])

/-- `derive_keys`: the keys of `start .. last`, and the map with the keys up to the buffered end
added to it. -/
def deriveKeys (iterator : PubkeyIterator κ) (m : KeyMap κ) (start last : Nat) :
    Except ScanError (KeyMap κ × List κ) :=
  match iterator with
  | .xpub root derivationPath _ _ => do
    let buffered ← bufferedEnd start last
    let keys ← (List.range' start (buffered - start)).mapM (childKey root derivationPath)
    .ok (m.insertFrom start keys, keys.take (last - start))
  | .keyVec identifier keys =>
    if maxKeys (.keyVec identifier keys) ≤ start then .ok (m, [])
    else do
      let buffered ← bufferedEnd start last
      let actualEnd := min buffered keys.length
      let keys := (keys.drop start).take (actualEnd - start)
      .ok (m.insertFrom start keys, keys.take (last - start))
  | .singleKey _ key => .ok (Function.update m key (some 0), [key])

/-! ## The key sequence -/

/-- The key at an index, where there is one. -/
def key? : PubkeyIterator κ → Nat → Option κ
  | .xpub root derivationPath _ _, i => (childKey root derivationPath i).toOption
  | .keyVec _ keys, i => keys[i]?
  | .singleKey _ key, i => if i = 0 then some key else none

/-- The end of the window whose keys are put in the map. -/
def mapEnd (start last : Nat) : Nat := min (last + (last - start)) u32Max

/-- The keys whose derivation fails make `deriveKeys` of an xpub fail. -/
def Derives : PubkeyIterator κ → Nat → Nat → Prop
  | .xpub root derivationPath _ _, start, last =>
    ∀ i, start ≤ i → i < mapEnd start last → ∃ key, childKey root derivationPath i = .ok key
  | _, _, _ => True

omit [DecidableEq κ] in
theorem maxKeys_le_u32Max (iterator : PubkeyIterator κ) : iterator.maxKeys ≤ u32Max := by
  cases iterator with
  | xpub root derivationPath gapLimit pagination => exact Nat.le_refl _
  | keyVec identifier keys =>
    have := Nat.mod_lt keys.length (show 0 < 2 ^ 32 by decide)
    simp only [maxKeys, u32Max]
    omega
  | singleKey identifier key => exact (by decide : 1 ≤ u32Max)

/-! ## Deriving a window -/

section Derive

variable {iterator : PubkeyIterator κ} {m m' : KeyMap κ} {keys : List κ} {start last : Nat}

theorem insertFrom_of_notMem {key : κ} :
    ∀ {m : KeyMap κ} {i : Nat} {keys : List κ}, key ∉ keys → m.insertFrom i keys key = m key
  | _, _, [], _ => rfl
  | m, i, k :: keys, h => by
    rw [List.mem_cons, not_or] at h
    rw [KeyMap.insertFrom, insertFrom_of_notMem h.2, Function.update_of_ne h.1]

/-- The last index of a key wins. -/
theorem insertFrom_of_getElem? {key : κ} :
    ∀ {m : KeyMap κ} {i n : Nat} {keys : List κ}, keys[n]? = some key →
      ∃ n', n ≤ n' ∧ keys[n']? = some key ∧ m.insertFrom i keys key = some (i + n')
  | m, i, n, [], h => by simp at h
  | m, i, n, k :: keys, h => by
    by_cases hmem : key ∈ keys
    · obtain ⟨n₀, hn₀⟩ : ∃ n₀, keys[n₀]? = some key ∧ n ≤ n₀ + 1 := by
        cases n with
        | zero =>
          obtain ⟨n₀, hn₀⟩ := List.mem_iff_getElem?.mp hmem
          exact ⟨n₀, hn₀, by omega⟩
        | succ n => exact ⟨n, by simpa using h, Nat.le_refl _⟩
      obtain ⟨n', hle, hn', hval⟩ :=
        insertFrom_of_getElem? (m := Function.update m k (some i)) (i := i + 1) hn₀.1
      refine ⟨n' + 1, by omega, by simpa using hn', ?_⟩
      rw [KeyMap.insertFrom, hval]
      congr 1
      omega
    · cases n with
      | zero =>
        have hk : k = key := by simpa using h
        refine ⟨0, Nat.le_refl _, by simp [hk], ?_⟩
        rw [KeyMap.insertFrom, insertFrom_of_notMem hmem, hk, Function.update_self]
        rfl
      | succ n =>
        exact absurd (List.mem_of_getElem? (by simpa using h)) hmem

omit [DecidableEq κ] in
theorem mapM_range'_ok {f : Nat → Except ScanError κ} :
    ∀ {n start : Nat} {keys : List κ}, (List.range' start n).mapM f = .ok keys →
      keys.length = n ∧ ∀ j < n, ∃ key, f (start + j) = .ok key ∧ keys[j]? = some key
  | 0, start, keys, h => by
    cases h
    exact ⟨rfl, fun j hj => absurd hj (Nat.not_lt_zero j)⟩
  | n + 1, start, keys, h => by
    rw [List.range'_succ, List.mapM_cons] at h
    cases hf : f start with
    | error e => rw [hf] at h; cases h
    | ok key =>
      cases hrest : (List.range' (start + 1) n).mapM f with
      | error e => rw [hf, hrest] at h; cases h
      | ok rest =>
        rw [hf, hrest] at h
        cases h
        obtain ⟨hlen, hkeys⟩ := mapM_range'_ok hrest
        refine ⟨by simp [hlen], fun j hj => ?_⟩
        cases j with
        | zero => exact ⟨key, hf, rfl⟩
        | succ j =>
          obtain ⟨key', hkey', hget⟩ := hkeys j (by omega)
          exact ⟨key', by rw [← hkey']; congr 1; omega, by simpa using hget⟩

omit [DecidableEq κ] in
theorem mapM_range'_isOk {f : Nat → Except ScanError κ} :
    ∀ {n start : Nat}, (∀ j < n, ∃ key, f (start + j) = .ok key) →
      ∃ keys, (List.range' start n).mapM f = .ok keys
  | 0, start, _ => ⟨[], rfl⟩
  | n + 1, start, h => by
    obtain ⟨key, hkey⟩ := h 0 (Nat.succ_pos n)
    have hlater : ∀ j < n, ∃ key, f (start + 1 + j) = .ok key := by
      intro j hj
      obtain ⟨key, hkey⟩ := h (j + 1) (by omega)
      exact ⟨key, by rw [← hkey]; congr 1; omega⟩
    obtain ⟨rest, hrest⟩ := mapM_range'_isOk hlater
    refine ⟨key :: rest, ?_⟩
    rw [List.range'_succ, List.mapM_cons, show f start = .ok key from hkey, hrest]
    rfl

theorem bufferedEnd_of_le (h : start ≤ last) : bufferedEnd start last = .ok (mapEnd start last) :=
  if_neg (Nat.not_lt.mpr h)

theorem bufferedEnd_of_lt (h : last < start) :
    bufferedEnd start last = .error (.endBeforeStart last start) :=
  if_pos h

theorem le_mapEnd (h : last ≤ u32Max) : last ≤ mapEnd start last := by
  unfold mapEnd
  omega

/-- What `deriveKeys` did to a window: it returned the keys of `start .. last`, and the map has
the greatest index below the buffered end for every key that has one from `start` on. -/
structure Derived (iterator : PubkeyIterator κ) (start last : Nat) (m m' : KeyMap κ)
    (keys : List κ) : Prop where
  mem : ∀ key, key ∈ keys ↔ ∃ i, start ≤ i ∧ i < last ∧ iterator.key? i = some key
  greatest : ∀ key i, start ≤ i → i < mapEnd start last → iterator.key? i = some key →
    ∃ j, i ≤ j ∧ j < mapEnd start last ∧ iterator.key? j = some key ∧ m' key = some j
  other : ∀ key, (∀ i, start ≤ i → i < mapEnd start last → iterator.key? i ≠ some key) →
    m' key = m key

/-- Inserting the keys of a window at their indices. -/
theorem derived_insertFrom (hlast : last ≤ u32Max)
    (hkeys : ∀ j key, keys[j]? = some key ↔
      start + j < mapEnd start last ∧ iterator.key? (start + j) = some key) :
    Derived iterator start last m (m.insertFrom start keys) (keys.take (last - start)) where
  mem key := by
    rw [List.mem_iff_getElem?]
    constructor
    · rintro ⟨j, hj⟩
      rw [List.getElem?_take] at hj
      split at hj
      · exact ⟨start + j, by omega, by omega, ((hkeys j key).mp hj).2⟩
      · exact nomatch hj
    · rintro ⟨i, hi, hi', hkey⟩
      have hend : last ≤ mapEnd start last := le_mapEnd hlast
      obtain ⟨j, rfl⟩ := Nat.exists_eq_add_of_le hi
      refine ⟨j, ?_⟩
      rw [List.getElem?_take, if_pos (by omega)]
      exact (hkeys j key).mpr ⟨by omega, hkey⟩
  greatest key i hi hi' hkey := by
    obtain ⟨j, rfl⟩ := Nat.exists_eq_add_of_le hi
    obtain ⟨j', hle, hj', hval⟩ := insertFrom_of_getElem? (m := m) (i := start)
      ((hkeys j key).mpr ⟨hi', hkey⟩)
    obtain ⟨hlt, hkey'⟩ := (hkeys j' key).mp hj'
    exact ⟨start + j', by omega, hlt, hkey', hval⟩
  other key hnone := by
    apply insertFrom_of_notMem
    intro hmem
    obtain ⟨j, hj⟩ := List.mem_iff_getElem?.mp hmem
    obtain ⟨hlt, hkey⟩ := (hkeys j key).mp hj
    exact hnone (start + j) (by omega) hlt hkey

omit [DecidableEq κ] in
theorem key?_xpub {root : Xpub κ} {derivationPath : List Nat} {gapLimit : UInt32}
    {pagination : Option Pagination} {i : Nat} {key : κ} :
    (xpub root derivationPath gapLimit pagination).key? i = some key ↔
      childKey root derivationPath i = .ok key := by
  rw [key?]
  cases childKey root derivationPath i with
  | error e => simp [Except.toOption]
  | ok key' => simp [Except.toOption]

theorem deriveKeys_derived (hstart : start < iterator.maxKeys) (hlt : start < last)
    (hlast : last ≤ u32Max) (h : iterator.deriveKeys m start last = .ok (m', keys)) :
    Derived iterator start last m m' keys := by
  have hend : last ≤ mapEnd start last := le_mapEnd hlast
  cases iterator with
  | xpub root derivationPath gapLimit pagination =>
    obtain ⟨_, hbuffered, h⟩ := bind_eq_ok.mp h
    rw [bufferedEnd_of_le (Nat.le_of_lt hlt)] at hbuffered
    cases hbuffered
    obtain ⟨all, hmap, h⟩ := bind_eq_ok.mp h
    cases h
    obtain ⟨hlen, hall⟩ := mapM_range'_ok hmap
    apply derived_insertFrom hlast
    intro j key
    rw [key?_xpub]
    constructor
    · intro hj
      have hjlt : j < mapEnd start last - start := by
        rw [← hlen]
        exact (List.getElem?_eq_some_iff.mp hj).1
      obtain ⟨key', hkey', hj'⟩ := hall j hjlt
      rw [hj'] at hj
      cases hj
      exact ⟨by omega, hkey'⟩
    · rintro ⟨hjlt, hkey⟩
      obtain ⟨key', hkey', hj'⟩ := hall j (by omega)
      rw [hkey] at hkey'
      cases hkey'
      exact hj'
  | keyVec identifier all =>
    rw [deriveKeys, if_neg (Nat.not_le.mpr hstart)] at h
    obtain ⟨_, hbuffered, h⟩ := bind_eq_ok.mp h
    rw [bufferedEnd_of_le (Nat.le_of_lt hlt)] at hbuffered
    cases hbuffered
    cases h
    apply derived_insertFrom hlast
    intro j key
    rw [List.getElem?_take, key?]
    split
    · rw [List.getElem?_drop]
      exact ⟨fun h => ⟨by omega, h⟩, fun h => h.2⟩
    · refine ⟨fun h => (nomatch h), fun ⟨hjlt, hkey⟩ => ?_⟩
      have := (List.getElem?_eq_some_iff.mp hkey).1
      omega
  | singleKey identifier key =>
    have hzero : start = 0 := Nat.lt_one_iff.mp hstart
    subst hzero
    cases h
    refine ⟨fun k => ?_, fun k i _ hi hk => ?_, fun k hnone => ?_⟩
    · simp only [List.mem_singleton, key?]
      constructor
      · rintro rfl
        exact ⟨0, Nat.le_refl _, hlt, rfl⟩
      · rintro ⟨i, -, -, hk⟩
        split at hk <;> cases hk
        rfl
    · simp only [key?] at hk ⊢
      split at hk <;> cases hk
      subst i
      exact ⟨0, Nat.le_refl _, hi, rfl, Function.update_self ..⟩
    · apply Function.update_of_ne
      rintro rfl
      exact hnone 0 (Nat.le_refl _) (by omega) rfl

theorem deriveKeys_isOk (hlt : start ≤ last) :
    (∃ r, iterator.deriveKeys m start last = .ok r) ↔ iterator.Derives start last := by
  cases iterator with
  | xpub root derivationPath gapLimit pagination =>
    rw [deriveKeys, Derives, bufferedEnd_of_le hlt]
    constructor
    · rintro ⟨r, h⟩ i hi hi'
      obtain ⟨_, hbuffered, h⟩ := bind_eq_ok.mp h
      cases hbuffered
      obtain ⟨all, hmap, -⟩ := bind_eq_ok.mp h
      obtain ⟨key, hkey, -⟩ := (mapM_range'_ok hmap).2 (i - start) (by omega)
      rw [Nat.add_sub_cancel' hi] at hkey
      exact ⟨key, hkey⟩
    · intro h
      have hchild : ∀ j < mapEnd start last - start,
          ∃ key, childKey root derivationPath (start + j) = .ok key :=
        fun j hj => h (start + j) (by omega) (by omega)
      obtain ⟨all, hmap⟩ := mapM_range'_isOk hchild
      exact ⟨_, bind_eq_ok.mpr ⟨_, rfl, bind_eq_ok.mpr ⟨all, hmap, rfl⟩⟩⟩
  | keyVec identifier all =>
    refine iff_of_true ?_ trivial
    rw [deriveKeys, bufferedEnd_of_le hlt]
    split
    · exact ⟨_, rfl⟩
    · exact ⟨_, bind_eq_ok.mpr ⟨_, rfl, rfl⟩⟩
  | singleKey identifier key => exact iff_of_true ⟨_, rfl⟩ trivial

/-- A window that ends before it starts cannot be derived. -/
theorem deriveKeys_of_lt (hstart : start < iterator.maxKeys) (h : last < start) :
    iterator.deriveKeys m start last = .error (.endBeforeStart last start) := by
  cases iterator with
  | xpub root derivationPath gapLimit pagination =>
    rw [deriveKeys, bufferedEnd_of_lt h]
    rfl
  | keyVec identifier all =>
    rw [deriveKeys, if_neg (Nat.not_le.mpr hstart), bufferedEnd_of_lt h]
    rfl
  | singleKey identifier key =>
    have hzero : start = 0 := Nat.lt_one_iff.mp hstart
    omega

/-! ## The map of a scan -/

omit [DecidableEq κ] in
theorem Derived.isSome (hlast : last ≤ u32Max) (h : Derived iterator start last m m' keys) :
    ∀ key ∈ keys, (m' key).isSome := by
  intro key hkey
  obtain ⟨i, hi, hi', hkey⟩ := (h.mem key).mp hkey
  have hend : last ≤ mapEnd start last := le_mapEnd hlast
  obtain ⟨j, -, -, -, hj⟩ := h.greatest key i hi (by omega) hkey
  rw [hj]
  rfl

/-- The map of the keys with an index in `lo .. hi`. -/
def IsMap (iterator : PubkeyIterator κ) (lo hi : Nat) (m : KeyMap κ) : Prop :=
  (∀ key i, m key = some i → lo ≤ i ∧ i < hi ∧ iterator.key? i = some key) ∧
    ∀ key i, lo ≤ i → i < hi → iterator.key? i = some key → ∃ j, i ≤ j ∧ m key = some j

omit [DecidableEq κ] in
theorem isMap_empty (lo : Nat) : IsMap iterator lo lo fun _ => none :=
  ⟨fun _ _ h => (nomatch h), fun _ _ h h' => by omega⟩

omit [DecidableEq κ] in
theorem IsMap.isSome_iff {lo hi : Nat} (h : IsMap iterator lo hi m) {key : κ} :
    (m key).isSome ↔ ∃ i, lo ≤ i ∧ i < hi ∧ iterator.key? i = some key := by
  rw [Option.isSome_iff_exists]
  constructor
  · rintro ⟨i, hi⟩
    exact ⟨i, h.1 key i hi⟩
  · rintro ⟨i, hlo, hhi, hkey⟩
    obtain ⟨j, -, hj⟩ := h.2 key i hlo hhi hkey
    exact ⟨j, hj⟩

omit [DecidableEq κ] in
/-- A window that starts in the range of the map and ends after it extends the range. -/
theorem Derived.isMap {lo hi : Nat} (h : Derived iterator start last m m' keys)
    (hm : IsMap iterator lo hi m) (hlo : lo ≤ start) (hhi : start ≤ hi)
    (hend : hi ≤ mapEnd start last) : IsMap iterator lo (mapEnd start last) m' := by
  constructor
  · intro key i hi'
    by_cases hnone : ∀ i, start ≤ i → i < mapEnd start last → iterator.key? i ≠ some key
    · rw [h.other key hnone] at hi'
      obtain ⟨hloi, hlt, hkey⟩ := hm.1 key i hi'
      exact ⟨hloi, by omega, hkey⟩
    · push Not at hnone
      obtain ⟨i₀, hi₀, hlt₀, hkey₀⟩ := hnone
      obtain ⟨j, hle, hlt, hkey, hj⟩ := h.greatest key i₀ hi₀ hlt₀ hkey₀
      rw [hj] at hi'
      cases hi'
      exact ⟨by omega, hlt, hkey⟩
  · intro key i hloi hlt hkey
    by_cases hnone : ∀ i, start ≤ i → i < mapEnd start last → iterator.key? i ≠ some key
    · have hlt' : i < start := by
        by_contra hge
        exact hnone i (by omega) hlt hkey
      rw [h.other key hnone]
      exact hm.2 key i hloi (by omega) hkey
    · push Not at hnone
      obtain ⟨i₀, hi₀, hlt₀, hkey₀⟩ := hnone
      by_cases hge : start ≤ i
      · obtain ⟨j, hle, -, -, hj⟩ := h.greatest key i hge hlt hkey
        exact ⟨j, hle, hj⟩
      · obtain ⟨j, hle, -, -, hj⟩ := h.greatest key i₀ hi₀ hlt₀ hkey₀
        exact ⟨j, by omega, hj⟩

end Derive

end PubkeyIterator

end Boltz

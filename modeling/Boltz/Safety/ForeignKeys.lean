import Boltz.Safety.RescueScans

/-!
# Chain swaps with a foreign refund key

A rescue finds a chain swap by the key of either side and asks for the index of the receiving one.
When only the sending key is the client's, the look-up of the other fails, and one failed look-up
fails the scan: the swaps found before are lost with it.
-/

namespace Boltz.SwapRescue

variable {κ δ : Type} [DecidableEq κ]

/-! ## The swap that is added -/

/-- The database with one more chain swap, somewhere among the others. -/
structure AddsChainSwap (db : Database κ δ) (s : ChainSwapInfo κ δ) (db' : Database κ δ) : Prop where
  swaps : db'.swaps = db.swaps
  reverseSwaps : db'.reverseSwaps = db.reverseSwaps
  chainSwaps : ∃ before later, db.chainSwaps = before ++ later ∧
    db'.chainSwaps = before ++ s :: later

/-- The start of the window of an index. -/
def windowOf (gap i : Nat) : Nat := i / gap * gap

/-- The end of the keys that are derived when the window of an index is scanned. -/
def derivedEnd (gap i : Nat) : Nat := min (windowOf gap i + 2 * gap) u32Max

/-- The sending key of the chain swap is first at index `i` of the iterator. The receiving key is
none of the keys derived by the time its window is scanned. -/
structure ForeignRefundKey (iterator : PubkeyIterator κ) (s : ChainSwapInfo κ δ) (i : Nat) :
    Prop where
  inRange : i < iterator.maxKeys
  sending : ∃ key, s.sending.theirPublicKey = some key ∧ iterator.key? i = some key ∧
    ∀ j < i, iterator.key? j ≠ some key
  receiving : ∃ key, s.receiving.theirPublicKey = some key ∧
    ∀ j < derivedEnd iterator.gapLimit i, iterator.key? j ≠ some key

/-- A rescue scans the window of the index: there is a swap in every window before it. -/
def ReachesWindow (db : Database κ δ) (iterator : PubkeyIterator κ) (i : Nat) : Prop :=
  0 < iterator.gapLimit ∧ ∀ n, (n + 1) * iterator.gapLimit ≤ i →
    ∃ j, n * iterator.gapLimit ≤ j ∧ j < (n + 1) * iterator.gapLimit ∧
      Used db iterator [.submarine, .chain] j

/-- The scan still succeeds and returns what it returned before. -/
def StillReturns (swaps : List (RescuableSwap δ)) (scan : Except ScanError (List (RescuableSwap δ))) :
    Prop :=
  ∃ swaps', scan = .ok swaps' ∧ swaps ⊆ swaps'

/-! ## Windows with and without the swap -/

section windows

variable {db db' : Database κ δ} {s : ChainSwapInfo κ δ} {iterator : PubkeyIterator κ}
  {keys : List κ} {swapTypes : List SwapType} {i start last : Nat} {m m' : KeyMap κ}

/-- A window without a key of the swap finds the same rows. -/
theorem AddsChainSwap.query_eq (hadd : AddsChainSwap db s db')
    (hkeys : ∀ key ∈ keys, ¬s.HasKey key) : db'.query swapTypes keys = db.query swapTypes keys := by
  obtain ⟨before, later, hdb, hdb'⟩ := hadd.chainSwaps
  have hs : ¬(s.sending.theirPublicKey.any (keys.contains ·) ||
      s.receiving.theirPublicKey.any (keys.contains ·)) = true := by
    rw [Bool.or_eq_true, any_contains, any_contains]
    rintro (⟨key, hkey, hsending⟩ | ⟨key, hkey, hreceiving⟩)
    · exact hkeys key hkey (.inl hsending)
    · exact hkeys key hkey (.inr hreceiving)
  have hchain : db'.getChainSwaps keys = db.getChainSwaps keys := by
    unfold Database.getChainSwaps
    rw [hdb, hdb', List.filter_append, List.filter_append]
    exact congrArg (before.filter _ ++ ·) (List.filter_cons_of_neg (a := s) hs)
  simp only [Database.query, Database.getSwaps, Database.getReverseSwaps, hadd.swaps,
    hadd.reverseSwaps, hchain]

omit [DecidableEq κ] in
theorem AddsChainSwap.mem (hadd : AddsChainSwap db s db') : s ∈ db'.chainSwaps := by
  obtain ⟨before, later, -, hdb'⟩ := hadd.chainSwaps
  rw [hdb']
  exact List.mem_append_right _ List.mem_cons_self

/-- A window that finds the swap without its receiving key in the map fails. -/
theorem process_fails (hadd : AddsChainSwap db s db') {key receiving : κ}
    (hsending : s.sending.theirPublicKey = some key) (hkey : key ∈ keys)
    (hreceiving : s.receiving.theirPublicKey = some receiving) (hforeign : m receiving = none)
    {swaps : List (RescuableSwap δ)} :
    processRescuableSwaps m (db'.query [.submarine, .chain] keys) ≠ .ok swaps := by
  intro h
  obtain ⟨_, -, h⟩ := bind_eq_ok.mp h
  obtain ⟨chain, hchain, -⟩ := bind_eq_ok.mp h
  have hmem : s ∈ (db'.query [.submarine, .chain] keys).chainSwaps.filter
      (·.receiving.theirPublicKey.isSome) := by
    rw [List.mem_filter, mem_query_chainSwaps (by simp), hreceiving]
    exact ⟨⟨hadd.mem, key, hkey, .inl hsending⟩, rfl⟩
  obtain ⟨r, hr⟩ := isOk_mapM.mp ⟨chain, hchain⟩ s hmem
  obtain ⟨index, hindex, -⟩ := bind_eq_ok.mp hr
  rw [hreceiving, lookupFromKeys, hforeign] at hindex
  cases hindex

omit [DecidableEq κ] in
theorem le_windowOf {gap n : Nat} (hlt : n * gap < windowOf gap i) :
    (n + 1) * gap ≤ windowOf gap i := by
  have hn : n < i / gap := Nat.lt_of_mul_lt_mul_right hlt
  exact Nat.mul_le_mul_right gap hn

omit [DecidableEq κ] in
theorem windowOf_le (gap i : Nat) : windowOf gap i ≤ i := Nat.div_mul_le_self i gap

omit [DecidableEq κ] in
/-- The keys that a window up to that of the index puts in the map. -/
theorem mapEnd_le_derivedEnd {gap scanEnd : Nat} (hstart : start ≤ windowOf gap i) :
    PubkeyIterator.mapEnd start (windowEnd gap scanEnd start) ≤ derivedEnd gap i := by
  unfold PubkeyIterator.mapEnd windowEnd derivedEnd
  omega

omit [DecidableEq κ] in
/-- A foreign key is in the map of no window up to that of the index. -/
theorem foreign_notMem {gap scanEnd : Nat} {receiving : κ}
    (hkeys : iterator.Derived start (windowEnd gap scanEnd start) m m' keys)
    (hstart : start ≤ windowOf gap i)
    (hforeign : ∀ j < derivedEnd gap i, iterator.key? j ≠ some receiving)
    (hm : m receiving = none) : m' receiving = none := by
  rw [← hm]
  refine hkeys.other receiving fun j _ hj => hforeign j ?_
  exact Nat.lt_of_lt_of_le hj (mapEnd_le_derivedEnd hstart)

end windows

/-! ## The scan -/

section scan

variable {db db' : Database κ δ} {s : ChainSwapInfo κ δ} {iterator : PubkeyIterator κ} {i : Nat}
  {swaps : List (RescuableSwap δ)}

/-- The loop of a rescue. -/
def rescueWindows (db : Database κ δ) (iterator : PubkeyIterator κ) :
    Nat → Nat → KeyMap κ → List (RescuableSwap δ) → Except ScanError (List (RescuableSwap δ)) :=
  scanWindows RescuableSwap.id db iterator [.submarine, .chain] processRescuableSwaps
    iterator.gapLimit iterator.maxKeys false

/-- One window of the loop, with the keys it derives. -/
theorem rescueWindows_succ (db : Database κ δ) {fuel start : Nat} {m m' : KeyMap κ} {keys : List κ}
    {result : List (RescuableSwap δ)} (hlt : start < iterator.maxKeys)
    (hderive : iterator.deriveKeys m start
      (min ((start + iterator.gapLimit) % 2 ^ 32) iterator.maxKeys) = .ok (m', keys)) :
    rescueWindows db iterator (fuel + 1) start m result =
      if (db.query [.submarine, .chain] keys).isEmpty then .ok result
      else (do
        let found ← processRescuableSwaps m' (db.query [.submarine, .chain] keys)
        let result := insertAll RescuableSwap.id result found
        if iterator.maxKeys ≤ min ((start + iterator.gapLimit) % 2 ^ 32) iterator.maxKeys then
          .ok result
        else rescueWindows db iterator fuel (start + iterator.gapLimit) m' result) := by
  unfold rescueWindows
  rw [scanWindows, if_pos hlt]
  dsimp only
  rw [hderive]
  rfl

theorem derives_of_ok {fuel start : Nat} {m : KeyMap κ} {result : List (RescuableSwap δ)}
    (hlt : start < iterator.maxKeys)
    (hok : rescueWindows db iterator (fuel + 1) start m result = .ok swaps) :
    ∃ m' keys, iterator.deriveKeys m start
      (min ((start + iterator.gapLimit) % 2 ^ 32) iterator.maxKeys) = .ok (m', keys) := by
  unfold rescueWindows scanWindows at hok
  rw [if_pos hlt] at hok
  obtain ⟨⟨m', keys⟩, hderive, -⟩ := bind_eq_ok.mp hok
  exact ⟨m', keys, hderive⟩

/-- The indices of a window. -/
def InWindow (gap n j : Nat) : Prop := n * gap ≤ j ∧ j < (n + 1) * gap

omit [DecidableEq κ] in
theorem used_window_iff {m m' : KeyMap κ} {keys : List κ} {n : Nat}
    (hkeys : iterator.Derived (n * iterator.gapLimit)
      (windowEnd iterator.gapLimit iterator.maxKeys (n * iterator.gapLimit)) m m' keys) :
    (∃ j, InWindow iterator.gapLimit n j ∧ Used db iterator [.submarine, .chain] j) ↔
      ∃ key ∈ keys, db.Uses [.submarine, .chain] key := by
  have hnext : (n + 1) * iterator.gapLimit = n * iterator.gapLimit + iterator.gapLimit :=
    Nat.succ_mul _ _
  unfold windowEnd at hkeys
  constructor
  · rintro ⟨j, ⟨hlo, hhi⟩, hj, key, hkey, huses⟩
    exact ⟨key, (hkeys.mem key).mpr ⟨j, hlo, by omega, hkey⟩, huses⟩
  · rintro ⟨key, hmem, huses⟩
    obtain ⟨j, hlo, hhi, hkey⟩ := (hkeys.mem key).mp hmem
    exact ⟨j, ⟨hlo, by omega⟩, by omega, key, hkey, huses⟩

/-- The window of the index fails when the swap is there. -/
theorem window_of_index_fails (hadd : AddsChainSwap db s db') (hgap : 0 < iterator.gapLimit)
    (hforeign : ForeignRefundKey iterator s i) {fuel : Nat} {m : KeyMap κ}
    {result swaps' : List (RescuableSwap δ)}
    (hm : ∀ key, s.receiving.theirPublicKey = some key → m key = none) :
    rescueWindows db' iterator (fuel + 1) (windowOf iterator.gapLimit i) m result ≠ .ok swaps' := by
  obtain ⟨key, hsending, hkey, -⟩ := hforeign.sending
  obtain ⟨receiving, hreceiving, hnone⟩ := hforeign.receiving
  have hi := hforeign.inRange
  have hle := windowOf_le iterator.gapLimit i
  have hlt' : i < windowOf iterator.gapLimit i + iterator.gapLimit :=
    Nat.lt_div_mul_add hgap
  intro hok
  have hlt : windowOf iterator.gapLimit i < iterator.maxKeys := by omega
  obtain ⟨m', keys, hderive⟩ := derives_of_ok hlt hok
  obtain ⟨-, -, hkeys⟩ := window_derived hgap (gapLimit_le_u32Max iterator) (Nat.le_refl _) hlt
    hderive
  have hmem : key ∈ keys := by
    refine (hkeys.mem key).mpr ⟨i, hle, ?_, hkey⟩
    unfold windowEnd
    omega
  have hfound : ¬(db'.query [.submarine, .chain] keys).isEmpty = true := fun hempty =>
    isEmpty_query.mp hempty key hmem (.inr (.inl ⟨by simp, s, hadd.mem, .inl hsending⟩))
  rw [rescueWindows_succ db' hlt hderive, if_neg hfound] at hok
  obtain ⟨_, hprocess, -⟩ := bind_eq_ok.mp hok
  exact process_fails hadd hsending hmem hreceiving
    (foreign_notMem hkeys (Nat.le_refl _) hnone (hm receiving hreceiving)) hprocess

/-- A window before that of the index finds the same rows with the swap: without any, both scans
end; with some, both go on. -/
theorem window_before (hadd : AddsChainSwap db s db') (hgap : 0 < iterator.gapLimit)
    (hforeign : ForeignRefundKey iterator s i) {fuel n : Nat} {m : KeyMap κ}
    {result : List (RescuableSwap δ)} (hstart : n * iterator.gapLimit < windowOf iterator.gapLimit i)
    (hm : ∀ key, s.receiving.theirPublicKey = some key → m key = none)
    (hok : rescueWindows db iterator (fuel + 1) (n * iterator.gapLimit) m result = .ok swaps) :
    ((¬∃ j, InWindow iterator.gapLimit n j ∧ Used db iterator [.submarine, .chain] j) ∧
      rescueWindows db' iterator (fuel + 1) (n * iterator.gapLimit) m result = .ok swaps) ∨
    (∃ j, InWindow iterator.gapLimit n j ∧ Used db iterator [.submarine, .chain] j) ∧
      ∃ m' result', (∀ key, s.receiving.theirPublicKey = some key → m' key = none) ∧
        rescueWindows db iterator fuel ((n + 1) * iterator.gapLimit) m' result' = .ok swaps ∧
        rescueWindows db' iterator (fuel + 1) (n * iterator.gapLimit) m result =
          rescueWindows db' iterator fuel ((n + 1) * iterator.gapLimit) m' result' := by
  obtain ⟨key, hsending, hkey, hleast⟩ := hforeign.sending
  obtain ⟨receiving, hreceiving, hnone⟩ := hforeign.receiving
  have hi := hforeign.inRange
  have hle := windowOf_le iterator.gapLimit i
  have hnext : (n + 1) * iterator.gapLimit = n * iterator.gapLimit + iterator.gapLimit :=
    Nat.succ_mul _ _
  have hwindow : (n + 1) * iterator.gapLimit ≤ windowOf iterator.gapLimit i := le_windowOf hstart
  have hlt : n * iterator.gapLimit < iterator.maxKeys := by omega
  obtain ⟨m', keys, hderive⟩ := derives_of_ok hlt hok
  obtain ⟨hfits, -, hkeys⟩ := window_derived hgap (gapLimit_le_u32Max iterator) (Nat.le_refl _)
    hlt hderive
  have hquery : db'.query [.submarine, .chain] keys = db.query [.submarine, .chain] keys := by
    refine hadd.query_eq fun k hmem hhas => ?_
    obtain ⟨j, -, hj, hkey'⟩ := (hkeys.mem k).mp hmem
    have hji : j < i := by
      unfold windowEnd at hj
      omega
    rcases hhas with h | h
    · obtain rfl : key = k := Option.some.inj (hsending.symm.trans h)
      exact hleast j hji hkey'
    · obtain rfl : receiving = k := Option.some.inj (hreceiving.symm.trans h)
      refine hnone j ?_ hkey'
      have hmax := iterator.maxKeys_le_u32Max
      unfold derivedEnd
      unfold windowEnd at hj
      omega
  have hmore : ¬iterator.maxKeys ≤
      min ((n * iterator.gapLimit + iterator.gapLimit) % 2 ^ 32) iterator.maxKeys := by
    rw [Nat.mod_eq_of_lt hfits]
    omega
  rw [used_window_iff hkeys]
  rw [rescueWindows_succ db hlt hderive] at hok
  rw [rescueWindows_succ db' hlt hderive, hquery, hnext]
  by_cases hempty : (db.query [.submarine, .chain] keys).isEmpty = true
  · rw [if_pos hempty] at hok ⊢
    refine .inl ⟨?_, hok⟩
    rintro ⟨k, hmem, huses⟩
    exact isEmpty_query.mp hempty k hmem huses
  · rw [if_neg hempty] at hok ⊢
    obtain ⟨found, hprocess, hok⟩ := bind_eq_ok.mp hok
    dsimp only at hok
    rw [if_neg hmore] at hok
    have hsame : (do
        let found ← processRescuableSwaps m' (db.query [.submarine, .chain] keys)
        let result := insertAll RescuableSwap.id result found
        if iterator.maxKeys ≤
            min ((n * iterator.gapLimit + iterator.gapLimit) % 2 ^ 32) iterator.maxKeys then
          .ok result
        else rescueWindows db' iterator fuel (n * iterator.gapLimit + iterator.gapLimit) m' result) =
        rescueWindows db' iterator fuel (n * iterator.gapLimit + iterator.gapLimit) m'
          (insertAll RescuableSwap.id result found) := by
      rw [hprocess]
      exact if_neg hmore
    refine .inr ⟨?_, m', _, fun k hk => ?_, hok, hsame⟩
    · by_contra hnone'
      exact hempty (isEmpty_query.mpr fun k hmem huses => hnone' ⟨k, hmem, huses⟩)
    · obtain rfl : receiving = k := Option.some.inj (hreceiving.symm.trans hk)
      exact foreign_notMem hkeys hstart.le hnone (hm _ hk)

/-- From a window on that is not after that of the index: the scan with the swap fails when there
are swaps in every window in between, and is the same scan otherwise. -/
theorem rescueWindows_added (hadd : AddsChainSwap db s db') (hgap : 0 < iterator.gapLimit)
    (hforeign : ForeignRefundKey iterator s i) {fuel n : Nat} {m : KeyMap κ}
    {result : List (RescuableSwap δ)} (hstart : n * iterator.gapLimit ≤ windowOf iterator.gapLimit i)
    (hfuel : iterator.maxKeys ≤ n * iterator.gapLimit + fuel)
    (hm : ∀ key, s.receiving.theirPublicKey = some key → m key = none)
    (hok : rescueWindows db iterator fuel (n * iterator.gapLimit) m result = .ok swaps) :
    ((∀ n', n ≤ n' → (n' + 1) * iterator.gapLimit ≤ i →
        ∃ j, InWindow iterator.gapLimit n' j ∧ Used db iterator [.submarine, .chain] j) ∧
      ∀ swaps', rescueWindows db' iterator fuel (n * iterator.gapLimit) m result ≠ .ok swaps') ∨
    (∃ n', n ≤ n' ∧ (n' + 1) * iterator.gapLimit ≤ i ∧
        ¬∃ j, InWindow iterator.gapLimit n' j ∧ Used db iterator [.submarine, .chain] j) ∧
      rescueWindows db' iterator fuel (n * iterator.gapLimit) m result = .ok swaps := by
  have hi := hforeign.inRange
  have hle := windowOf_le iterator.gapLimit i
  induction fuel generalizing n m result with
  | zero => omega
  | succ fuel ih =>
    rcases Nat.eq_or_lt_of_le hstart with heq | hlt
    · refine .inl ⟨fun n' hn hn' => ?_, fun swaps' => ?_⟩
      · have hover : (n + 1) * iterator.gapLimit ≤ (n' + 1) * iterator.gapLimit :=
          Nat.mul_le_mul_right _ (Nat.succ_le_succ hn)
        have hlast : i < windowOf iterator.gapLimit i + iterator.gapLimit := Nat.lt_div_mul_add hgap
        have hnext : (n + 1) * iterator.gapLimit = n * iterator.gapLimit + iterator.gapLimit :=
          Nat.succ_mul _ _
        omega
      · rw [heq]
        exact window_of_index_fails hadd hgap hforeign hm
    · have hwindow := le_windowOf hlt
      have hnext : (n + 1) * iterator.gapLimit = n * iterator.gapLimit + iterator.gapLimit :=
        Nat.succ_mul _ _
      rcases window_before hadd hgap hforeign hlt hm hok with
        ⟨hnone, hsame⟩ | ⟨hused, m', result', hm', hok', hsame⟩
      · exact .inr ⟨⟨n, Nat.le_refl n, by omega, hnone⟩, hsame⟩
      · rw [hsame]
        rcases ih hwindow (by omega) hm' hok' with ⟨hall, hfails⟩ | ⟨⟨n', hn, hn', hnone⟩, hsame'⟩
        · refine .inl ⟨fun n' hn hn' => ?_, hfails⟩
          rcases Nat.eq_or_lt_of_le hn with rfl | hlt'
          · exact hused
          · exact hall n' hlt' hn'
        · exact .inr ⟨⟨n', by omega, hn', hnone⟩, hsame'⟩

/-- Adding a chain swap of which only the sending key is the client's leaves a rescue alone exactly
when the rescue never comes to the window of that key. -/
theorem foreign_key_hides_iff (hadd : AddsChainSwap db s db')
    (hforeign : ForeignRefundKey iterator s i) (hok : rescueScan db iterator = .ok swaps) :
    StillReturns swaps (rescueScan db' iterator) ↔ ¬ReachesWindow db iterator i := by
  by_cases hgap : iterator.gapLimit = 0
  · have hempty : ∀ db : Database κ δ, rescueScan db iterator = .ok [] := fun db => by
      unfold rescueScan scanSwapsPaginated
      rw [if_pos (by rw [scanGap_eq, hgap])]
    rw [hempty db] at hok
    obtain rfl := (Except.ok.inj hok).symm
    rw [hempty db']
    exact iff_of_true ⟨[], rfl, List.Subset.refl _⟩ fun h => absurd h.1 (by omega)
  · have hscan : ∀ db : Database κ δ, rescueScan db iterator =
        rescueWindows db iterator iterator.maxKeys (0 * iterator.gapLimit) (fun _ => none) [] :=
      fun db => by
        unfold rescueScan scanSwapsPaginated rescueWindows
        rw [if_neg (by rwa [scanGap_eq]), scanGap_eq, Nat.zero_mul]
        rfl
    rw [hscan] at hok ⊢
    rcases rescueWindows_added hadd (Nat.pos_of_ne_zero hgap) hforeign (n := 0)
      (by rw [Nat.zero_mul]; exact Nat.zero_le _) (by omega) (fun _ _ => rfl) hok with
      ⟨hall, hfails⟩ | ⟨⟨n, -, hn, hnone⟩, hsame⟩
    · refine iff_of_false ?_ (not_not.mpr ⟨Nat.pos_of_ne_zero hgap, fun n hn => ?_⟩)
      · rintro ⟨swaps', hok', -⟩
        exact hfails swaps' hok'
      · obtain ⟨j, ⟨hlo, hhi⟩, hused⟩ := hall n (Nat.zero_le n) hn
        exact ⟨j, hlo, hhi, hused⟩
    · refine iff_of_true ⟨swaps, hsame, List.Subset.refl _⟩ fun hreaches => hnone ?_
      obtain ⟨j, hlo, hhi, hused⟩ := hreaches.2 n hn
      exact ⟨j, ⟨hlo, hhi⟩, hused⟩

/-! ## A client with one key -/

def ownKey : PubkeyIterator Nat := .singleKey 0 7

/-- A chain swap that the client of the key 7 claims and somebody else refunds. -/
def foreignRefund : ChainSwapInfo Nat Nat where
  id := 2
  sending := { theirPublicKey := some 7, claimAddress := none, details := .ok 0, evm := nofun }
  receiving := { theirPublicKey := some 8, claimAddress := none, details := .ok 0, evm := nofun }

def oneSwap : Database Nat Nat where
  swaps := [{ id := 1, version := 1, refundPublicKey := some 7, details := .ok 5 }]

def oneSwapAndForeign : Database Nat Nat := { oneSwap with chainSwaps := [foreignRefund] }

theorem adds_foreignRefund : AddsChainSwap oneSwap foreignRefund oneSwapAndForeign :=
  ⟨rfl, rfl, [], [], rfl, rfl⟩

theorem foreignRefund_foreign : ForeignRefundKey ownKey foreignRefund 0 where
  inRange := by decide
  sending := ⟨7, rfl, rfl, fun j hj => absurd hj (Nat.not_lt_zero j)⟩
  receiving := by
    refine ⟨8, rfl, fun j _ => ?_⟩
    change (if j = 0 then some 7 else none) ≠ some 8
    split <;> simp

theorem rescue_oneSwap : rescueScan oneSwap ownKey = .ok [{ id := 1, keyIndex := 0, details := 5 }] :=
  rfl

/-- The chain swap makes the rescue of the submarine swap fail. -/
theorem rescue_hidden :
    rescueScan oneSwap ownKey = .ok [{ id := 1, keyIndex := 0, details := 5 }] ∧
      ForeignRefundKey ownKey foreignRefund 0 ∧
      AddsChainSwap oneSwap foreignRefund oneSwapAndForeign ∧
      rescueScan oneSwapAndForeign ownKey = .error (.noKeyMapping 2) ∧
      ¬StillReturns [{ id := 1, keyIndex := 0, details := 5 }]
        (rescueScan oneSwapAndForeign ownKey) := by
  have hfails : rescueScan oneSwapAndForeign ownKey = .error (.noKeyMapping 2) := rfl
  refine ⟨rfl, foreignRefund_foreign, adds_foreignRefund, hfails, ?_⟩
  rintro ⟨swaps', hok, -⟩
  rw [hfails] at hok
  cases hok

theorem foreign_key_hides_oneSwap :
    StillReturns [{ id := 1, keyIndex := 0, details := 5 }] (rescueScan oneSwapAndForeign ownKey) ↔
      ¬ReachesWindow oneSwap ownKey 0 :=
  foreign_key_hides_iff adds_foreignRefund foreignRefund_foreign rescue_oneSwap

end scan

end Boltz.SwapRescue

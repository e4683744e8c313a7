import Boltz.Safety.RescueScans

/-!
# The arithmetic of a scan

The end of a page is checked and the buffer of a window saturates, but the end of a window and the
index after the cached one are plain additions. `tracedWindows` is the loop with the windows it asks
the iterator for, and the windows of a run tile the range that is scanned.
-/

namespace Boltz.SwapRescue

/-! ## Consecutive windows -/

/-- The range that `derive_keys` is called with. -/
structure WindowCall where
  start : Nat
  last : Nat
  deriving DecidableEq, Repr

/-- How often an index is in one of the windows. -/
def visits (calls : List WindowCall) (j : Nat) : Nat :=
  calls.countP fun w => decide (w.start ≤ j) && decide (j < w.last)

/-- Consecutive windows from `lo` to `hi`. -/
def Tiles : Nat → List WindowCall → Nat → Prop
  | lo, [], hi => lo = hi
  | lo, w :: ws, hi => w.start = lo ∧ w.start ≤ w.last ∧ Tiles w.last ws hi

section tiles

variable {lo hi : Nat} {calls : List WindowCall}

theorem Tiles.le (h : Tiles lo calls hi) : lo ≤ hi := by
  induction calls generalizing lo with
  | nil => exact Nat.le_of_eq h
  | cons w ws ih =>
    obtain ⟨rfl, hle, hrest⟩ := h
    exact Nat.le_trans hle (ih hrest)

/-- Every index between the ends is in exactly one of the windows, and no other index is. -/
theorem Tiles.visits_eq (h : Tiles lo calls hi) (j : Nat) :
    visits calls j = if lo ≤ j ∧ j < hi then 1 else 0 := by
  induction calls generalizing lo with
  | nil =>
    obtain rfl : lo = hi := h
    rw [if_neg (by omega)]
    rfl
  | cons w ws ih =>
    obtain ⟨rfl, hle, hrest⟩ := h
    have hhi := hrest.le
    have hcons : visits (w :: ws) j =
        visits ws j + if w.start ≤ j ∧ j < w.last then 1 else 0 := by
      unfold visits
      rw [List.countP_cons]
      simp
    rw [hcons, ih hrest]
    split <;> split <;> split <;> omega

end tiles

/-! ## The loop with its calls -/

inductive LoopEnd where
  | exhausted | broke | failed
  deriving DecidableEq, Repr

/-- The windows a loop asked for, how it ended and what it returned. -/
structure LoopRun (R : Type) where
  calls : List WindowCall
  ended : LoopEnd
  result : Except ScanError (List R)

variable {κ δ : Type} [DecidableEq κ]

section traced

variable {R : Type} (swapId : R → Nat) (db : Database κ δ) (iterator : PubkeyIterator κ)
  (swapTypes : List SwapType) (process : KeyMap κ → Rows κ δ → Except ScanError (List R))

/-- `scanWindows` with the windows it derives. -/
def tracedWindows (gapLimit scanEnd : Nat) (paginated : Bool) :
    Nat → Nat → KeyMap κ → List R → LoopRun R
  | 0, _, _, result => ⟨[], .exhausted, .ok result⟩
  | fuel + 1, start, keysMap, result =>
    if start < scanEnd then
      let last := min ((start + gapLimit) % 2 ^ 32) scanEnd
      let rest : LoopRun R :=
        match iterator.deriveKeys keysMap start last with
        | .error e => ⟨[], .failed, .error e⟩
        | .ok (keysMap, keys) =>
          let rows := db.query swapTypes keys
          if !paginated && rows.isEmpty then ⟨[], .broke, .ok result⟩
          else
            match process keysMap rows with
            | .error e => ⟨[], .failed, .error e⟩
            | .ok swaps =>
              let result := insertAll swapId result swaps
              if iterator.maxKeys ≤ last then ⟨[], .broke, .ok result⟩
              else tracedWindows gapLimit scanEnd paginated fuel (start + gapLimit) keysMap result
      { rest with calls := ⟨start, last⟩ :: rest.calls }
    else ⟨[], .exhausted, .ok result⟩

/-- `scanSwapsPaginated` with the windows it derives. -/
def tracedScan (startIndex : Option Nat) (pagination : Option Pagination) : LoopRun R :=
  if scanGap iterator = 0 then ⟨[], .broke, .ok []⟩
  else
    match scanRange iterator startIndex pagination with
    | .error e => ⟨[], .failed, .error e⟩
    | .ok (scanStart, scanEnd) =>
      tracedWindows swapId db iterator swapTypes process (scanGap iterator) scanEnd
        pagination.isSome (scanEnd - scanStart) scanStart (fun _ => none) []

theorem tracedWindows_result (gapLimit scanEnd : Nat) (paginated : Bool) (fuel start : Nat)
    (m : KeyMap κ) (result : List R) :
    (tracedWindows swapId db iterator swapTypes process gapLimit scanEnd paginated fuel start m
      result).result =
    scanWindows swapId db iterator swapTypes process gapLimit scanEnd paginated fuel start m
      result := by
  induction fuel generalizing start m result with
  | zero => rfl
  | succ fuel ih =>
    rw [tracedWindows, scanWindows]
    split
    · dsimp only
      cases hderive : iterator.deriveKeys m start (min ((start + gapLimit) % 2 ^ 32) scanEnd) with
      | error e => rfl
      | ok derived =>
        obtain ⟨m', keys⟩ := derived
        change _ = ite _ _ _
        dsimp only
        split
        · rfl
        · cases hprocess : process m' (db.query swapTypes keys) with
          | error e => rfl
          | ok swaps =>
            change _ = ite _ _ _
            dsimp only
            split
            · rfl
            · exact ih _ _ _
    · rfl

/-- The traced scan returns what the scan returns. -/
theorem tracedScan_result (startIndex : Option Nat) (pagination : Option Pagination) :
    (tracedScan swapId db iterator swapTypes process startIndex pagination).result =
      scanSwapsPaginated swapId db iterator swapTypes process startIndex pagination := by
  unfold tracedScan scanSwapsPaginated
  split
  · rfl
  · cases scanRange iterator startIndex pagination with
    | error e => rfl
    | ok range => exact tracedWindows_result ..

end traced

/-! ## Ranges -/

def maxGapLimit : Nat := 150

/-- All additions of a scan and of its calls of `derive_keys` fit in 32 bits, no call starts after
its end, and the calls visit every index of the range exactly once, up to where the loop ended. -/
structure ArithmeticInRange {R : Type} (cached : Option Nat) (gapLimit scanStart scanEnd : Nat)
    (run : LoopRun R) : Prop where
  indexBump : ∀ i, cached = some i → i + 1 ≤ u32Max
  windowEnd : ∀ w ∈ run.calls, w.start + gapLimit ≤ u32Max
  ordered : ∀ w ∈ run.calls, w.start ≤ w.last
  bufferEnd : ∀ w ∈ run.calls, ∃ last, bufferedEnd w.start w.last = .ok last ∧ last ≤ u32Max
  once : ∃ hi, (run.ended = .exhausted → scanEnd ≤ hi) ∧
    ∀ j, visits run.calls j = if scanStart ≤ j ∧ j < hi then 1 else 0

section ranges

variable {R : Type} {swapId : R → Nat} {db : Database κ δ} {iterator : PubkeyIterator κ}
  {swapTypes : List SwapType} {process : KeyMap κ → Rows κ δ → Except ScanError (List R)}
  {scanEnd : Nat} {paginated : Bool} {start fuel : Nat} {m m' : KeyMap κ} {keys : List κ}
  {result : List R}

/-- A window that is not the last one was derived, so its keys have normal child numbers, or the
iterator has more keys than its gap limit. -/
theorem next_window_fits (hgap : 0 < iterator.gapLimit) (hmax : iterator.gapLimit ≤ maxGapLimit)
    (hderive : iterator.deriveKeys m start (start + iterator.gapLimit) = .ok (m', keys))
    (hmore : start + iterator.gapLimit < iterator.maxKeys) :
    start + iterator.gapLimit + iterator.gapLimit ≤ u32Max := by
  have hlast : start + iterator.gapLimit ≤ u32Max :=
    Nat.le_trans hmore.le iterator.maxKeys_le_u32Max
  cases iterator with
  | xpub root derivationPath gapLimit pagination =>
    have hderives := (PubkeyIterator.deriveKeys_isOk (Nat.le_add_right _ _)).mp ⟨_, hderive⟩
    have hend := @PubkeyIterator.le_mapEnd start _ hlast
    obtain ⟨key, hkey⟩ := hderives start (Nat.le_refl _) (by omega)
    have hchild := lt_of_childKey hkey
    have hgapLimit : (PubkeyIterator.xpub root derivationPath gapLimit pagination).gapLimit ≤ 150 :=
      hmax
    have hu32 : u32Max = 2 ^ 32 - 1 := rfl
    omega
  | keyVec identifier keys =>
    exact absurd hmore (Nat.not_lt.mpr (Nat.le_add_left _ _))
  | singleKey identifier key =>
    exact absurd hmore (Nat.not_lt.mpr (Nat.le_add_left _ _))

variable (swapId db iterator swapTypes process paginated fuel m result) in
/-- One window of the traced loop: it is the last one, or its keys were derived, there are more
keys and the loop goes on. -/
theorem tracedWindows_succ {gap : Nat} (hlt : start < scanEnd) (hfits : start + gap ≤ u32Max) :
    ∃ rest : LoopRun R, (tracedWindows swapId db iterator swapTypes process gap scanEnd paginated
        (fuel + 1) start m result).calls = ⟨start, min (start + gap) scanEnd⟩ :: rest.calls ∧
      (tracedWindows swapId db iterator swapTypes process gap scanEnd paginated (fuel + 1) start m
        result).ended = rest.ended ∧
      ((rest.calls = [] ∧ rest.ended ≠ .exhausted) ∨
        ∃ m' keys result',
          iterator.deriveKeys m start (min (start + gap) scanEnd) = .ok (m', keys) ∧
          min (start + gap) scanEnd < iterator.maxKeys ∧
          rest = tracedWindows swapId db iterator swapTypes process gap scanEnd paginated fuel
            (start + gap) m' result') := by
  have hmod : (start + gap) % 2 ^ 32 = start + gap :=
    Nat.mod_eq_of_lt (Nat.lt_of_le_of_lt hfits (by decide))
  rw [tracedWindows, if_pos hlt, hmod]
  refine ⟨_, rfl, rfl, ?_⟩
  cases hderive : iterator.deriveKeys m start (min (start + gap) scanEnd) with
  | error e => exact .inl ⟨rfl, LoopEnd.noConfusion⟩
  | ok derived =>
    obtain ⟨m', keys⟩ := derived
    dsimp only
    split
    · exact .inl ⟨rfl, LoopEnd.noConfusion⟩
    · cases process m' (db.query swapTypes keys) with
      | error e => exact .inl ⟨rfl, LoopEnd.noConfusion⟩
      | ok swaps =>
        dsimp only
        split
        · exact .inl ⟨rfl, LoopEnd.noConfusion⟩
        · rename_i hmore
          exact .inr ⟨m', keys, _, rfl, Nat.lt_of_not_le hmore, rfl⟩

variable (swapId db swapTypes process paginated m result) in
/-- The windows of a loop whose first window fits tile the scanned range and fit themselves. -/
theorem tracedWindows_tiles (hgap : 0 < iterator.gapLimit) (hmax : iterator.gapLimit ≤ maxGapLimit)
    (hfuel : scanEnd ≤ start + fuel) (hfits : start < scanEnd → start + iterator.gapLimit ≤ u32Max) :
    ∃ hi, Tiles start (tracedWindows swapId db iterator swapTypes process iterator.gapLimit scanEnd
        paginated fuel start m result).calls hi ∧
      (∀ w ∈ (tracedWindows swapId db iterator swapTypes process iterator.gapLimit scanEnd
        paginated fuel start m result).calls, w.start + iterator.gapLimit ≤ u32Max ∧
          w.start ≤ w.last ∧ w.last ≤ u32Max) ∧
      ((tracedWindows swapId db iterator swapTypes process iterator.gapLimit scanEnd paginated fuel
        start m result).ended = .exhausted → scanEnd ≤ hi) := by
  induction fuel generalizing start m result with
  | zero => exact ⟨start, rfl, fun w hw => absurd hw List.not_mem_nil, fun _ => hfuel⟩
  | succ fuel ih =>
    by_cases hlt : start < scanEnd
    · have hfirst := hfits hlt
      obtain ⟨rest, hcalls, hended, hrest⟩ := tracedWindows_succ swapId db iterator swapTypes
        process paginated fuel m result hlt hfirst
      have hle : start ≤ min (start + iterator.gapLimit) scanEnd := by omega
      have hlast : min (start + iterator.gapLimit) scanEnd ≤ u32Max := by omega
      rw [hcalls, hended]
      rcases hrest with ⟨hnone, hearly⟩ | ⟨m', keys, result', hderive, hmore, rfl⟩
      · rw [hnone]
        refine ⟨_, ⟨rfl, hle, rfl⟩, fun w hw => ?_, fun h => absurd h hearly⟩
        obtain rfl := List.mem_singleton.mp hw
        exact ⟨hfirst, hle, hlast⟩
      · by_cases hnext : start + iterator.gapLimit < scanEnd
        · rw [Nat.min_eq_left hnext.le] at hderive hmore hle hlast ⊢
          obtain ⟨hi, htiles, hwindows, hall⟩ := ih m' result' (by omega)
            fun _ => next_window_fits hgap hmax hderive hmore
          refine ⟨hi, ⟨rfl, hle, htiles⟩, fun w hw => ?_, hall⟩
          rcases List.mem_cons.mp hw with rfl | hw
          · exact ⟨hfirst, hle, hlast⟩
          · exact hwindows w hw
        · -- the range ends with this window
          have hdone : ∀ fuel, tracedWindows swapId db iterator swapTypes process iterator.gapLimit
              scanEnd paginated fuel (start + iterator.gapLimit) m' result' =
              ⟨[], .exhausted, .ok result'⟩ := fun fuel => by
            cases fuel with
            | zero => rfl
            | succ fuel => rw [tracedWindows, if_neg hnext]
          rw [hdone]
          refine ⟨_, ⟨rfl, hle, rfl⟩, fun w hw => ?_, fun _ => ?_⟩
          · obtain rfl := List.mem_singleton.mp hw
            exact ⟨hfirst, hle, hlast⟩
          · exact Nat.le_min.mpr ⟨Nat.le_of_not_lt hnext, Nat.le_refl _⟩
    · rw [tracedWindows, if_neg hlt]
      exact ⟨start, rfl, fun w hw => absurd hw List.not_mem_nil, fun _ => Nat.le_of_not_lt hlt⟩

variable (swapId db swapTypes process) in
/-- The arithmetic of a scan stays in range exactly when the cached index is not the greatest one and
the first window, where there is one, ends in range. -/
theorem scan_in_range_iff {cached : Option Nat} {pagination : Option Pagination} {scanStart : Nat}
    (hmax : iterator.gapLimit ≤ maxGapLimit)
    (hrange : scanRange iterator (cached.map (· + 1)) pagination = .ok (scanStart, scanEnd)) :
    ArithmeticInRange cached iterator.gapLimit scanStart scanEnd
        (tracedScan swapId db iterator swapTypes process (cached.map (· + 1)) pagination) ↔
      (∀ i, cached = some i → i + 1 ≤ u32Max) ∧
        (iterator.gapLimit = 0 ∨ scanEnd ≤ scanStart ∨
          scanStart + iterator.gapLimit ≤ u32Max) := by
  by_cases hgap : iterator.gapLimit = 0
  · unfold tracedScan
    rw [if_pos (by rwa [scanGap_eq])]
    constructor
    · exact fun h => ⟨h.indexBump, .inl hgap⟩
    · rintro ⟨hbump, -⟩
      exact {
        indexBump := hbump
        windowEnd := fun w hw => absurd hw List.not_mem_nil
        ordered := fun w hw => absurd hw List.not_mem_nil
        bufferEnd := fun w hw => absurd hw List.not_mem_nil
        once := ⟨scanStart, LoopEnd.noConfusion, (Tiles.visits_eq rfl)⟩ }
  · have htraced : tracedScan swapId db iterator swapTypes process (cached.map (· + 1)) pagination =
        tracedWindows swapId db iterator swapTypes process iterator.gapLimit scanEnd
          pagination.isSome (scanEnd - scanStart) scanStart (fun _ => none) [] := by
      unfold tracedScan
      rw [if_neg (by rwa [scanGap_eq]), hrange, scanGap_eq]
    rw [htraced]
    constructor
    · intro h
      refine ⟨h.indexBump, .inr ?_⟩
      by_contra hover
      rw [not_or, Nat.not_le, Nat.not_le] at hover
      obtain ⟨fuel, hfuel⟩ : ∃ fuel, scanEnd - scanStart = fuel + 1 :=
        ⟨scanEnd - scanStart - 1, by omega⟩
      rw [hfuel] at h
      refine absurd (h.windowEnd ⟨scanStart, min ((scanStart + iterator.gapLimit) % 2 ^ 32) scanEnd⟩
        ?_) (Nat.not_le.mpr hover.2)
      rw [tracedWindows, if_pos hover.1]
      exact List.mem_cons_self
    · rintro ⟨hbump, hfits⟩
      obtain ⟨hi, htiles, hwindows, hall⟩ := tracedWindows_tiles swapId db swapTypes process
        pagination.isSome (fun _ => none) [] (Nat.pos_of_ne_zero hgap) hmax
        (show scanEnd ≤ scanStart + (scanEnd - scanStart) by omega) (fun hlt => by omega)
      exact {
        indexBump := hbump
        windowEnd := fun w hw => (hwindows w hw).1
        ordered := fun w hw => (hwindows w hw).2.1
        bufferEnd := fun w hw =>
          ⟨_, PubkeyIterator.bufferedEnd_of_le (hwindows w hw).2.1, Nat.min_le_right _ _⟩
        once := ⟨hi, hall, htiles.visits_eq⟩ }

end ranges

/-! ## A page at the end of the range -/

/-- The five indices below the greatest one. -/
def lastPage : Pagination := ⟨4294967290, 5⟩

def pagedXpub : PubkeyIterator (List Nat) :=
  .xpub ⟨0, fun path => .ok path⟩ [44, 0, 0, 0] 50 (some lastPage)

/-- A restore of a page in the middle of the range. -/
def restoreRun (pagination : Pagination) : LoopRun (RestorableSwap Unit) :=
  tracedScan RestorableSwap.id {} pagedXpub [.submarine, .chain, .reverseSubmarine]
    processRestorableSwaps none (some pagination)

/-- The end of the page is in range, but the end of its window wraps around, and the call of
`derive_keys` ends before it starts. -/
theorem lastPage_wraps :
    lastPage.endIndex = .ok u32Max ∧ pagedXpub.gapLimit ≤ maxGapLimit ∧
      (restoreRun lastPage).calls = [⟨4294967290, 44⟩] ∧
      (restoreRun lastPage).result = .error (.endBeforeStart 44 4294967290) ∧
      ¬ArithmeticInRange none pagedXpub.gapLimit lastPage.start u32Max (restoreRun lastPage) := by
  have hcalls : (restoreRun lastPage).calls = [⟨4294967290, 44⟩] := rfl
  refine ⟨rfl, by decide, hcalls, rfl, fun h => ?_⟩
  have hordered := h.ordered ⟨4294967290, 44⟩ (by rw [hcalls]; exact List.mem_cons_self)
  exact absurd hordered (by decide)

theorem scan_in_range_firstPage :
    ArithmeticInRange none pagedXpub.gapLimit 0 20 (restoreRun ⟨0, 20⟩) ↔
      (∀ i, (none : Option Nat) = some i → i + 1 ≤ u32Max) ∧
        (pagedXpub.gapLimit = 0 ∨ 20 ≤ 0 ∨ 0 + pagedXpub.gapLimit ≤ u32Max) :=
  scan_in_range_iff RestorableSwap.id {} [.submarine, .chain, .reverseSubmarine]
    processRestorableSwaps (by decide) rfl

end Boltz.SwapRescue

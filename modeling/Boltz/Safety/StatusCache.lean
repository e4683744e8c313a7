import Boltz.Api.SwapInfos

/-!
# Cached statuses that are not older than the last update

A `get` that missed the cache writes the status of the row it has read, however long that took. As
long as no update about a newer row comes in between, what is in the cache is not older than the
last update, and neither is the row.
-/

namespace Boltz.SwapInfos

open Async

/-! ## The status of a row -/

section

variable {sources : Sources} {id : String} {swap : AnySwap} {update : SwapUpdate}

end

/-! ## Runs -/

/-- A `get` that is going to write the cache of the swap writes the row of the update or a newer
one. -/
def Get.keeps (id : String) (version : ℕ) : Get → Bool
  | missed _ => true
  | fetched other read _ => other ≠ id || version ≤ read
  | assembled other entry => other ≠ id || version ≤ entry.version

/-- No update that is written to the cache is handled while a `get` is between reading an older row
of its swap and writing the cache. -/
def undisturbed (s : State) : Op → Bool
  | .update id entry false => s.gets.all (·.keeps id entry.version)
  | _ => true

/-- Neither the cache nor the row is older than the last update that was not marked `skipCache`. -/
def State.NotOlder (s : State) : Prop :=
  ∀ id version, s.lastUpdate id = some version →
    (∀ entry, s.cache id = some entry → version ≤ entry.version) ∧ version < (s.rows id).length

/-- The cache after the writes in flight. -/
def State.settled (s : State) : Cache := s.inFlight.foldl CacheWrite.apply s.cache

theorem settled_append (cache : Cache) (inFlight : List CacheWrite) (write : CacheWrite) :
    (inFlight ++ [write]).foldl CacheWrite.apply cache =
      write.apply (inFlight.foldl CacheWrite.apply cache) := by
  rw [List.foldl_append, List.foldl_cons, List.foldl_nil]

/-- What a `get` is about to write is from a row that was there at the last update. -/
def Get.NotOlder (lastUpdate : String → Option ℕ) : Get → Prop
  | missed _ => True
  | fetched id version _ => ∀ last ∈ lastUpdate id, last ≤ version
  | assembled id entry => ∀ last ∈ lastUpdate id, last ≤ entry.version

structure Inv (s : State) : Prop where
  row : ∀ id, ∀ last ∈ s.lastUpdate id, last < (s.rows id).length
  gets : ∀ get ∈ s.gets, get.NotOlder s.lastUpdate
  settled : ∀ id, ∀ entry ∈ s.settled id, ∀ last ∈ s.lastUpdate id, last ≤ entry.version

theorem Inv.init (rows : String → List AnySwap) (cache : Cache) : Inv (.init rows cache) where
  row := by simp [State.init]
  gets := by simp [State.init]
  settled := by simp [State.init]

section Steps

variable {s s' : State}

/-- A `get` that goes away leaves the others as they are. -/
theorem Inv.eraseGet (h : Inv s) (i : ℕ) : Inv { s with gets := s.gets.eraseIdx i } :=
  ⟨h.row, fun get hget => h.gets get (List.mem_of_mem_eraseIdx hget), h.settled⟩

theorem Inv.setGet (h : Inv s) (i : ℕ) {get : Get} (hget : get.NotOlder s.lastUpdate) :
    Inv { s with gets := s.gets.set i get } := by
  refine ⟨h.row, fun other hother => ?_, h.settled⟩
  rcases List.mem_or_eq_of_mem_set hother with hmem | rfl
  · exact h.gets other hmem
  · exact hget

/-- Writing an entry that is not older than the last update. -/
theorem Inv.set (h : Inv s) {id : String} {entry : Entry}
    (hentry : ∀ last ∈ s.lastUpdate id, last ≤ entry.version) :
    Inv { s with inFlight := s.inFlight ++ [.set id entry] } := by
  refine ⟨h.row, h.gets, fun other found hfound last hlast => ?_⟩
  rw [State.settled, settled_append, CacheWrite.apply] at hfound
  by_cases hid : other = id
  · subst hid
    rw [Function.update_self] at hfound
    cases hfound
    exact hentry last hlast
  · rw [Function.update_of_ne hid] at hfound
    exact h.settled other found hfound last hlast

/-- Clearing the cache leaves nothing that could be older. -/
theorem Inv.clearCache (h : Inv s) (write : CacheWrite)
    (hwrite : ∀ cache id, write.apply cache id = cache id ∨ write.apply cache id = none) :
    Inv { s with inFlight := s.inFlight ++ [write] } := by
  refine ⟨h.row, h.gets, fun id entry hentry => h.settled id entry ?_⟩
  rw [State.settled, settled_append] at hentry
  rcases hwrite (s.inFlight.foldl CacheWrite.apply s.cache) id with hsame | hnone
  · rwa [hsame] at hentry
  · rw [hnone] at hentry
    cases hentry

/-- An update while no `get` is between reading an older row and writing it. -/
theorem Inv.update (h : Inv s) {id : String} {entry : Entry}
    (hkeeps : ∀ get ∈ s.gets, get.keeps id entry.version = true)
    (hversion : entry.version < (s.rows id).length) :
    Inv
      { s with
        inFlight := s.inFlight ++ [.set id entry]
        lastUpdate := Function.update s.lastUpdate id (some entry.version) } := by
  refine ⟨fun other last hlast => ?_, fun get hget => ?_, fun other found hfound last hlast => ?_⟩
  · by_cases hid : other = id
    · subst hid
      simp only [Function.update_self, Option.mem_some_iff] at hlast
      exact hlast ▸ hversion
    · simp only [Function.update_of_ne hid] at hlast
      exact h.row other last hlast
  · have hold := h.gets get hget
    have hnew := hkeeps get hget
    cases get with
    | missed _ => trivial
    | fetched other _ _ | assembled other _ =>
      by_cases hid : other = id
      · subst hid
        simpa [Get.NotOlder, Get.keeps] using hnew
      · simpa only [Get.NotOlder, Function.update_of_ne hid] using hold
  · rw [State.settled, settled_append, CacheWrite.apply] at hfound
    by_cases hid : other = id
    · subst hid
      simp only [Function.update_self, Option.mem_some_iff] at hfound hlast
      subst hfound hlast
      exact Nat.le_refl _
    · rw [Function.update_of_ne hid] at hfound
      simp only [Function.update_of_ne hid] at hlast
      exact h.settled other found hfound last hlast

theorem Inv.writeRow (h : Inv s) (id : String) (swap : AnySwap) :
    Inv { s with rows := Function.update s.rows id (s.rows id ++ [swap]) } := by
  refine ⟨fun other last hlast => ?_, h.gets, h.settled⟩
  have hold := h.row other last hlast
  by_cases hid : other = id
  · subst hid
    simp only [Function.update_self, List.length_append, List.length_singleton]
    omega
  · simpa only [Function.update_of_ne hid] using hold

theorem Inv.step {op : Op} (h : Inv s) (hadmits : undisturbed s op = true)
    (hstep : step s op = some s') : Inv s' := by
  cases op with
  | writeRow id swap =>
    cases hstep
    exact h.writeRow id swap
  | update id entry skipCache =>
    simp only [SwapInfos.step] at hstep
    split at hstep
    · cases hstep
    case isFalse hlength =>
      have hversion : entry.version < (s.rows id).length := by omega
      cases skipCache with
      | true =>
        cases hstep
        exact h
      | false =>
        cases hstep
        exact h.update (by simpa [undisturbed] using hadmits) hversion
  | get id failed =>
    simp only [SwapInfos.step] at hstep
    split at hstep
    · cases hstep
      exact h
    · cases hstep
      refine ⟨h.row, fun get hget => ?_, h.settled⟩
      rcases List.mem_append.mp hget with hget | hget
      · exact h.gets get hget
      · rw [List.mem_singleton.mp hget]
        trivial
  | fetch i =>
    simp only [SwapInfos.step] at hstep
    split at hstep
    case h_1 id hget =>
      split at hstep
      · cases hstep
        exact h.eraseGet i
      · cases hstep
        refine h.setGet i fun last hlast => ?_
        have := h.row id last hlast
        omega
    · cases hstep
  | assemble i sources =>
    simp only [SwapInfos.step] at hstep
    split at hstep
    case h_1 id version swap hget =>
      split at hstep
      · cases hstep
        exact h.eraseGet i
      · cases hstep
        have hfetched := h.gets _ (List.mem_of_getElem? hget)
        exact h.setGet i hfetched
    · cases hstep
  | write i =>
    simp only [SwapInfos.step] at hstep
    split at hstep
    case h_1 id entry hget =>
      cases hstep
      exact (h.set (h.gets _ (List.mem_of_getElem? hget))).eraseGet i
    · cases hstep
  | reject i =>
    simp only [SwapInfos.step] at hstep
    split at hstep
    · cases hstep
      exact h.eraseGet i
    · cases hstep
  | clearCache id =>
    cases id with
    | none =>
      cases hstep
      exact h.clearCache .clear fun _ _ => .inr rfl
    | some id =>
      cases hstep
      refine h.clearCache (.delete id) fun cache other => ?_
      by_cases hid : other = id
      · exact .inr (hid ▸ Function.update_self ..)
      · exact .inl (Function.update_of_ne hid ..)
  | land =>
    simp only [SwapInfos.step] at hstep
    split at hstep
    · cases hstep
    case h_2 write rest hflight =>
      cases hstep
      refine ⟨h.row, h.gets, ?_⟩
      have hsettled := h.settled
      rw [State.settled, hflight] at hsettled
      exact hsettled

end Steps

/-- In a run without an update between the read of an older row and its write, the cache is not
older than the last update as soon as no write is in flight. -/
theorem cache_notOlder {rows : String → List AnySwap} {cache : Cache} {ops : List Op} {s : State}
    (h : runFrom step undisturbed (.init rows cache) ops = some s) (hsettled : s.inFlight = []) :
    s.NotOlder := by
  have hinv : Inv s := invariant_of_runFrom (fun _ _ _ hinv hadmits => hinv.step hadmits)
    (Inv.init rows cache) h
  intro id version hversion
  refine ⟨fun entry hentry => ?_, hinv.row id version hversion⟩
  have hcache : s.settled = s.cache := by
    rw [State.settled, hsettled, List.foldl_nil]
  exact hinv.settled id entry (hcache ▸ hentry) version hversion

/-! ## A status that goes backwards -/

/-- The chain is asked for nothing. -/
def noSources : Sources where
  getTransaction _ _ := .error "not found"
  formatTransaction _ _ := .error "not found"
  getRefundTransaction _ := .ok none

/-- A swap that was created. -/
def createdRows : String → List AnySwap := fun _ => [{ type := .submarine, status := .swapCreated }]

def expired : Entry := ⟨1, { status := .swapExpired, failureReason := some "expired" }⟩

/-- The swap expires, and the update is handled, after its row has been read. -/
def staleFill : List Op :=
  [.get "id" false, .fetch 0,
    .writeRow "id" { type := .submarine, status := .swapExpired, failureReason := some "expired" },
    .update "id" expired false, .land, .assemble 0 noSources, .write 0, .land]

/-- The same, with the row read after the update. -/
def freshFill : List Op :=
  [.get "id" true,
    .writeRow "id" { type := .submarine, status := .swapExpired, failureReason := some "expired" },
    .update "id" expired false, .land, .fetch 0, .assemble 0 noSources, .write 0, .land]

theorem freshFill_notOlder :
    ((runFrom step undisturbed (.init createdRows fun _ => none) freshFill).get
      (by decide)).NotOlder :=
  cache_notOlder (Option.some_get _).symm (by rfl)

/-- A created swap is shown after the update of its expiration was handled, and nothing runs. -/
theorem staleFill_older :
    ∃ s, runFrom step (fun _ _ => true) (.init createdRows fun _ => none) staleFill = some s ∧
      s.gets = [] ∧ s.inFlight = [] ∧ s.cache "id" = some ⟨0, { status := .swapCreated }⟩ ∧
      ¬s.NotOlder := by
  refine ⟨(runFrom step (fun _ _ => true) (.init createdRows fun _ => none) staleFill).get
    (by decide), (Option.some_get _).symm, by rfl, by rfl, by rfl, fun h => ?_⟩
  have hold := (h "id" 1 (by rfl)).1 ⟨0, { status := .swapCreated }⟩ (by rfl)
  exact absurd hold (by decide)

end Boltz.SwapInfos

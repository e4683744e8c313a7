import Boltz.Caches.Cache
import Mathlib.Data.List.Basic
import Mathlib.Algebra.Ring.Nat

/-!
# The cache in memory refines the one in Redis

Read through `getKey`, the map in memory looks as the hashes of Redis do from now on. Every call
keeps that and answers alike, provided that no two pairs of key and field flatten to one string,
that a time to live stays in range, and that what is read after its expiry has the type asked for.
-/

namespace Boltz.Caches

open ExpiringMap

variable {T J V : Type} (limits : Limits) (decode : T → J → Option V)

def flatten (p : String × String) : String := MemCache.getKey p.1 p.2

/-- No two pairs of key and field of the run have one key in memory. -/
def KeysApart (run : List (CacheEvent T J)) : Prop :=
  ∀ p ∈ run.flatMap CacheEvent.pairs, ∀ q ∈ run.flatMap CacheEvent.pairs,
    flatten p = flatten q → p = q

/-- What is stored under the key is still live, or it is of the type asked for. -/
def MemCache.readable (now : Nat) (ty : T) (key field : String) (m : MemCache J) : Bool :=
  (m (getKey key field)).all fun res => res.isLive now || (decode ty res.value).isSome

/-- Every field that is read is readable: reading stops at the first that cannot be decoded. -/
def MemCache.allReadable (now : Nat) (ty : T) (key : String) : List String → MemCache J → Bool
  | [], _ => true
  | field :: fields, m =>
    readable decode now ty key field m &&
      match get decode now ty key field m with
      | (.error _, _) => true
      | (.ok _, m) => MemCache.allReadable now ty key fields m

def Limits.inRange (now : Nat) (ttl : Option Nat) : Bool :=
  ttl.all fun ttl => decide (now + ttl ≤ limits.maxTime) && limits.accepts now ttl

def MemCache.regular (now : Nat) (m : MemCache J) : Call T J → Bool
  | .get ty key field => readable decode now ty key field m
  | .getMultiple ty key fields => allReadable decode now ty key fields m
  | .set _ _ _ ttl => limits.inRange now ttl
  | .take ty key field => readable decode now ty key field m
  | .delete _ _ => true

/-- Every call of the run is regular in the state it finds. -/
def MemCache.allRegular : List (CacheEvent T J) → Nat → MemCache J → Bool
  | [], _, _ => true
  | .call c :: run, now, m =>
    regular limits decode now m c &&
      MemCache.allRegular run now (MemCache.call limits decode now m c).2
  | .pass seconds :: run, now, m => MemCache.allRegular run (now + seconds) m
  | .cleanup :: run, now, m => MemCache.allRegular run now (cleanupExpired now m)

/-! ## One call -/

variable {decode} {limits} {S : String × String → Prop} {now : Nat} {m : MemCache J} {r : Redis J}

/-- What the two caches have in common: they look alike through `flatten`, on the pairs in use. -/
abbrev Alike (S : String × String → Prop) (now : Nat) (m : MemCache J) (r : Redis J) : Prop :=
  Looks flatten S now m r

theorem get_reply {ty : T} {key field : String}
    (hread : MemCache.readable decode now ty key field m = true) :
    (MemCache.get decode now ty key field m).1 =
      Redis.fromReply decode ty (m.lookup now (flatten (key, field))) := by
  unfold MemCache.readable at hread
  unfold MemCache.get flatten
  cases hentry : m (MemCache.getKey key field) with
  | none => rw [lookup_of_none hentry]; rfl
  | some res =>
    rw [hentry, Option.all_some, Bool.or_eq_true] at hread
    by_cases hlive : res.isLive now = true
    · rw [lookup_of_live hentry hlive]
      unfold Redis.fromReply
      cases hdec : decode ty res.value <;> simp [hlive, hdec]
    · rw [Bool.not_eq_true] at hlive
      obtain ⟨value, hdec⟩ := Option.isSome_iff_exists.mp (hread.resolve_left (by simp [hlive]))
      rw [lookup_of_expired hentry hlive (Nat.le_refl now)]
      simp [hdec, hlive, Redis.fromReply]

theorem lookup_get (now : Nat) (ty : T) (key field : String) (m : MemCache J) {t : Nat}
    (ht : now ≤ t) (k : String) :
    (MemCache.get decode now ty key field m).2.lookup t k = m.lookup t k := by
  unfold MemCache.get
  cases hentry : m (MemCache.getKey key field) with
  | none => rfl
  | some res =>
    cases hdec : decode ty res.value with
    | none => simp only [hdec]
    | some value =>
      by_cases hlive : res.isLive now = true
      · simp only [hdec, if_pos hlive]
      · simp only [hdec, if_neg hlive]
        exact lookup_erase_expired hentry (by simpa using hlive) ht k

theorem Alike.get (h : Alike S now m r) {ty : T} {key field : String} (hS : S (key, field))
    (hread : MemCache.readable decode now ty key field m = true) :
    (MemCache.get decode now ty key field m).1 = (Redis.get decode now ty key field r).1 ∧
      Alike S now (MemCache.get decode now ty key field m).2 r := by
  constructor
  · rw [get_reply hread, h (key, field) hS now (Nat.le_refl now)]
    rfl
  · exact h.congr fun t ht k => lookup_get now ty key field m ht k

theorem Alike.getMultiple {ty : T} {key : String} {fields : List String} (h : Alike S now m r)
    (hS : ∀ field ∈ fields, S (key, field))
    (hread : MemCache.allReadable decode now ty key fields m = true) :
    (MemCache.getMultiple decode now ty key fields m).1 =
        (Redis.hmget now key fields r).mapM (Redis.fromReply decode ty) ∧
      Alike S now (MemCache.getMultiple decode now ty key fields m).2 r := by
  induction fields generalizing m with
  | nil => exact ⟨rfl, h⟩
  | cons field fields ih =>
    obtain ⟨hfirst, hrest⟩ := Bool.and_eq_true_iff.mp hread
    obtain ⟨hreply, halike⟩ := h.get (hS field (by simp)) hfirst
    simp only [Redis.get] at hreply
    rw [Redis.hmget, List.map_cons, List.mapM_cons, ← hreply]
    unfold MemCache.getMultiple
    rcases hget : MemCache.get decode now ty key field m with ⟨_ | value, m₁⟩
    · rw [hget] at halike
      exact ⟨rfl, halike⟩
    · rw [hget] at halike hrest
      obtain ⟨hreplies, halike⟩ := ih halike (fun f hf => hS f (by simp [hf])) hrest
      rw [Redis.hmget] at hreplies
      simp only [← hreplies]
      rcases hmore : MemCache.getMultiple decode now ty key fields m₁ with ⟨_ | values, m₂⟩
      · rw [hmore] at halike
        exact ⟨rfl, halike⟩
      · rw [hmore] at halike
        exact ⟨rfl, halike⟩

/-- The field just written is there, whatever the expiry it gets. -/
theorem set_reply (m : MemCache J) (r : Redis J) (key field : String) (value : J)
    {ttl : Option Nat} (hrange : limits.inRange now ttl = true) :
    MemCache.set limits now key field value ttl m =
        (.ok (), m.insert (flatten (key, field)) ⟨value, ttl.map (now + ·)⟩) ∧
      (Redis.set limits now key field value ttl r).1 = .ok () := by
  cases ttl with
  | none => exact ⟨rfl, rfl⟩
  | some ttl =>
    obtain ⟨hmax, haccepts⟩ := Bool.and_eq_true_iff.mp hrange
    constructor
    · simp only [MemCache.set, MemCache.checkedAdd, if_pos (of_decide_eq_true hmax)]
      rfl
    · simp only [Redis.set, Redis.hexpire, if_pos haccepts, Redis.hset, lookup_insert_self]
      by_cases hzero : ttl = 0 <;> simp [hzero, Entry.isLive]

theorem lookup_set_self {key field : String} {value : J} {ttl : Option Nat}
    (hrange : limits.inRange now ttl = true) {t : Nat} (ht : now ≤ t) :
    (Redis.set limits now key field value ttl r).2.lookup t (key, field) =
      if (⟨value, ttl.map (now + ·)⟩ : Entry J).isLive t then some value else none := by
  cases ttl with
  | none => exact lookup_insert_self r t (key, field) ⟨value, none⟩
  | some ttl =>
    obtain ⟨-, haccepts⟩ := Bool.and_eq_true_iff.mp hrange
    simp only [Redis.set, Redis.hexpire, if_pos haccepts, Redis.hset, lookup_insert_self]
    by_cases hzero : ttl = 0
    · subst hzero
      have hgone : ¬ t < now := by omega
      simp [Entry.isLive, hgone]
    · simp [Entry.isLive, hzero]

theorem lookup_set_of_ne {key field : String} {value : J} {ttl : Option Nat} (t : Nat)
    {k : String × String} (hne : k ≠ (key, field)) :
    (Redis.set limits now key field value ttl r).2.lookup t k = r.lookup t k := by
  have hset : (Redis.hset (key, field) value r).lookup t k = r.lookup t k :=
    lookup_insert_of_ne r t hne _
  cases ttl with
  | none => exact hset
  | some ttl =>
    simp only [Redis.set, Redis.hexpire]
    by_cases haccepts : limits.accepts now ttl = true
    · rw [if_pos haccepts]
      cases (Redis.hset (key, field) value r).lookup now (key, field) with
      | none => exact hset
      | some _ =>
        by_cases hzero : ttl = 0
        · simp only [if_pos hzero]
          exact (lookup_erase_of_ne _ t hne).trans hset
        · simp only [if_neg hzero]
          exact (lookup_insert_of_ne _ t hne _).trans hset
    · rw [if_neg haccepts]
      exact hset

theorem Alike.set (h : Alike S now m r) {key field : String} {value : J} {ttl : Option Nat}
    (hinj : ∀ k, S k → flatten k = flatten (key, field) → k = (key, field))
    (hrange : limits.inRange now ttl = true) :
    (MemCache.set limits now key field value ttl m).1 =
        (Redis.set limits now key field value ttl r).1 ∧
      Alike S now (MemCache.set limits now key field value ttl m).2
        (Redis.set limits now key field value ttl r).2 := by
  obtain ⟨hmem, hredis⟩ := set_reply m r key field value hrange
  rw [hmem, hredis]
  refine ⟨rfl, h.update hinj (fun t ht => ?_) (fun t k hne => lookup_insert_of_ne m t hne _)
    fun t k hne => lookup_set_of_ne t hne⟩
  rw [lookup_insert_self, lookup_set_self hrange ht]

theorem take_reply {ty : T} {key field : String}
    (hread : MemCache.readable decode now ty key field m = true) :
    MemCache.take decode now ty key field m =
      (Redis.fromReply decode ty (m.lookup now (flatten (key, field))),
        m.erase (flatten (key, field))) := by
  rw [← get_reply hread]
  unfold MemCache.take MemCache.get
  cases m (MemCache.getKey key field) with
  | none => rfl
  | some res =>
    cases hdec : decode ty res.value with
    | none => simp only [hdec]; rfl
    | some value => by_cases hlive : res.isLive now = true <;> simp only [hdec, hlive] <;> rfl

/-- One regular call: both caches answer alike and look alike after it. -/
theorem Alike.call (h : Alike S now m r) {c : Call T J} (hS : ∀ p ∈ c.pairs, S p)
    (hinj : ∀ p, S p → ∀ q, S q → flatten p = flatten q → p = q)
    (hregular : MemCache.regular limits decode now m c = true) :
    (MemCache.call limits decode now m c).1 = (Redis.call limits decode now r c).1 ∧
      Alike S now (MemCache.call limits decode now m c).2 (Redis.call limits decode now r c).2 := by
  cases c with
  | get ty key field =>
    obtain ⟨hreply, halike⟩ := h.get (hS (key, field) (by simp [Call.pairs])) hregular
    exact ⟨congrArg (Except.map Reply.value) hreply, halike⟩
  | getMultiple ty key fields =>
    have hfields : ∀ field ∈ fields, S (key, field) := fun field hf =>
      hS (key, field) (by simpa [Call.pairs] using hf)
    obtain ⟨hreplies, halike⟩ := h.getMultiple hfields hregular
    have hredis : Redis.getMultiple decode now ty key fields r =
        ((Redis.hmget now key fields r).mapM (Redis.fromReply decode ty), r) := by
      unfold Redis.getMultiple
      cases fields with
      | nil => rfl
      | cons field fields => rfl
    simp only [MemCache.call, Redis.call, CacheResult.of, hredis]
    exact ⟨congrArg (Except.map Reply.values) hreplies, halike⟩
  | set key field value ttl =>
    have hmem := hS (key, field) (by simp [Call.pairs])
    obtain ⟨hreply, halike⟩ := h.set
      (fun k hk he => hinj k hk (key, field) hmem he) hregular
    exact ⟨congrArg (Except.map fun _ => Reply.unit) hreply, halike⟩
  | take ty key field =>
    have hmem := hS (key, field) (by simp [Call.pairs])
    simp only [MemCache.call, Redis.call, CacheResult.of, take_reply hregular, Redis.take]
    rw [h (key, field) hmem now (Nat.le_refl now)]
    exact ⟨rfl, h.erase fun k hk he => hinj k hk (key, field) hmem he⟩
  | delete key field =>
    have hmem := hS (key, field) (by simp [Call.pairs])
    exact ⟨rfl, h.erase fun k hk he => hinj k hk (key, field) hmem he⟩

/-! ## Whole runs -/

theorem Alike.replies (hinj : ∀ p, S p → ∀ q, S q → flatten p = flatten q → p = q)
    {run : List (CacheEvent T J)} (h : Alike S now m r)
    (hS : ∀ p ∈ run.flatMap CacheEvent.pairs, S p)
    (hregular : MemCache.allRegular limits decode run now m = true) :
    MemCache.replies limits decode run now m = Redis.replies limits decode run now r := by
  induction run generalizing now m r with
  | nil => rfl
  | cons event run ih =>
    have hrest : ∀ p ∈ run.flatMap CacheEvent.pairs, S p := fun p hp =>
      hS p (by rw [List.flatMap_cons]; exact List.mem_append_right _ hp)
    cases event with
    | call c =>
      obtain ⟨hfirst, hregular⟩ := Bool.and_eq_true_iff.mp hregular
      have hpairs : ∀ p ∈ c.pairs, S p := fun p hp =>
        hS p (by rw [List.flatMap_cons]; exact List.mem_append_left _ hp)
      obtain ⟨hreply, halike⟩ := h.call hpairs hinj hfirst
      rw [MemCache.replies, Redis.replies, hreply, ih halike hrest hregular]
    | pass seconds => exact ih (h.later (Nat.le_add_right now seconds)) hrest hregular
    | cleanup => exact ih (h.congr fun t ht k => lookup_retain_live m ht k) hrest hregular

/-- The two caches return the same to every call of a run, provided that no two pairs of key and
field share a key in memory and every call is regular. -/
theorem memCache_refines_redis (limits : Limits) (decode : T → J → Option V)
    (run : List (CacheEvent T J)) (now : Nat) (hkeys : KeysApart run)
    (hregular : MemCache.allRegular limits decode run now .empty = true) :
    MemCache.replies limits decode run now .empty = Redis.replies limits decode run now .empty :=
  Alike.replies (S := (· ∈ run.flatMap CacheEvent.pairs)) hkeys looks_empty (fun _ hp => hp)
    hregular

/-! ## Runs in which they differ, and one in which they agree -/

inductive SampleType where
  | number
  | text
  deriving DecidableEq, Repr

inductive SampleJson where
  | number (n : Nat)
  | text (s : String)
  deriving DecidableEq, Repr

def sampleDecode : SampleType → SampleJson → Option SampleJson
  | .number, .number n => some (.number n)
  | .text, .text s => some (.text s)
  | _, _ => none

/-- Seconds in an `i64`, and the milliseconds that `HEXPIRE` has room for. -/
def sampleLimits : Limits where
  maxTime := 2 ^ 63 - 1
  accepts now ttl := decide ((now + ttl) * 1000 < 2 ^ 46)

instance (run : List (CacheEvent T J)) : Decidable (KeysApart run) :=
  List.decidableBAll _ _

/-- Two pairs with one flattened key, an expired number read as a text, and a time to live that is
out of range: Redis has written the value then. -/
theorem caches_differ :
    let mem := fun run => MemCache.replies sampleLimits sampleDecode run 0 .empty
    let redis := fun run => Redis.replies sampleLimits sampleDecode run 0 .empty
    let collision := [.call (.set "a:b" "c" (.number 1) none), .call (.get .number "a" "b:c")]
    let stale := [.call (.set "a" "b" (.number 1) (some 1)), .pass 2, .call (.get .text "a" "b")]
    let refused := [.call (.set "a" "b" (.number 1) (some (2 ^ 64 - 1))),
      .call (.get .number "a" "b")]
    mem collision = [.ok .unit, .ok (.value (some (.number 1)))] ∧
      redis collision = [.ok .unit, .ok (.value none)] ∧
      mem stale = [.ok .unit, .error .badValue] ∧
      redis stale = [.ok .unit, .ok (.value none)] ∧
      mem refused = [.error .badExpiry, .ok (.value none)] ∧
      redis refused = [.error .badExpiry, .ok (.value (some (.number 1)))] := by
  dsimp only
  decide +kernel

theorem caches_agree :
    let run : List (CacheEvent SampleType SampleJson) :=
      [.call (.set "a" "b" (.number 1) (some 5)), .call (.set "a" "c" (.text "x") none),
        .call (.set "a" "b" (.number 2) (some 0)), .call (.getMultiple .text "a" ["c", "d"]),
        .pass 3, .cleanup, .call (.take .number "a" "b"), .call (.delete "a" "c"),
        .call (.get .number "a" "c")]
    MemCache.replies sampleLimits sampleDecode run 0 .empty =
      Redis.replies sampleLimits sampleDecode run 0 .empty :=
  memCache_refines_redis sampleLimits sampleDecode _ 0 (by decide +kernel) (by decide +kernel)

end Boltz.Caches

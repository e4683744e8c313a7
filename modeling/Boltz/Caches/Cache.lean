import Boltz.Caches.ExpiringMap

/-!
# The cache: in memory and in Redis

Values are stored as JSON text `J`; `decode ty` reads a text as a value of the type `ty` the
caller asks for. Both caches run over one clock of whole seconds, and decode alike: the text in
memory is a `CacheValue`, whose value is nested one level deeper, so that a value just within
the nesting limit of `serde_json` can be read from Redis only.
-/

namespace Boltz.Caches

/-- Why a call returns an error: a text that is not of the type asked for, or a time to live that
leads out of range. -/
inductive CacheError where
  | badValue
  | badExpiry
  deriving DecidableEq, Repr

/-- The latest `SystemTime`, and which times to live `HEXPIRE` accepts. -/
structure Limits where
  maxTime : Nat
  accepts : Nat → Nat → Bool

abbrev MemCache (J : Type) := ExpiringMap String J

abbrev Redis (J : Type) := ExpiringMap (String × String) J

variable {T J V : Type}

/-! ## In memory -/

namespace MemCache

def getKey (key field : String) : String := key ++ ":" ++ field

variable (limits : Limits) (decode : T → J → Option V)

/-- The type is looked at before the expiry. -/
def get (now : Nat) (ty : T) (key field : String) (m : MemCache J) :
    Except CacheError (Option V) × MemCache J :=
  match m (getKey key field) with
  | some res =>
    match decode ty res.value with
    | none => (.error .badValue, m)
    | some value =>
      if res.isLive now then (.ok (some value), m) else (.ok none, m.erase (getKey key field))
  | none => (.ok none, m)

def getMultiple (now : Nat) (ty : T) (key : String) :
    List String → MemCache J → Except CacheError (List (Option V)) × MemCache J
  | [], m => (.ok [], m)
  | field :: fields, m =>
    match get decode now ty key field m with
    | (.error err, m) => (.error err, m)
    | (.ok value, m) =>
      match getMultiple now ty key fields m with
      | (.error err, m) => (.error err, m)
      | (.ok values, m) => (.ok (value :: values), m)

def checkedAdd (now ttl : Nat) : Option Nat :=
  if now + ttl ≤ limits.maxTime then some (now + ttl) else none

def set (now : Nat) (key field : String) (value : J) (ttl : Option Nat) (m : MemCache J) :
    Except CacheError Unit × MemCache J :=
  match ttl with
  | some ttl =>
    match checkedAdd limits now ttl with
    | none => (.error .badExpiry, m)
    | some expiresAt => (.ok (), m.insert (getKey key field) ⟨value, some expiresAt⟩)
  | none => (.ok (), m.insert (getKey key field) ⟨value, none⟩)

def take (now : Nat) (ty : T) (key field : String) (m : MemCache J) :
    Except CacheError (Option V) × MemCache J :=
  match m (getKey key field) with
  | some entry =>
    (match decode ty entry.value with
      | none => .error .badValue
      | some value => .ok (if entry.isLive now then some value else none),
      m.erase (getKey key field))
  | none => (.ok none, m.erase (getKey key field))

def delete (key field : String) (m : MemCache J) : Except CacheError Unit × MemCache J :=
  (.ok (), m.erase (getKey key field))

/-- The task that runs every minute. -/
def cleanupExpired (now : Nat) (m : MemCache J) : MemCache J := m.retain (·.isLive now)

end MemCache

/-! ## In Redis -/

namespace Redis

variable (limits : Limits) (decode : T → J → Option V)

/-- A field that is written anew has no expiry. -/
def hset (k : String × String) (value : J) (m : Redis J) : Redis J := m.insert k ⟨value, none⟩

/-- `none` for a time to live that is refused. One of zero deletes the field. -/
def hexpire (now : Nat) (k : String × String) (ttl : Nat) (m : Redis J) : Option (Redis J) :=
  if limits.accepts now ttl then
    match m.lookup now k with
    | none => some m
    | some value =>
      if ttl = 0 then some (m.erase k) else some (m.insert k ⟨value, some (now + ttl)⟩)
  else
    none

def hmget (now : Nat) (key : String) (fields : List String) (m : Redis J) : List (Option J) :=
  fields.map fun field => m.lookup now (key, field)

def fromReply (ty : T) : Option J → Except CacheError (Option V)
  | some res =>
    match decode ty res with
    | none => .error .badValue
    | some value => .ok (some value)
  | none => .ok none

def get (now : Nat) (ty : T) (key field : String) (m : Redis J) :
    Except CacheError (Option V) × Redis J :=
  (fromReply decode ty (m.lookup now (key, field)), m)

def getMultiple (now : Nat) (ty : T) (key : String) (fields : List String) (m : Redis J) :
    Except CacheError (List (Option V)) × Redis J :=
  if fields.isEmpty then (.ok [], m) else ((hmget now key fields m).mapM (fromReply decode ty), m)

/-- When Redis refuses the expiry, the field has been written nevertheless. -/
def set (now : Nat) (key field : String) (value : J) (ttl : Option Nat) (m : Redis J) :
    Except CacheError Unit × Redis J :=
  match ttl with
  | some ttl =>
    match hexpire limits now (key, field) ttl (hset (key, field) value m) with
    | none => (.error .badExpiry, hset (key, field) value m)
    | some m => (.ok (), m)
  | none => (.ok (), hset (key, field) value m)

def take (now : Nat) (ty : T) (key field : String) (m : Redis J) :
    Except CacheError (Option V) × Redis J :=
  (fromReply decode ty (m.lookup now (key, field)), m.erase (key, field))

def delete (key field : String) (m : Redis J) : Except CacheError Unit × Redis J :=
  (.ok (), m.erase (key, field))

end Redis

/-! ## Sequences of calls -/

inductive Call (T J : Type) where
  | get (ty : T) (key field : String)
  | getMultiple (ty : T) (key : String) (fields : List String)
  | set (key field : String) (value : J) (ttl : Option Nat)
  | take (ty : T) (key field : String)
  | delete (key field : String)
  deriving DecidableEq, Repr

inductive Reply (V : Type) where
  | value (value : Option V)
  | values (values : List (Option V))
  | unit
  deriving DecidableEq, Repr

/-- What can happen to a cache: a call, time that passes, and the cleanup in memory. -/
inductive CacheEvent (T J : Type) where
  | call (call : Call T J)
  | pass (seconds : Nat)
  | cleanup
  deriving DecidableEq, Repr

/-- The keys and fields a call names. -/
def Call.pairs : Call T J → List (String × String)
  | .get _ key field => [(key, field)]
  | .getMultiple _ key fields => fields.map fun field => (key, field)
  | .set key field _ _ => [(key, field)]
  | .take _ key field => [(key, field)]
  | .delete key field => [(key, field)]

def CacheEvent.pairs : CacheEvent T J → List (String × String)
  | .call c => c.pairs
  | .pass _ => []
  | .cleanup => []

/-- A result and the store after it. -/
abbrev CacheResult (V M : Type) := Except CacheError (Reply V) × M

def CacheResult.of {A M : Type} (f : A → Reply V) (r : Except CacheError A × M) :
    CacheResult V M :=
  (r.1.map f, r.2)

variable (limits : Limits) (decode : T → J → Option V)

def MemCache.call (now : Nat) (m : MemCache J) : Call T J → CacheResult V (MemCache J)
  | .get ty key field => .of .value (get decode now ty key field m)
  | .getMultiple ty key fields => .of .values (getMultiple decode now ty key fields m)
  | .set key field value ttl => .of (fun _ => .unit) (set limits now key field value ttl m)
  | .take ty key field => .of .value (take decode now ty key field m)
  | .delete key field => .of (fun _ => .unit) (delete key field m)

def Redis.call (now : Nat) (m : Redis J) : Call T J → CacheResult V (Redis J)
  | .get ty key field => .of .value (get decode now ty key field m)
  | .getMultiple ty key fields => .of .values (getMultiple decode now ty key fields m)
  | .set key field value ttl => .of (fun _ => .unit) (set limits now key field value ttl m)
  | .take ty key field => .of .value (take decode now ty key field m)
  | .delete key field => .of (fun _ => .unit) (delete key field m)

/-- What the calls of a run return, one after the other. -/
def MemCache.replies : List (CacheEvent T J) → Nat → MemCache J → List (Except CacheError (Reply V))
  | [], _, _ => []
  | .call c :: run, now, m =>
    (MemCache.call limits decode now m c).1 ::
      MemCache.replies run now (MemCache.call limits decode now m c).2
  | .pass seconds :: run, now, m => MemCache.replies run (now + seconds) m
  | .cleanup :: run, now, m => MemCache.replies run now (MemCache.cleanupExpired now m)

def Redis.replies : List (CacheEvent T J) → Nat → Redis J → List (Except CacheError (Reply V))
  | [], _, _ => []
  | .call c :: run, now, m =>
    (Redis.call limits decode now m c).1 ::
      Redis.replies run now (Redis.call limits decode now m c).2
  | .pass seconds :: run, now, m => Redis.replies run (now + seconds) m
  | .cleanup :: run, now, m => Redis.replies run now m

end Boltz.Caches

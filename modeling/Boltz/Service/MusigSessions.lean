import Boltz.Async.Transitions
import Boltz.Consts.Enums

/-!
# Nonces of the cooperative signers (`CoopSignerBase.ts`, `DeferredClaimer.ts`,
`ChainSwapSigner.ts`, `asset_rescue.rs`)

The calls that generate a nonce or sign with one, as steps of one process. What happens between two
awaits is one step; so reading the session of a claim, verifying the signature of the client and
signing is one. A lock is held by the call in its field, and a call that waits for it has not
started. `signed` keeps every `signPartial`, the newest first.
-/

namespace Boltz.MusigSessions

open Async

/-- An entry of a map of claims. The objects are shared, and hold the session. -/
structure Entry (Key : Type) where
  key : Key
  object : Nat
  deriving DecidableEq, Repr

/-- `swapsToClaim` and `chainSwapsToClaim` of the deferred claimer, by symbol and id. -/
structure DeferredKey where
  symbol : Nat
  type : SwapType
  id : Nat
  deriving DecidableEq, Repr

/-- Who holds `batchClaimLock`. -/
inductive BatchCall where
  /-- `broadcastCooperative`, before it takes `swapsToClaimLock` -/
  | selected (claim : Entry DeferredKey)
  /-- with that lock, it waits for the broadcast and the fee of the signed transaction -/
  | broadcasting (claim : Entry DeferredKey)
  /-- `batchClaim`, with the claims that are left -/
  | batch (claims : List (Entry DeferredKey))
  deriving DecidableEq, Repr

/-- Who holds `cooperativeBroadcastLock`: calls of `signClaim`. -/
inductive ClaimCall where
  | started (id : Nat)
  /-- `getToClaimDetails` has found a claim with a session -/
  | selected (claim : Entry Nat)
  | broadcasting (claim : Entry Nat)
  /-- the claim is broadcast and not yet removed -/
  | sent (claim : Entry Nat)
  deriving DecidableEq, Repr

structure State where
  /-- the nonce in `cooperative` of an object -/
  objects : Nat → Option Nat := fun _ => none
  nextObject : Nat := 0
  nextNonce : Nat := 0
  swapsToClaim : List (Entry DeferredKey) := []
  /-- `swapsToClaim` of the chain swap signer -/
  claimable : List (Entry Nat) := []
  /-- calls of `createCoopDetails`, by their objects -/
  details : List Nat := []
  batchClaim : Option BatchCall := none
  cooperativeBroadcast : Option ClaimCall := none
  /-- the cache of the pending rescues -/
  rescues : List (Nat × Nat) := []
  /-- calls of `AssetRescue::create` that found no pending rescue -/
  creating : List Nat := []
  /-- nonces that `AssetRescue::broadcast` took from the cache -/
  taken : List Nat := []
  signed : List Nat := []

inductive Op where
  /-- `deferClaim` stores its claim -/
  | deferClaim (key : DeferredKey)
  | registerForClaim (id : Nat)
  | removeFromClaimable (id : Nat)
  | getCooperativeDetails (key : DeferredKey)
  | getChainSwapDetails (id : Nat)
  /-- the end of the `i`-th call of `createCoopDetails` -/
  | detailsCreated (i : Nat)
  | detailsFailed (i : Nat)
  | broadcastCooperative (key : DeferredKey)
  | signDeferred (valid : Bool)
  | deferredBroadcast (ok : Bool)
  | sweepSymbol (symbol : Nat)
  /-- the next `size` claims of a batch -/
  | chunk (size : Nat) (claimed : Bool)
  | signClaim (id : Nat)
  | getToClaimDetails
  | signCooperatively (valid : Bool)
  | claimBroadcast (ok : Bool)
  | claimRemoved
  /-- `signClaim` throws, or settles the swap in another way -/
  | signClaimEnded
  /-- `createPartialSignature` of a refund or of the claim of the client -/
  | createPartialSignature
  | createRescue (id : Nat)
  | rescueFailed (i : Nat)
  | rescueCreated (i : Nat)
  | broadcastRescue (id : Nat)
  | signRescue (i : Nat) (valid : Bool)
  | expireRescue (id : Nat)
  deriving DecidableEq, Repr

namespace State

variable {Key : Type} [DecidableEq Key]

/-! ## Maps -/

def get (map : List (Entry Key)) (key : Key) : Option (Entry Key) := map.find? (·.key = key)

def delete (map : List (Entry Key)) (key : Key) : List (Entry Key) := map.filter (·.key ≠ key)

/-- The order of a map is that of the first `set` of a key in JavaScript; it has no effect here. -/
def set (map : List (Entry Key)) (entry : Entry Key) : List (Entry Key) :=
  delete map entry.key ++ [entry]

/-- `swapsToClaimLock` is held across an await only by `broadcastCooperative`. -/
def claimsLocked (s : State) : Bool :=
  match s.batchClaim with
  | some (.broadcasting _) => true
  | _ => false

/-! ## Nonces -/

def sign (s : State) (nonce : Nat) : State := { s with signed := nonce :: s.signed }

/-- `generateNonce`, which makes the nonce the session of the object. -/
def generateNonce (s : State) (object : Nat) : State :=
  { s with
    objects := fun o => if o = object then some s.nextNonce else s.objects o
    nextNonce := s.nextNonce + 1 }

/-! ## Claims -/

def deferClaim (s : State) (key : DeferredKey) : State :=
  { s with
    swapsToClaim := set s.swapsToClaim ⟨key, s.nextObject⟩
    nextObject := s.nextObject + 1 }

def registerForClaim (s : State) (id : Nat) : State :=
  match get s.claimable id with
  | some _ => s
  | none =>
    { s with claimable := set s.claimable ⟨id, s.nextObject⟩, nextObject := s.nextObject + 1 }

/-- A claim that has a session, after the signature of the client was checked. -/
def signSession (s : State) (object : Nat) (valid : Bool) : Option State :=
  if valid then (s.objects object).map s.sign else none

/-- The claims of the symbol are taken out of the maps. -/
def takeToClaim (s : State) (symbol : Nat) : State :=
  { s with swapsToClaim := s.swapsToClaim.filter (·.key.symbol ≠ symbol) }

/-- A chunk of a batch that failed is put back. -/
def restoreToClaim (s : State) (claims : List (Entry DeferredKey)) : State :=
  { s with swapsToClaim := claims.foldl set s.swapsToClaim }

def afterChunk (s : State) (rest : List (Entry DeferredKey)) : State :=
  { s with batchClaim := if rest.isEmpty then none else some (.batch rest) }

def step (s : State) : Op → Option State
  | .deferClaim key => if s.claimsLocked then none else some (s.deferClaim key)
  | .registerForClaim id => some (s.registerForClaim id)
  | .removeFromClaimable id => some { s with claimable := delete s.claimable id }
  | .getCooperativeDetails key =>
    if s.claimsLocked then none
    else (get s.swapsToClaim key).map fun claim => { s with details := s.details ++ [claim.object] }
  | .getChainSwapDetails id =>
    (get s.claimable id).map fun claim => { s with details := s.details ++ [claim.object] }
  | .detailsCreated i =>
    s.details[i]?.map fun object =>
      { s.generateNonce object with details := s.details.eraseIdx i }
  | .detailsFailed i => s.details[i]?.map fun _ => { s with details := s.details.eraseIdx i }
  | .broadcastCooperative key =>
    match s.batchClaim, get s.swapsToClaim key with
    | none, some claim =>
      if (s.objects claim.object).isSome then
        some { s with batchClaim := some (.selected claim) }
      else none
    | _, _ => none
  | .signDeferred valid =>
    match s.batchClaim with
    | some (.selected claim) =>
      match s.signSession claim.object valid with
      | some s => some { s with batchClaim := some (.broadcasting claim) }
      | none => some { s with batchClaim := none }
    | _ => none
  | .deferredBroadcast ok =>
    match s.batchClaim with
    | some (.broadcasting claim) =>
      some
        { s with
          batchClaim := none
          swapsToClaim := if ok then delete s.swapsToClaim claim.key else s.swapsToClaim }
    | _ => none
  | .sweepSymbol symbol =>
    match s.batchClaim with
    | none => some ((s.takeToClaim symbol).afterChunk
        (s.swapsToClaim.filter (·.key.symbol = symbol)))
    | some _ => none
  | .chunk size claimed =>
    match s.batchClaim with
    | some (.batch claims) =>
      let s := if claimed then s else s.restoreToClaim (claims.take size)
      some (s.afterChunk (claims.drop size))
    | _ => none
  | .signClaim id =>
    match s.cooperativeBroadcast with
    | none => some { s with cooperativeBroadcast := some (.started id) }
    | some _ => none
  | .getToClaimDetails =>
    match s.cooperativeBroadcast with
    | some (.started id) =>
      match get s.claimable id with
      | some claim =>
        if (s.objects claim.object).isSome then
          some { s with cooperativeBroadcast := some (.selected claim) }
        else none
      | none => none
    | _ => none
  | .signCooperatively valid =>
    match s.cooperativeBroadcast with
    | some (.selected claim) =>
      match s.signSession claim.object valid with
      | some s => some { s with cooperativeBroadcast := some (.broadcasting claim) }
      | none => some { s with cooperativeBroadcast := none }
    | _ => none
  | .claimBroadcast ok =>
    match s.cooperativeBroadcast with
    | some (.broadcasting claim) =>
      some { s with cooperativeBroadcast := if ok then some (.sent claim) else none }
    | _ => none
  | .claimRemoved =>
    match s.cooperativeBroadcast with
    | some (.sent claim) =>
      some
        { s with
          cooperativeBroadcast := none
          claimable := delete s.claimable claim.key }
    | _ => none
  | .signClaimEnded =>
    match s.cooperativeBroadcast with
    | some (.started _) => some { s with cooperativeBroadcast := none }
    | _ => none
  | .createPartialSignature => some { s.sign s.nextNonce with nextNonce := s.nextNonce + 1 }
  | .createRescue id =>
    if s.rescues.any (·.1 = id) then none else some { s with creating := s.creating ++ [id] }
  | .rescueFailed i => s.creating[i]?.map fun _ => { s with creating := s.creating.eraseIdx i }
  | .rescueCreated i =>
    s.creating[i]?.map fun id =>
      { s with
        creating := s.creating.eraseIdx i
        rescues := s.rescues.filter (·.1 ≠ id) ++ [(id, s.nextNonce)]
        nextNonce := s.nextNonce + 1 }
  | .broadcastRescue id =>
    (s.rescues.find? (·.1 = id)).map fun rescue =>
      { s with rescues := s.rescues.filter (·.1 ≠ id), taken := s.taken ++ [rescue.2] }
  | .signRescue i valid =>
    s.taken[i]?.map fun nonce =>
      let s := { s with taken := s.taken.eraseIdx i }
      if valid then s.sign nonce else s
  | .expireRescue id => some { s with rescues := s.rescues.filter (·.1 ≠ id) }

/-- What comes after the signature of a cooperative claim does not fail. -/
def broadcastSucceeds : State → Op → Bool
  | _, .deferredBroadcast ok => ok
  | _, .claimBroadcast ok => ok
  | _, _ => true

end State

end Boltz.MusigSessions

import Mathlib.Algebra.BigOperators.Group.List.Basic
import Mathlib.Algebra.Module.Basic
import Mathlib.Tactic.Abel
import Mathlib.Tactic.LinearCombination
import Mathlib.Tactic.Module
import Mathlib.Tactic.Ring

/-!
# Joint Schnorr signatures

Several keys sign a message together. Their public keys and nonces are added up, every key signs its
part of the message with its own nonce, and the sum of these parts is a signature of the sum of the
keys. Points are known only up to their sign, so that every sum is negated when it is not even.
-/

namespace Schnorr

/-- A group with a generator. Of a point and its negation exactly one is even. -/
structure Curve (F G : Type) [CommRing F] [AddCommGroup G] [Module F G] where
  generator : G
  even : G → Bool
  even_neg : ∀ p, p ≠ 0 → even (-p) = !even p

/-- The hashes. -/
structure Scheme (F G Message Rand : Type) [CommRing F] [AddCommGroup G] [Module F G] extends
    Curve F G where
  /-- of a key in a list of keys -/
  coefficient : List G → G → F
  /-- of the sums of the nonces, an even key and a message -/
  nonceCoefficient : G × G → G → Message → F
  /-- of an even nonce, an even key and a message -/
  challenge : G → G → Message → F
  /-- from randomness, an even key, the key of the signer and the message -/
  secretNonce : Rand → G → G → Message → F × F

/-- The sum of keys, which may be negated and moved by tweaks. -/
structure KeyAgg (F G : Type) where
  keys : List G
  point : G
  sign : F
  tweak : F

structure Session (F G : Type) where
  nonce : G
  coefficient : F
  challenge : F
  /-- the part of the signature that is for the tweaks -/
  tweak : F

section

variable {F G Message Rand : Type} [CommRing F] [AddCommGroup G] [Module F G]

namespace Curve

variable (c : Curve F G)

/-- The sign that makes a point even. -/
def sign (p : G) : F := if c.even p then 1 else -1

def lift (p : G) : G := if c.even p then p else -p

theorem sign_smul (p : G) : c.sign p • p = c.lift p := by
  unfold sign lift
  split
  · exact one_smul F p
  · exact neg_one_smul F p

theorem even_lift {p : G} (hp : p ≠ 0) : c.even (c.lift p) = true := by
  unfold lift
  split
  · assumption
  · rename_i hodd
    rw [c.even_neg p hp, Bool.eq_false_of_not_eq_true hodd, Bool.not_false]

theorem lift_ne_zero {p : G} (hp : p ≠ 0) : c.lift p ≠ 0 := by
  unfold lift
  split
  · exact hp
  · exact neg_ne_zero.mpr hp

end Curve

namespace Scheme

variable [DecidableEq G] (s : Scheme F G Message Rand)

def keyAgg (keys : List G) : KeyAgg F G where
  keys := keys
  point := (keys.map fun key => s.coefficient keys key • key).sum
  sign := 1
  tweak := 0

/-- Moves the even sum of the keys, which must not become zero. -/
def tweakAdd (cache : KeyAgg F G) (t : F) : Option (KeyAgg F G) :=
  let point := s.lift cache.point + t • s.generator
  if point = 0 then none
  else some
    { keys := cache.keys
      point := point
      sign := s.sign cache.point * cache.sign
      tweak := t + s.sign cache.point * cache.tweak }

def nonceGen (cache : KeyAgg F G) (rand : Rand) (key : G) (message : Message) :
    (F × F) × (G × G) :=
  let secret := s.secretNonce rand (s.lift cache.point) key message
  (secret, (secret.1 • s.generator, secret.2 • s.generator))

def aggregateNonces (nonces : List (G × G)) : G × G :=
  ((nonces.map (·.1)).sum, (nonces.map (·.2)).sum)

/-- The sum of all nonces. -/
def nonceSum (cache : KeyAgg F G) (aggnonce : G × G) (message : Message) : G :=
  aggnonce.1 + s.nonceCoefficient aggnonce (s.lift cache.point) message • aggnonce.2

/-- A sum that is zero is replaced by the generator. -/
def session (cache : KeyAgg F G) (aggnonce : G × G) (message : Message) : Session F G :=
  let sum := s.nonceSum cache aggnonce message
  let nonce := if sum = 0 then s.generator else sum
  let challenge := s.challenge (s.lift nonce) (s.lift cache.point) message
  { nonce := nonce
    coefficient := s.nonceCoefficient aggnonce (s.lift cache.point) message
    challenge := challenge
    tweak := challenge * (s.sign cache.point * cache.tweak) }

/-- The factor of a key in the signature. -/
def keyFactor (session : Session F G) (cache : KeyAgg F G) (key : G) : F :=
  session.challenge * (s.sign cache.point * cache.sign) * s.coefficient cache.keys key

def partialSign (session : Session F G) (nonce : F × F) (secret : F) (cache : KeyAgg F G) : F :=
  s.sign session.nonce * (nonce.1 + session.coefficient * nonce.2) +
    s.keyFactor session cache (secret • s.generator) * secret

def partialVerify (session : Session F G) (cache : KeyAgg F G) (signature : F) (nonce : G × G)
    (key : G) : Bool :=
  signature • s.generator =
    s.sign session.nonce • (nonce.1 + session.coefficient • nonce.2) +
      s.keyFactor session cache key • key

/-- The even nonce and the sum of all partial signatures. -/
def aggregate (session : Session F G) (signatures : List F) : G × F :=
  (s.lift session.nonce, signatures.sum + session.tweak)

/-- Of an even key. -/
def verify (signature : G × F) (key : G) (message : Message) : Bool :=
  let nonce := signature.2 • s.generator - s.challenge signature.1 key message • key
  decide (nonce ≠ 0) && s.even nonce && decide (nonce = signature.1)

/-- Sums of keys, also with tweaks. -/
inductive Tweaked (keys : List G) : KeyAgg F G → Prop
  | keyAgg : Tweaked keys (s.keyAgg keys)
  | tweakAdd {cache cache' : KeyAgg F G} {t : F} :
    Tweaked keys cache → s.tweakAdd cache t = some cache' → Tweaked keys cache'

variable {s} {keys : List G} {cache : KeyAgg F G} {message : Message}

theorem partialVerify_partialSign (session : Session F G) (cache cache' : KeyAgg F G) (rand : Rand)
    (secret : F) (message : Message) :
    s.partialVerify session cache
      (s.partialSign session (s.nonceGen cache' rand (secret • s.generator) message).1 secret cache)
      (s.nonceGen cache' rand (secret • s.generator) message).2 (secret • s.generator) = true := by
  refine decide_eq_true ?_
  simp only [partialSign, nonceGen]
  module

/-! ## Sums -/

theorem tweakAdd_eq_some {t : F} {cache' : KeyAgg F G} (h : s.tweakAdd cache t = some cache') :
    cache' =
      { keys := cache.keys
        point := s.lift cache.point + t • s.generator
        sign := s.sign cache.point * cache.sign
        tweak := t + s.sign cache.point * cache.tweak } := by
  unfold tweakAdd at h
  dsimp only at h
  split at h
  · cases h
  · exact (Option.some.inj h).symm

theorem Tweaked.keys_eq (h : s.Tweaked keys cache) : cache.keys = keys := by
  induction h with
  | keyAgg => rfl
  | tweakAdd _ ht ih => rwa [tweakAdd_eq_some ht]

/-- What all signs and tweaks did to the sum of the keys. -/
theorem Tweaked.point_eq (h : s.Tweaked keys cache) :
    cache.point = cache.sign • (keys.map fun key => s.coefficient keys key • key).sum +
      cache.tweak • s.generator := by
  induction h with
  | keyAgg => rw [Scheme.keyAgg, one_smul, zero_smul, add_zero]
  | @tweakAdd cache cache' t _ ht ih =>
    rw [tweakAdd_eq_some ht]
    simp only [← s.sign_smul]
    generalize s.sign cache.point = sign
    rw [ih]
    module

/-- The sum of valid partial signatures. -/
theorem sum_smul_generator {session : Session F G} {signatures : List F} {nonces : List (G × G)} :
    ∀ {keys : List G}, nonces.length = keys.length →
      List.Forall₂ (fun signature entry =>
        s.partialVerify session cache signature entry.1 entry.2 = true) signatures
        (nonces.zip keys) →
      signatures.sum • s.generator = s.sign session.nonce • ((aggregateNonces nonces).1 +
          session.coefficient • (aggregateNonces nonces).2) +
        (keys.map fun key => s.keyFactor session cache key • key).sum := by
  induction nonces generalizing signatures with
  | nil =>
    intro keys hlength h
    obtain rfl : keys = [] := List.length_eq_zero_iff.mp hlength.symm
    cases h
    simp [aggregateNonces]
  | cons nonce nonces ih =>
    intro keys hlength h
    cases keys with
    | nil => cases hlength
    | cons key keys =>
      cases h with
      | cons hvalid hrest =>
        have hsum := ih (Nat.succ.inj hlength) hrest
        have hvalid := of_decide_eq_true hvalid
        simp only [aggregateNonces, List.map_cons, List.sum_cons] at hsum hvalid ⊢
        rw [add_smul, hvalid, hsum]
        module

omit [DecidableEq G] in
theorem keyFactor_sum {session : Session F G} (hkeys : cache.keys = keys) :
    (keys.map fun key => s.keyFactor session cache key • key).sum =
      (session.challenge * (s.sign cache.point * cache.sign)) •
        (keys.map fun key => s.coefficient keys key • key).sum := by
  rw [List.smul_sum, List.map_map]
  refine congrArg List.sum (List.map_congr_left fun key _ => ?_)
  rw [keyFactor, hkeys, mul_smul, Function.comp_apply]

/-- Valid partial signatures of all keys add up to a signature of the sum of the keys, if the nonces
do not add up to zero. -/
theorem verify_aggregate (hcache : s.Tweaked keys cache) {nonces : List (G × G)}
    (hnonces : nonces.length = keys.length)
    (hsum : s.nonceSum cache (aggregateNonces nonces) message ≠ 0) {signatures : List F}
    (h : List.Forall₂ (fun signature entry =>
      s.partialVerify (s.session cache (aggregateNonces nonces) message) cache signature entry.1
        entry.2 = true) signatures (nonces.zip keys)) :
    s.verify (s.aggregate (s.session cache (aggregateNonces nonces) message) signatures)
      (s.lift cache.point) message = true := by
  have hnonce : (s.session cache (aggregateNonces nonces) message).nonce =
      s.nonceSum cache (aggregateNonces nonces) message := if_neg hsum
  have hgenerated := sum_smul_generator hnonces h
  rw [keyFactor_sum hcache.keys_eq] at hgenerated
  have hpoint := hcache.point_eq
  generalize hsession : s.session cache (aggregateNonces nonces) message = session at *
  have hcoefficient : (aggregateNonces nonces).1 +
      session.coefficient • (aggregateNonces nonces).2 = session.nonce := by
    rw [hnonce, ← hsession]
    rfl
  have hchallenge : s.challenge (s.lift session.nonce) (s.lift cache.point) message =
      session.challenge := by rw [← hsession]; rfl
  have htweak : session.tweak = session.challenge * (s.sign cache.point * cache.tweak) := by
    rw [← hsession]
    rfl
  rw [hcoefficient, s.sign_smul] at hgenerated
  have hequation : (signatures.sum + session.tweak) • s.generator -
      session.challenge • s.lift cache.point = s.lift session.nonce := by
    rw [← s.sign_smul cache.point, add_smul, hgenerated, htweak]
    generalize s.sign cache.point = sign
    rw [hpoint]
    module
  simp only [verify, aggregate, hchallenge, hequation, Bool.and_eq_true, decide_eq_true_iff]
  rw [← hnonce] at hsum
  exact ⟨⟨s.lift_ne_zero hsum, s.even_lift hsum⟩, trivial⟩

end Scheme

end

end Schnorr

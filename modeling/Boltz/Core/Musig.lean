import Boltz.Core.ConstructTx
import Boltz.Core.JointSchnorr

/-!
# MuSig2 (`boltz-core/src/musig.rs`)

The builder of a participant goes through the states of a signing session. Its methods exist only in
the states that they are for, and what a state guarantees is expected to be there.
-/

namespace Boltz.Core.Musig

/-- The MuSig2 functions of the `secp256k1` crate. -/
structure Secp where
  Keypair : Type
  PublicKey : Type
  Scalar : Type
  Rand : Type
  SecretNonce : Type
  PublicNonce : Type
  KeyAggCache : Type
  AggregatedNonce : Type
  Session : Type
  PartialSignature : Type
  AggregatedSignature : Type
  XOnlyPublicKey : Type
  decEqPublicKey : DecidableEq PublicKey
  decEqPublicNonce : DecidableEq PublicNonce
  publicKey : Keypair → PublicKey
  /-- serialized and encoded as hex -/
  hex : PublicKey → String
  keyAgg : List PublicKey → KeyAggCache
  aggPk : KeyAggCache → XOnlyPublicKey
  pubkeyXonlyTweakAdd : KeyAggCache → Scalar → Option KeyAggCache
  nonceGen : KeyAggCache → Rand → PublicKey → FixedBytes 32 → SecretNonce × PublicNonce
  aggregateNonces : List PublicNonce → AggregatedNonce
  session : KeyAggCache → AggregatedNonce → FixedBytes 32 → Session
  partialSign : Session → SecretNonce → Keypair → KeyAggCache → PartialSignature
  partialVerify : Session → KeyAggCache → PartialSignature → PublicNonce → PublicKey → Bool
  partialSigAgg : Session → List PartialSignature → AggregatedSignature
  verify : AggregatedSignature → XOnlyPublicKey → FixedBytes 32 → Bool

attribute [instance] Secp.decEqPublicKey Secp.decEqPublicNonce

inductive MusigError
  | ourKeyNotInList
  | keyNotFound
  | ourNonceNotGenerated
  | incorrectNonceCount
  | nonceNotFoundForKey (key : String)
  | ourNonceWrongIndex
  | invalidPartialSignature
  | missingPartialSignature
  | invalidTweak
  deriving DecidableEq

inductive Failure
  | error (e : MusigError)
  | panic (message : String)
  deriving DecidableEq

def expect {α : Type} (o : Option α) (message : String) : Except Failure α :=
  match o with
  | some a => .ok a
  | none => .error (.panic message)

@[simp] theorem expect_some {α : Type} (a : α) (message : String) :
    expect (some a) message = .ok a := rfl

theorem expect_eq_ok {α : Type} {o : Option α} {message : String} {a : α} :
    expect o message = .ok a ↔ o = some a := by
  cases o with
  | none => exact ⟨fun h => (nomatch h), fun h => (nomatch h)⟩
  | some b => exact ⟨fun h => congrArg some (Except.ok.inj h), fun h => by cases h; rfl⟩

/-! ## The builder -/

inductive State
  | noMessage
  | missingNonce
  | nonceGenerated
  | noncesAggregated
  | sessionInitialized

/-- Whether the partial signature of the participant was made. -/
inductive Signedness
  | unsigned
  | signed

structure MusigBuilder (lib : Secp) (S : State) (T : Signedness) where
  key : lib.Keypair
  msg : Option (FixedBytes 32)
  nonce : Option (lib.SecretNonce × lib.PublicNonce)
  aggcache : lib.KeyAggCache
  pubKeys : List lib.PublicKey
  pubNonces : Option (List lib.PublicNonce)
  aggnonce : Option lib.AggregatedNonce
  session : Option lib.Session
  partialSigs : List (Option lib.PartialSignature)

abbrev Setup (lib : Secp) := MusigBuilder lib .noMessage .unsigned

abbrev WithMessage (lib : Secp) := MusigBuilder lib .missingNonce .unsigned

abbrev WithNonce (lib : Secp) := MusigBuilder lib .nonceGenerated .unsigned

abbrev WithAggregatedNonces (lib : Secp) := MusigBuilder lib .noncesAggregated .unsigned

abbrev WithSession (lib : Secp) := MusigBuilder lib .sessionInitialized .unsigned

abbrev SignedSession (lib : Secp) := MusigBuilder lib .sessionInitialized .signed

variable {lib : Secp} {S : State} {T : Signedness}

def ourKeyExpected : String := "our public key is in pub_keys (checked at builder construction)"

def slotExpected : String := "partial_sigs.len() == pub_keys.len() (builder invariant)"

def sessionExpected : String := "SessionInitialized state guarantees session is set"

namespace MusigBuilder

/-- The same fields in another state. -/
def enter (b : MusigBuilder lib S T) (S' : State) (T' : Signedness) : MusigBuilder lib S' T' where
  key := b.key
  msg := b.msg
  nonce := b.nonce
  aggcache := b.aggcache
  pubKeys := b.pubKeys
  pubNonces := b.pubNonces
  aggnonce := b.aggnonce
  session := b.session
  partialSigs := b.partialSigs

section

variable (b : MusigBuilder lib S T)

def aggPk : lib.XOnlyPublicKey := lib.aggPk b.aggcache

def ourKey : lib.PublicKey := lib.publicKey b.key

/-- The first position of a key. -/
def keyIndex (key : lib.PublicKey) : Except Failure Nat :=
  match b.pubKeys.findIdx? (· = key) with
  | some index => .ok index
  | none => .error (.error .keyNotFound)

def ourIndex : Except Failure Nat := b.keyIndex b.ourKey

/-- The position of the own key, which has to be there. -/
def expectOurIndex : Except Failure Nat := expect b.ourIndex.toOption ourKeyExpected

end

end MusigBuilder

open MusigBuilder

def Setup.new (key : lib.Keypair) (pubKeys : List lib.PublicKey) : Except Failure (Setup lib) :=
  if lib.publicKey key ∈ pubKeys then
    .ok
      { key := key
        msg := none
        nonce := none
        aggcache := lib.keyAgg pubKeys
        pubKeys := pubKeys
        pubNonces := none
        aggnonce := none
        session := none
        partialSigs := List.replicate pubKeys.length none }
  else .error (.error .ourKeyNotInList)

def Setup.xonlyTweakAdd (b : Setup lib) (tweak : lib.Scalar) : Except Failure (Setup lib) :=
  match lib.pubkeyXonlyTweakAdd b.aggcache tweak with
  | some aggcache => .ok { b with aggcache := aggcache }
  | none => .error (.error .invalidTweak)

def Setup.message (b : Setup lib) (msg : FixedBytes 32) : WithMessage lib :=
  { b.enter .missingNonce .unsigned with msg := some msg }

def WithMessage.generateNonce (b : WithMessage lib) (rand : lib.Rand) :
    Except Failure (WithNonce lib) := do
  let msg ← expect b.msg "WithMessage state guarantees message is set"
  .ok { b.enter .nonceGenerated .unsigned with
    nonce := some (lib.nonceGen b.aggcache rand b.ourKey msg) }

/-- After the nonces were parsed. -/
def WithMessage.dangerousSetNonce (b : WithMessage lib) (secNonce : lib.SecretNonce)
    (pubNonce : lib.PublicNonce) : WithNonce lib :=
  { b.enter .nonceGenerated .unsigned with nonce := some (secNonce, pubNonce) }

def WithNonce.pubNonce (b : WithNonce lib) : Except Failure lib.PublicNonce :=
  expect (b.nonce.map (·.2)) "WithNonce state guarantees nonce is set"

/-- Uses the builder up. -/
def WithNonce.dangerousSecnonce (b : WithNonce lib) : Except Failure lib.SecretNonce := do
  let nonce ← expect b.nonce "WithNonce state guarantees nonce is set"
  .ok nonce.1

/-- The nonce of participant `i` is the one at position `i`. -/
def WithNonce.aggregateNoncesOrdered (b : WithNonce lib) (nonces : List lib.PublicNonce) :
    Except Failure (WithAggregatedNonces lib) :=
  if nonces.length ≠ b.pubKeys.length then .error (.error .incorrectNonceCount)
  else match b.nonce with
    | none => .error (.error .ourNonceNotGenerated)
    | some (_, ourNonce) => do
      let ourIndex ← b.expectOurIndex
      if nonces[ourIndex]? ≠ some ourNonce then .error (.error .ourNonceWrongIndex)
      else
        .ok { b.enter .noncesAggregated .unsigned with
          aggnonce := some (lib.aggregateNonces nonces)
          pubNonces := some nonces }

/-- The own nonce is added to the given ones when there is none for the own key. -/
def WithNonce.withOurNonce (b : WithNonce lib) (nonces : List (lib.PublicKey × lib.PublicNonce)) :
    Except Failure (List (lib.PublicKey × lib.PublicNonce)) :=
  if nonces.any fun entry => entry.1 = b.ourKey then .ok nonces
  else match b.nonce with
    | some (_, ourNonce) => .ok (nonces ++ [(b.ourKey, ourNonce)])
    | none => .error (.error .ourNonceNotGenerated)

/-- The first nonce for a key. -/
def findNonce (nonces : List (lib.PublicKey × lib.PublicNonce)) (key : lib.PublicKey) :
    Except Failure lib.PublicNonce :=
  match nonces.find? fun entry => entry.1 = key with
  | some (_, nonce) => .ok nonce
  | none => .error (.error (.nonceNotFoundForKey (lib.hex key)))

def WithNonce.aggregateNonces (b : WithNonce lib)
    (nonces : List (lib.PublicKey × lib.PublicNonce)) :
    Except Failure (WithAggregatedNonces lib) := do
  let nonces ← b.withOurNonce nonces
  if nonces.length ≠ b.pubKeys.length then .error (.error .incorrectNonceCount)
  else
    let ordered ← b.pubKeys.mapM (findNonce nonces)
    b.aggregateNoncesOrdered ordered

def WithAggregatedNonces.initializeSession (b : WithAggregatedNonces lib) :
    Except Failure (WithSession lib) := do
  let aggnonce ← expect b.aggnonce "WithAggregatedNonces state guarantees aggnonce is set"
  let msg ← expect b.msg "WithAggregatedNonces state guarantees message is set"
  .ok { b.enter .sessionInitialized .unsigned with
    session := some (lib.session b.aggcache aggnonce msg) }

section

variable (b : MusigBuilder lib .sessionInitialized T)

def MusigBuilder.partialVerify (key : lib.PublicKey) (sig : lib.PartialSignature) :
    Except Failure Bool := do
  let index ← b.keyIndex key
  let pubNonces ← expect b.pubNonces "SessionInitialized state guarantees pub_nonces is set"
  let nonce ← expect pubNonces[index]? "pub_nonces.len() == pub_keys.len() (builder invariant)"
  let session ← expect b.session sessionExpected
  .ok (lib.partialVerify session b.aggcache sig nonce key)

/-- Only what verifies is stored. -/
def MusigBuilder.partialAdd (key : lib.PublicKey) (sig : lib.PartialSignature) :
    Except Failure (MusigBuilder lib .sessionInitialized T) := do
  let valid ← b.partialVerify key sig
  if valid then
    let index ← b.keyIndex key
    let _ ← expect b.partialSigs[index]? slotExpected
    .ok { b with partialSigs := b.partialSigs.set index (some sig) }
  else .error (.error .invalidPartialSignature)

end

/-- Uses the secret nonce up. Only with debug assertions the own slot has to be empty. -/
def WithSession.partialSign (debugAssertions : Bool) (b : WithSession lib) :
    Except Failure (SignedSession lib) := do
  let session ← expect b.session sessionExpected
  let nonce ← expect b.nonce "SessionInitialized + Unsigned state guarantees nonce is set"
  let sig := lib.partialSign session nonce.1 b.key b.aggcache
  let ourIndex ← b.expectOurIndex
  let ourSlot ← expect b.partialSigs[ourIndex]? slotExpected
  if debugAssertions && ourSlot.isSome then
    .error (.panic "assertion failed: our_slot.is_none()")
  else
    .ok { b.enter .sessionInitialized .signed with
      nonce := none
      partialSigs := b.partialSigs.set ourIndex (some sig) }

def MusigBuilder.ourPartialSignature (b : MusigBuilder lib S .signed) :
    Except Failure lib.PartialSignature := do
  let ourIndex ← b.expectOurIndex
  let slot ← expect b.partialSigs[ourIndex]? slotExpected
  expect slot "Signed state guarantees our partial signature is filled"

def filled (slot : Option lib.PartialSignature) : Except Failure lib.PartialSignature :=
  match slot with
  | some sig => .ok sig
  | none => .error (.error .missingPartialSignature)

def SignedSession.partialAggregate (b : SignedSession lib) :
    Except Failure lib.AggregatedSignature := do
  let session ← expect b.session sessionExpected
  let sigs ← b.partialSigs.mapM filled
  .ok (lib.partialSigAgg session sigs)

end Boltz.Core.Musig

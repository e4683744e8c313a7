import Boltz.Core.Musig
import Mathlib.Data.ZMod.Basic

/-!
# Joint signatures are valid

Whatever the other participants send, a signing session ends with a valid signature or with an error
that says what is missing, and never with a failed expectation.
-/

namespace Boltz.Core.Musig

variable {lib : Secp} {S : State} {T : Signedness}

/-! ## What the library guarantees -/

/-- A key that was aggregated, and tweaked since. -/
inductive Tweaked (lib : Secp) (pubKeys : List lib.PublicKey) : lib.KeyAggCache → Prop
  | keyAgg : Tweaked lib pubKeys (lib.keyAgg pubKeys)
  | tweak {cache cache' : lib.KeyAggCache} {tweak : lib.Scalar} :
    Tweaked lib pubKeys cache → lib.pubkeyXonlyTweakAdd cache tweak = some cache' →
      Tweaked lib pubKeys cache'

/-- Signatures made with the secret nonce are valid for the public one. -/
def Matches (key : lib.Keypair) (nonce : lib.SecretNonce × lib.PublicNonce) : Prop :=
  ∀ session cache, lib.partialVerify session cache (lib.partialSign session nonce.1 key cache)
    nonce.2 (lib.publicKey key) = true

/-- Generated nonces match, and valid partial signatures of all participants are aggregated to a
valid signature, unless their nonces cancel each other out. -/
structure Lawful (lib : Secp)
    (Cancels : lib.KeyAggCache → lib.AggregatedNonce → FixedBytes 32 → Prop) : Prop where
  nonceGen : ∀ cache rand key msg, Matches key (lib.nonceGen cache rand (lib.publicKey key) msg)
  partialSigAgg : ∀ {pubKeys cache}, Tweaked lib pubKeys cache → ∀ {nonces msg},
    nonces.length = pubKeys.length → ¬Cancels cache (lib.aggregateNonces nonces) msg → ∀ {sigs},
      List.Forall₂ (fun sig entry => lib.partialVerify
        (lib.session cache (lib.aggregateNonces nonces) msg) cache sig entry.1 entry.2 = true) sigs
        (nonces.zip pubKeys) →
      lib.verify (lib.partialSigAgg (lib.session cache (lib.aggregateNonces nonces) msg) sigs)
        (lib.aggPk cache) msg = true

/-! ## Schnorr signatures -/

section

variable {F G Rand : Type} [CommRing F] [AddCommGroup G] [Module F G] [DecidableEq G]

/-- The library for a scheme of joint Schnorr signatures. -/
def ofScheme (s : Schnorr.Scheme F G (FixedBytes 32) Rand) (hex : G → String) : Secp where
  Keypair := F
  PublicKey := G
  Scalar := F
  Rand := Rand
  SecretNonce := F × F
  PublicNonce := G × G
  KeyAggCache := Schnorr.KeyAgg F G
  AggregatedNonce := G × G
  Session := Schnorr.Session F G
  PartialSignature := F
  AggregatedSignature := G × F
  XOnlyPublicKey := G
  decEqPublicKey := inferInstance
  decEqPublicNonce := inferInstance
  publicKey secret := secret • s.generator
  hex := hex
  keyAgg := s.keyAgg
  aggPk cache := s.lift cache.point
  pubkeyXonlyTweakAdd := s.tweakAdd
  nonceGen := s.nonceGen
  aggregateNonces := Schnorr.Scheme.aggregateNonces
  session := s.session
  partialSign := s.partialSign
  partialVerify := s.partialVerify
  partialSigAgg := s.aggregate
  verify := s.verify

variable {s : Schnorr.Scheme F G (FixedBytes 32) Rand} {hex : G → String}

theorem tweaked_ofScheme {pubKeys : List (ofScheme s hex).PublicKey}
    {cache : (ofScheme s hex).KeyAggCache} (h : Tweaked (ofScheme s hex) pubKeys cache) :
    Schnorr.Scheme.Tweaked s pubKeys cache := by
  induction h with
  | keyAgg => exact .keyAgg
  | tweak _ ht ih => exact .tweakAdd ih ht

theorem lawful_ofScheme : Lawful (ofScheme s hex) fun cache aggnonce msg =>
    s.nonceSum cache aggnonce msg = 0 where
  nonceGen cache rand key msg session cache' :=
    Schnorr.Scheme.partialVerify_partialSign session cache' cache rand key msg
  partialSigAgg hcache _ _ hlength hcancels _ h :=
    Schnorr.Scheme.verify_aggregate (tweaked_ofScheme hcache) hlength hcancels h

end

/-! ## What the states guarantee -/

/-- In all states. -/
structure Kept (b : MusigBuilder lib S T) : Prop where
  ourKey : b.ourKey ∈ b.pubKeys
  tweaked : Tweaked lib b.pubKeys b.aggcache
  slots : b.partialSigs.length = b.pubKeys.length

/-- Before there is a session. -/
structure Fresh (b : MusigBuilder lib S T) : Prop extends Kept b where
  empty : ∀ slot ∈ b.partialSigs, slot = none

/-- With a message and a nonce. -/
structure Ready (b : MusigBuilder lib S T) (msg : FixedBytes 32)
    (nonce : lib.SecretNonce × lib.PublicNonce) : Prop where
  message : b.msg = some msg
  pair : b.nonce = some nonce

/-- With the nonces of all participants, of which the own one is at the own index. -/
structure Exchanged (b : MusigBuilder lib S T) (own : lib.PublicNonce)
    (nonces : List lib.PublicNonce) : Prop where
  pubNonces : b.pubNonces = some nonces
  length : nonces.length = b.pubKeys.length
  atIndex : ∀ i : Nat, b.ourIndex = .ok i → nonces[i]? = some own

/-- The session of a message and nonces. -/
def sessionOf (b : MusigBuilder lib S T) (msg : FixedBytes 32) (nonces : List lib.PublicNonce) :
    lib.Session :=
  lib.session b.aggcache (lib.aggregateNonces nonces) msg

/-- A session for the message and the nonces. -/
structure Opened (b : MusigBuilder lib S T) (msg : FixedBytes 32) (nonces : List lib.PublicNonce) :
    Prop extends Kept b where
  message : b.msg = some msg
  session : b.session = some (sessionOf b msg nonces)

/-- The partial signature of the participant is at the own index. -/
def OwnSigned (b : MusigBuilder lib S T) : Prop :=
  ∀ i : Nat, b.ourIndex = .ok i → ∃ sig, b.partialSigs[i]? = some (some sig)

/-- What a builder has in its state. -/
def Inv : {S : State} → {T : Signedness} → MusigBuilder lib S T → Prop
  | .noMessage, _, b => Fresh b
  | .missingNonce, _, b => Fresh b ∧ ∃ msg, b.msg = some msg
  | .nonceGenerated, _, b => Fresh b ∧ ∃ msg nonce, Ready b msg nonce
  | .noncesAggregated, _, b => Fresh b ∧ ∃ msg nonce nonces, Ready b msg nonce ∧
    Exchanged b nonce.2 nonces ∧ b.aggnonce = some (lib.aggregateNonces nonces)
  | .sessionInitialized, .unsigned, b => ∃ msg nonce nonces, Opened b msg nonces ∧
    Ready b msg nonce ∧ Exchanged b nonce.2 nonces
  | .sessionInitialized, .signed, b => ∃ msg own nonces, Opened b msg nonces ∧
    Exchanged b own nonces ∧ OwnSigned b

/-- A partial signature is valid for the nonce and the key at an index. -/
def VerifiesAt (b : MusigBuilder lib S T) (i : Nat) (sig : lib.PartialSignature) : Prop :=
  ∃ session nonces nonce key, b.session = some session ∧ b.pubNonces = some nonces ∧
    nonces[i]? = some nonce ∧ b.pubKeys[i]? = some key ∧
      lib.partialVerify session b.aggcache sig nonce key = true

/-- With a nonce that matches, and only valid partial signatures. -/
structure Verified (b : MusigBuilder lib S T) : Prop where
  matching : ∀ nonce, b.nonce = some nonce → Matches b.key nonce
  valid : ∀ (i : Nat) sig, b.partialSigs[i]? = some (some sig) → VerifiesAt b i sig

/-! ## Indices -/

section

variable {b : MusigBuilder lib S T} {key : lib.PublicKey} {i : Nat}

theorem keyIndex_eq_ok (h : b.keyIndex key = .ok i) : b.pubKeys[i]? = some key := by
  unfold MusigBuilder.keyIndex at h
  split at h
  · rename_i index hindex
    cases h
    obtain ⟨hlt, hkey, -⟩ := List.findIdx?_eq_some_iff_getElem.mp hindex
    rw [List.getElem?_eq_getElem hlt, of_decide_eq_true hkey]
  · cases h

theorem keyIndex_of_mem (h : key ∈ b.pubKeys) : ∃ i, b.keyIndex key = .ok i := by
  unfold MusigBuilder.keyIndex
  split
  · exact ⟨_, rfl⟩
  · rename_i hnone
    have hne := List.findIdx?_eq_none_iff.mp hnone key h
    rw [decide_eq_true rfl] at hne
    cases hne

theorem keyIndex_eq_error {e : Failure} (h : b.keyIndex key = .error e) :
    e = .error .keyNotFound := by
  unfold MusigBuilder.keyIndex at h
  split at h
  · cases h
  · cases h
    rfl

theorem Kept.ourIndex (h : Kept b) : ∃ i, b.ourIndex = .ok i ∧ b.expectOurIndex = .ok i ∧
    b.pubKeys[i]? = some b.ourKey ∧ i < b.partialSigs.length := by
  obtain ⟨i, hi⟩ := keyIndex_of_mem h.ourKey
  have hkey := keyIndex_eq_ok hi
  refine ⟨i, hi, ?_, hkey, ?_⟩
  · rw [MusigBuilder.expectOurIndex, MusigBuilder.ourIndex, hi]
    rfl
  · rw [h.slots]
    exact (List.getElem?_eq_some_iff.mp hkey).1

theorem Kept.slot (h : Kept b) {k : lib.PublicKey} (hi : b.pubKeys[i]? = some k) :
    ∃ slot, b.partialSigs[i]? = some slot := by
  refine ⟨_, List.getElem?_eq_getElem ?_⟩
  rw [h.slots]
  exact (List.getElem?_eq_some_iff.mp hi).1

end

/-! ## Steps -/

theorem fresh_new {key : lib.Keypair} {pubKeys : List lib.PublicKey} {b : Setup lib}
    (h : Setup.new key pubKeys = .ok b) : Fresh b := by
  unfold Setup.new at h
  split at h
  · rename_i hmem
    cases h
    exact
      { ourKey := hmem
        tweaked := .keyAgg
        slots := List.length_replicate
        empty := fun slot hslot => List.eq_of_mem_replicate hslot }
  · cases h

theorem fresh_xonlyTweakAdd {b b' : Setup lib} {tweak : lib.Scalar} (hi : Fresh b)
    (h : b.xonlyTweakAdd tweak = .ok b') : Fresh b' := by
  unfold Setup.xonlyTweakAdd at h
  split at h
  · rename_i aggcache hcache
    cases h
    exact
      { ourKey := hi.ourKey
        tweaked := hi.tweaked.tweak hcache
        slots := hi.slots
        empty := hi.empty }
  · cases h

/-- The fields that are kept when a builder enters a state. -/
theorem Kept.congr {S' : State} {T' : Signedness} {b : MusigBuilder lib S T}
    {b' : MusigBuilder lib S' T'} (hi : Kept b) (hkey : b'.key = b.key)
    (hkeys : b'.pubKeys = b.pubKeys) (hcache : b'.aggcache = b.aggcache)
    (hslots : b'.partialSigs.length = b.partialSigs.length) : Kept b' where
  ourKey := by
    rw [MusigBuilder.ourKey, hkey, hkeys]
    exact hi.ourKey
  tweaked := by
    rw [hkeys, hcache]
    exact hi.tweaked
  slots := by
    rw [hslots, hkeys]
    exact hi.slots

theorem Fresh.congr {S' : State} {T' : Signedness} {b : MusigBuilder lib S T}
    {b' : MusigBuilder lib S' T'} (hi : Fresh b) (hkey : b'.key = b.key)
    (hkeys : b'.pubKeys = b.pubKeys) (hcache : b'.aggcache = b.aggcache)
    (hslots : b'.partialSigs = b.partialSigs) : Fresh b' where
  toKept := hi.toKept.congr hkey hkeys hcache (congrArg List.length hslots)
  empty := by
    rw [hslots]
    exact hi.empty

theorem generateNonce_eq {b : WithMessage lib} {msg : FixedBytes 32} (hmsg : b.msg = some msg)
    (rand : lib.Rand) :
    b.generateNonce rand = .ok { b.enter .nonceGenerated .unsigned with
      nonce := some (lib.nonceGen b.aggcache rand b.ourKey msg) } := by
  rw [WithMessage.generateNonce, hmsg]
  rfl

theorem aggregateNoncesOrdered_ok {b : WithNonce lib} {nonces : List lib.PublicNonce}
    {b' : WithAggregatedNonces lib} (h : b.aggregateNoncesOrdered nonces = .ok b') :
    nonces.length = b.pubKeys.length ∧ (∃ nonce index, b.nonce = some nonce ∧
      b.ourIndex = .ok index ∧ nonces[index]? = some nonce.2) ∧
    b' = { b.enter .noncesAggregated .unsigned with
      aggnonce := some (lib.aggregateNonces nonces)
      pubNonces := some nonces } := by
  unfold WithNonce.aggregateNoncesOrdered at h
  split at h
  · cases h
  · rename_i hlength
    split at h
    · cases h
    · rename_i secret own hnonce
      obtain ⟨index, hindex, h⟩ := bind_eq_ok.mp h
      split at h
      · cases h
      · rename_i hown
        cases h
        have hindex := expect_eq_ok.mp hindex
        have hour : b.ourIndex = .ok index := by
          cases hour : b.ourIndex with
          | error e => rw [hour] at hindex; cases hindex
          | ok i => rw [hour] at hindex; exact congrArg Except.ok (Option.some.inj hindex)
        exact ⟨not_not.mp hlength, ⟨_, index, hnonce, hour, not_not.mp hown⟩, rfl⟩

theorem aggregateNonces_ok {b : WithNonce lib} {nonces : List (lib.PublicKey × lib.PublicNonce)}
    {b' : WithAggregatedNonces lib} (h : b.aggregateNonces nonces = .ok b') :
    ∃ ordered, b.aggregateNoncesOrdered ordered = .ok b' := by
  obtain ⟨all, -, h⟩ := bind_eq_ok.mp h
  split at h
  · cases h
  · obtain ⟨ordered, -, h⟩ := bind_eq_ok.mp h
    exact ⟨ordered, h⟩

theorem inv_aggregateNoncesOrdered {b : WithNonce lib} {nonces : List lib.PublicNonce}
    {b' : WithAggregatedNonces lib} (hi : Inv b) (h : b.aggregateNoncesOrdered nonces = .ok b') :
    Inv b' := by
  obtain ⟨hfresh, msg, nonce, hready⟩ := hi
  obtain ⟨hlength, ⟨nonce', index, hnonce, hindex, hown⟩, rfl⟩ := aggregateNoncesOrdered_ok h
  obtain rfl : nonce = nonce' := Option.some.inj (hready.pair.symm.trans hnonce)
  refine ⟨hfresh.congr rfl rfl rfl rfl, msg, nonce, nonces, ⟨hready.message, hready.pair⟩,
    ⟨rfl, hlength, fun i hi => ?_⟩, rfl⟩
  obtain rfl : i = index := Except.ok.inj (hi.symm.trans hindex)
  exact hown

theorem initializeSession_eq {b : WithAggregatedNonces lib} {msg : FixedBytes 32}
    {nonces : List lib.PublicNonce} (hmsg : b.msg = some msg)
    (haggnonce : b.aggnonce = some (lib.aggregateNonces nonces)) :
    b.initializeSession = .ok { b.enter .sessionInitialized .unsigned with
      session := some (sessionOf b msg nonces) } := by
  rw [WithAggregatedNonces.initializeSession, haggnonce, hmsg]
  rfl

theorem inv_initializeSession {b : WithAggregatedNonces lib} {b' : WithSession lib} (hi : Inv b)
    (h : b.initializeSession = .ok b') : Inv b' := by
  obtain ⟨hfresh, msg, nonce, nonces, hready, hexchanged, haggnonce⟩ := hi
  rw [initializeSession_eq hready.message haggnonce] at h
  cases h
  exact ⟨msg, nonce, nonces, ⟨hfresh.toKept.congr rfl rfl rfl rfl, hready.message, rfl⟩,
    ⟨hready.message, hready.pair⟩,
    ⟨hexchanged.pubNonces, hexchanged.length, hexchanged.atIndex⟩⟩

/-- The same session of the same participants. -/
structure Continues {S' : State} {T' : Signedness} (b : MusigBuilder lib S T)
    (b' : MusigBuilder lib S' T') : Prop where
  key : b'.key = b.key
  msg : b'.msg = b.msg
  aggcache : b'.aggcache = b.aggcache
  pubKeys : b'.pubKeys = b.pubKeys
  pubNonces : b'.pubNonces = b.pubNonces
  session : b'.session = b.session

section

variable {b : MusigBuilder lib .sessionInitialized T} {msg : FixedBytes 32}
variable {nonces : List lib.PublicNonce} {own : lib.PublicNonce} {key : lib.PublicKey}
variable {sig : lib.PartialSignature}

/-- Only keys that are no participants cannot be verified. -/
theorem partialVerify_eq (hopened : Opened b msg nonces) (hexchanged : Exchanged b own nonces)
    (key : lib.PublicKey) (sig : lib.PartialSignature) :
    (∃ index nonce, b.keyIndex key = .ok index ∧ nonces[index]? = some nonce ∧
      b.partialVerify key sig =
        .ok (lib.partialVerify (sessionOf b msg nonces) b.aggcache sig nonce key)) ∨
    b.keyIndex key = .error (.error .keyNotFound) ∧
      b.partialVerify key sig = .error (.error .keyNotFound) := by
  cases hindex : b.keyIndex key with
  | error e =>
    obtain rfl := keyIndex_eq_error hindex
    refine .inr ⟨rfl, ?_⟩
    rw [MusigBuilder.partialVerify, hindex]
    rfl
  | ok index =>
    have hlt : index < nonces.length := by
      rw [hexchanged.length]
      exact (List.getElem?_eq_some_iff.mp (keyIndex_eq_ok hindex)).1
    refine .inl ⟨index, nonces[index], rfl, List.getElem?_eq_getElem hlt, ?_⟩
    rw [MusigBuilder.partialVerify, hindex, hexchanged.pubNonces, hopened.session]
    show (expect nonces[index]? _ >>= _) = _
    rw [List.getElem?_eq_getElem hlt]
    rfl

/-- What is added is valid, and only its slot changes. -/
theorem partialAdd_ok {b' : MusigBuilder lib .sessionInitialized T} (hopened : Opened b msg nonces)
    (hexchanged : Exchanged b own nonces) (h : b.partialAdd key sig = .ok b') :
    ∃ index nonce, b.keyIndex key = .ok index ∧ nonces[index]? = some nonce ∧
      lib.partialVerify (sessionOf b msg nonces) b.aggcache sig nonce key = true ∧
      Continues b b' ∧ b'.nonce = b.nonce ∧
      b'.partialSigs = b.partialSigs.set index (some sig) := by
  obtain ⟨valid, hverify, h⟩ := bind_eq_ok.mp h
  obtain ⟨index, nonce, hindex, hnonce, hvalid⟩ | ⟨-, hnone⟩ :=
    partialVerify_eq hopened hexchanged key sig
  · cases hverify.symm.trans hvalid
    split at h
    · rename_i hvalid
      obtain ⟨index', hindex', h⟩ := bind_eq_ok.mp h
      obtain ⟨slot, -, h⟩ := bind_eq_ok.mp h
      cases hindex.symm.trans hindex'
      cases h
      exact ⟨index, nonce, hindex, hnonce, hvalid, ⟨rfl, rfl, rfl, rfl, rfl, rfl⟩, rfl, rfl⟩
    · cases h
  · cases hverify.symm.trans hnone

end

section

variable {S' : State} {T' : Signedness} {b : MusigBuilder lib S T} {b' : MusigBuilder lib S' T'}
variable {msg : FixedBytes 32} {nonces : List lib.PublicNonce} {own : lib.PublicNonce}

theorem Continues.ourIndex (h : Continues b b') : b'.ourIndex = b.ourIndex := by
  rw [MusigBuilder.ourIndex, MusigBuilder.keyIndex, MusigBuilder.ourKey, h.key, h.pubKeys]
  rfl

theorem Continues.sessionOf (h : Continues b b') :
    sessionOf b' msg nonces = sessionOf b msg nonces := by
  rw [Musig.sessionOf, h.aggcache, Musig.sessionOf]

theorem Exchanged.continue (hi : Exchanged b own nonces) (h : Continues b b') :
    Exchanged b' own nonces where
  pubNonces := h.pubNonces.trans hi.pubNonces
  length := by
    rw [h.pubKeys]
    exact hi.length
  atIndex := fun i hindex => hi.atIndex i (h.ourIndex.symm.trans hindex)

/-- A signature is stored. -/
theorem Opened.set {index : Nat} {sig : lib.PartialSignature} (hi : Opened b msg nonces)
    (h : Continues b b') (hslots : b'.partialSigs = b.partialSigs.set index (some sig)) :
    Opened b' msg nonces where
  toKept := hi.toKept.congr h.key h.pubKeys h.aggcache (by rw [hslots, List.length_set])
  message := h.msg.trans hi.message
  session := by
    rw [h.session, h.sessionOf]
    exact hi.session

theorem VerifiesAt.continue {i : Nat} {sig : lib.PartialSignature} (hi : VerifiesAt b i sig)
    (h : Continues b b') : VerifiesAt b' i sig := by
  rw [VerifiesAt, h.session, h.pubNonces, h.pubKeys, h.aggcache]
  exact hi

/-- A valid signature is stored. -/
theorem Verified.set {index : Nat} {sig : lib.PartialSignature} (hi : Verified b)
    (h : Continues b b') (hslots : b'.partialSigs = b.partialSigs.set index (some sig))
    (hvalid : VerifiesAt b index sig) (i : Nat) (other : lib.PartialSignature)
    (hother : b'.partialSigs[i]? = some (some other)) : VerifiesAt b' i other := by
  rw [hslots, List.getElem?_set] at hother
  split at hother
  · rename_i heq
    subst heq
    split at hother
    · cases hother
      exact hvalid.continue h
    · cases hother
  · exact (hi.valid i other hother).continue h

/-- Setting a slot never empties the own one. -/
theorem OwnSigned.set {index : Nat} {sig : lib.PartialSignature} (hi : OwnSigned b)
    (h : Continues b b') (hslots : b'.partialSigs = b.partialSigs.set index (some sig)) :
    OwnSigned b' := by
  intro i hindex
  obtain ⟨own, hown⟩ := hi i (h.ourIndex.symm.trans hindex)
  rw [hslots, List.getElem?_set]
  split
  · rename_i heq
    have hlt : index < b.partialSigs.length := by
      rw [heq]
      exact (List.getElem?_eq_some_iff.mp hown).1
    exact ⟨sig, if_pos hlt⟩
  · exact ⟨own, hown⟩

end

theorem inv_partialAdd {b b' : MusigBuilder lib .sessionInitialized T} {key : lib.PublicKey}
    {sig : lib.PartialSignature} (hi : Inv b) (h : b.partialAdd key sig = .ok b') : Inv b' := by
  cases T with
  | unsigned =>
    obtain ⟨msg, nonce, nonces, hopened, hready, hexchanged⟩ := hi
    obtain ⟨_, _, -, -, -, hsame, hpair, hslots⟩ := partialAdd_ok hopened hexchanged h
    exact ⟨msg, nonce, nonces, hopened.set hsame hslots,
      ⟨hsame.msg.trans hready.message, hpair.trans hready.pair⟩, hexchanged.continue hsame⟩
  | signed =>
    obtain ⟨msg, own, nonces, hopened, hexchanged, hown⟩ := hi
    obtain ⟨_, _, -, -, -, hsame, -, hslots⟩ := partialAdd_ok hopened hexchanged h
    exact ⟨msg, own, nonces, hopened.set hsame hslots, hexchanged.continue hsame,
      hown.set hsame hslots⟩

/-- The own slot is filled, unless it is refused to sign twice. -/
theorem partialSign_eq {b : WithSession lib} {msg : FixedBytes 32} {nonces : List lib.PublicNonce}
    {nonce : lib.SecretNonce × lib.PublicNonce} (hopened : Opened b msg nonces)
    (hready : Ready b msg nonce) (debugAssertions : Bool) :
    ∃ index slot, b.ourIndex = .ok index ∧ b.partialSigs[index]? = some slot ∧
      b.partialSign debugAssertions =
        if debugAssertions && slot.isSome then
          .error (.panic "assertion failed: our_slot.is_none()")
        else .ok { b.enter .sessionInitialized .signed with
          nonce := none
          partialSigs := b.partialSigs.set index (some
            (lib.partialSign (sessionOf b msg nonces) nonce.1 b.key b.aggcache)) } := by
  obtain ⟨index, hindex, hexpect, hkey, -⟩ := hopened.ourIndex
  obtain ⟨slot, hslot⟩ := hopened.slot hkey
  refine ⟨index, slot, hindex, hslot, ?_⟩
  rw [WithSession.partialSign, hopened.session, hready.pair]
  simp only [expect_some, hexpect, hslot, bind, Except.bind]

theorem inv_partialSign {b : WithSession lib} {b' : SignedSession lib} {debugAssertions : Bool}
    (hi : Inv b) (h : b.partialSign debugAssertions = .ok b') : Inv b' := by
  obtain ⟨msg, nonce, nonces, hopened, hready, hexchanged⟩ := hi
  obtain ⟨index, slot, hindex, hslot, heq⟩ := partialSign_eq hopened hready debugAssertions
  rw [heq] at h
  split at h
  · cases h
  · cases h
    refine ⟨msg, nonce.2, nonces, hopened.set ⟨rfl, rfl, rfl, rfl, rfl, rfl⟩ rfl,
      hexchanged.continue ⟨rfl, rfl, rfl, rfl, rfl, rfl⟩, fun i hi => ?_⟩
    cases hindex.symm.trans hi
    exact ⟨_, List.getElem?_set_self (List.getElem?_eq_some_iff.mp hslot).1⟩

/-! ## Reachable builders -/

/-- What the methods return, with restored nonces of a kind. -/
inductive Built (Restored : lib.Keypair → lib.SecretNonce × lib.PublicNonce → Prop) :
    {S : State} → {T : Signedness} → MusigBuilder lib S T → Prop
  | new {key : lib.Keypair} {pubKeys : List lib.PublicKey} {b : Setup lib} :
    Setup.new key pubKeys = .ok b → Built Restored b
  | tweak {b b' : Setup lib} {tweak : lib.Scalar} :
    Built Restored b → b.xonlyTweakAdd tweak = .ok b' → Built Restored b'
  | message {b : Setup lib} (msg : FixedBytes 32) : Built Restored b → Built Restored (b.message msg)
  | generateNonce {b : WithMessage lib} {b' : WithNonce lib} {rand : lib.Rand} :
    Built Restored b → b.generateNonce rand = .ok b' → Built Restored b'
  | setNonce {b : WithMessage lib} {nonce : lib.SecretNonce × lib.PublicNonce} :
    Built Restored b → Restored b.key nonce → Built Restored (b.dangerousSetNonce nonce.1 nonce.2)
  | aggregateNonces {b : WithNonce lib} {b' : WithAggregatedNonces lib}
      {nonces : List (lib.PublicKey × lib.PublicNonce)} :
    Built Restored b → b.aggregateNonces nonces = .ok b' → Built Restored b'
  | aggregateNoncesOrdered {b : WithNonce lib} {b' : WithAggregatedNonces lib}
      {nonces : List lib.PublicNonce} :
    Built Restored b → b.aggregateNoncesOrdered nonces = .ok b' → Built Restored b'
  | initializeSession {b : WithAggregatedNonces lib} {b' : WithSession lib} :
    Built Restored b → b.initializeSession = .ok b' → Built Restored b'
  | partialAdd {T : Signedness} {b b' : MusigBuilder lib .sessionInitialized T}
      {key : lib.PublicKey} {sig : lib.PartialSignature} :
    Built Restored b → b.partialAdd key sig = .ok b' → Built Restored b'
  | partialSign {b : WithSession lib} {b' : SignedSession lib} {debugAssertions : Bool} :
    Built Restored b → b.partialSign debugAssertions = .ok b' → Built Restored b'

section

variable {Restored : lib.Keypair → lib.SecretNonce × lib.PublicNonce → Prop}
variable {Cancels : lib.KeyAggCache → lib.AggregatedNonce → FixedBytes 32 → Prop}

theorem inv_of_built {b : MusigBuilder lib S T} (h : Built Restored b) : Inv b := by
  induction h with
  | new h => exact fresh_new h
  | tweak _ h ih => exact fresh_xonlyTweakAdd ih h
  | message msg _ ih => exact ⟨ih.congr rfl rfl rfl rfl, msg, rfl⟩
  | generateNonce _ h ih =>
    obtain ⟨hfresh, msg, hmsg⟩ := ih
    cases (generateNonce_eq hmsg _).symm.trans h
    exact ⟨hfresh.congr rfl rfl rfl rfl, msg, _, hmsg, rfl⟩
  | setNonce _ _ ih =>
    obtain ⟨hfresh, msg, hmsg⟩ := ih
    exact ⟨hfresh.congr rfl rfl rfl rfl, msg, _, hmsg, rfl⟩
  | aggregateNonces _ h ih =>
    obtain ⟨ordered, h⟩ := aggregateNonces_ok h
    exact inv_aggregateNoncesOrdered ih h
  | aggregateNoncesOrdered _ h ih => exact inv_aggregateNoncesOrdered ih h
  | initializeSession _ h ih => exact inv_initializeSession ih h
  | partialAdd _ h ih => exact inv_partialAdd ih h
  | partialSign _ h ih => exact inv_partialSign ih h

/-- What a session has, signed or not. -/
theorem Inv.opened {b : MusigBuilder lib .sessionInitialized T} (hi : Inv b) :
    ∃ msg own nonces, Opened b msg nonces ∧ Exchanged b own nonces := by
  cases T with
  | unsigned =>
    obtain ⟨msg, nonce, nonces, hopened, -, hexchanged⟩ := hi
    exact ⟨msg, _, nonces, hopened, hexchanged⟩
  | signed =>
    obtain ⟨msg, own, nonces, hopened, hexchanged, -⟩ := hi
    exact ⟨msg, own, nonces, hopened, hexchanged⟩

/-! ### Valid signatures -/

theorem Fresh.verified {b : MusigBuilder lib S T} (hi : Fresh b)
    (hmatching : ∀ nonce, b.nonce = some nonce → Matches b.key nonce) : Verified b where
  matching := hmatching
  valid i sig hsig := by
    cases hi.empty _ (List.mem_of_getElem? hsig)

theorem verified_aggregateNoncesOrdered {b : WithNonce lib} {nonces : List lib.PublicNonce}
    {b' : WithAggregatedNonces lib} (hi : Inv b) (hverified : Verified b)
    (h : b.aggregateNoncesOrdered nonces = .ok b') : Verified b' := by
  have hfresh : Fresh b' := (inv_aggregateNoncesOrdered hi h).1
  obtain ⟨-, -, rfl⟩ := aggregateNoncesOrdered_ok h
  exact hfresh.verified hverified.matching

theorem verified_initializeSession {b : WithAggregatedNonces lib} {b' : WithSession lib}
    (hi : Inv b) (hverified : Verified b) (h : b.initializeSession = .ok b') : Verified b' := by
  obtain ⟨hfresh, msg, nonce, nonces, hready, -, haggnonce⟩ := hi
  have hfresh' : Fresh b' := by
    cases (initializeSession_eq hready.message haggnonce).symm.trans h
    exact hfresh.congr rfl rfl rfl rfl
  cases (initializeSession_eq hready.message haggnonce).symm.trans h
  exact hfresh'.verified hverified.matching

theorem verified_partialAdd {b b' : MusigBuilder lib .sessionInitialized T} {key : lib.PublicKey}
    {sig : lib.PartialSignature} (hi : Inv b) (hverified : Verified b)
    (h : b.partialAdd key sig = .ok b') : Verified b' := by
  obtain ⟨msg, own, nonces, hopened, hexchanged⟩ := hi.opened
  obtain ⟨index, nonce, hindex, hnonce, hvalid, hsame, hpair, hslots⟩ :=
    partialAdd_ok hopened hexchanged h
  refine ⟨fun nonce hnonce => ?_, hverified.set hsame hslots ⟨_, nonces, nonce, key,
    hopened.session, hexchanged.pubNonces, hnonce, keyIndex_eq_ok hindex, hvalid⟩⟩
  rw [hsame.key]
  exact hverified.matching nonce (hpair.symm.trans hnonce)

/-- The own signature is valid, since the own nonce matches. -/
theorem verified_partialSign {b : WithSession lib} {b' : SignedSession lib}
    {debugAssertions : Bool} (hi : Inv b) (hverified : Verified b)
    (h : b.partialSign debugAssertions = .ok b') : Verified b' := by
  obtain ⟨msg, nonce, nonces, hopened, hready, hexchanged⟩ := hi
  obtain ⟨index, slot, hindex, hslot, heq⟩ := partialSign_eq hopened hready debugAssertions
  rw [heq] at h
  split at h
  · cases h
  · cases h
    have hown : VerifiesAt b index
        (lib.partialSign (sessionOf b msg nonces) nonce.1 b.key b.aggcache) :=
      ⟨_, nonces, nonce.2, b.ourKey, hopened.session, hexchanged.pubNonces,
        hexchanged.atIndex index hindex, keyIndex_eq_ok hindex,
        hverified.matching nonce hready.pair _ _⟩
    exact ⟨fun _ hnone => (nomatch hnone),
      hverified.set ⟨rfl, rfl, rfl, rfl, rfl, rfl⟩ rfl hown⟩

theorem verified_of_built (hlaw : Lawful lib Cancels) {b : MusigBuilder lib S T}
    (h : Built Matches b) : Verified b := by
  induction h with
  | new h =>
    refine (fresh_new h).verified fun nonce hnonce => ?_
    unfold Setup.new at h
    split at h
    · cases h
      cases hnonce
    · cases h
  | tweak hb h ih =>
    have hfresh := fresh_xonlyTweakAdd (inv_of_built hb) h
    unfold Setup.xonlyTweakAdd at h
    split at h
    · cases h
      exact hfresh.verified ih.matching
    · cases h
  | message msg hb ih => exact (inv_of_built (hb.message msg)).1.verified ih.matching
  | generateNonce hb h _ =>
    refine (inv_of_built (hb.generateNonce h)).1.verified fun nonce hnonce => ?_
    obtain ⟨-, msg, hmsg⟩ := inv_of_built hb
    cases (generateNonce_eq hmsg _).symm.trans h
    cases hnonce
    exact hlaw.nonceGen _ _ _ _
  | setNonce hb hmatches _ =>
    refine (inv_of_built (hb.setNonce hmatches)).1.verified fun nonce hnonce => ?_
    cases hnonce
    exact hmatches
  | aggregateNonces hb h ih =>
    obtain ⟨ordered, h⟩ := aggregateNonces_ok h
    exact verified_aggregateNoncesOrdered (inv_of_built hb) ih h
  | aggregateNoncesOrdered hb h ih => exact verified_aggregateNoncesOrdered (inv_of_built hb) ih h
  | initializeSession hb h ih => exact verified_initializeSession (inv_of_built hb) ih h
  | partialAdd hb h ih => exact verified_partialAdd (inv_of_built hb) ih h
  | partialSign hb h ih => exact verified_partialSign (inv_of_built hb) ih h

end

/-! ## Participants that follow the protocol -/

structure Participant (lib : Secp) where
  key : lib.Keypair
  rand : lib.Rand

def Participant.publicKey (p : Participant lib) : lib.PublicKey := lib.publicKey p.key

section

variable (participants : List (Participant lib)) (tweaks : List lib.Scalar) (msg : FixedBytes 32)

namespace Participant

/-- Up to the nonce that is sent to the others. -/
def start (p : Participant lib) : Except Failure (WithNonce lib) := do
  let b ← Setup.new p.key (participants.map Participant.publicKey)
  let b ← tweaks.foldlM Setup.xonlyTweakAdd b
  (b.message msg).generateNonce p.rand

/-- Up to the signature that is sent to the others. -/
def sign (p : Participant lib) (nonces : List (lib.PublicKey × lib.PublicNonce)) :
    Except Failure (SignedSession lib) := do
  let b ← p.start participants tweaks msg
  let b ← b.aggregateNonces nonces
  let b ← b.initializeSession
  b.partialSign true

def addAll (b : SignedSession lib) (sigs : List (lib.PublicKey × lib.PartialSignature)) :
    Except Failure (SignedSession lib) :=
  sigs.foldlM (fun b entry => b.partialAdd entry.1 entry.2) b

def finish (p : Participant lib) (nonces : List (lib.PublicKey × lib.PublicNonce))
    (sigs : List (lib.PublicKey × lib.PartialSignature)) :
    Except Failure lib.AggregatedSignature := do
  let b ← p.sign participants tweaks msg nonces
  let b ← addAll b sigs
  b.partialAggregate

/-! What a participant sends. -/

variable (cache : lib.KeyAggCache)

def nonce (p : Participant lib) : lib.SecretNonce × lib.PublicNonce :=
  lib.nonceGen cache p.rand p.publicKey msg

def nonceEntry (p : Participant lib) : lib.PublicKey × lib.PublicNonce :=
  (p.publicKey, (p.nonce msg cache).2)

def signature (p : Participant lib) : lib.PartialSignature :=
  lib.partialSign (lib.session cache (lib.aggregateNonces (participants.map fun q =>
    (q.nonce msg cache).2)) msg) (p.nonce msg cache).1 p.key cache

def signatureEntry (p : Participant lib) : lib.PublicKey × lib.PartialSignature :=
  (p.publicKey, p.signature participants msg cache)

end Participant

variable {participants tweaks msg} {cache : lib.KeyAggCache} {p : Participant lib}
variable {Restored : lib.Keypair → lib.SecretNonce × lib.PublicNonce → Prop}

open Participant

theorem built_tweaks {b b' : Setup lib} (hb : Built Restored b)
    (h : tweaks.foldlM Setup.xonlyTweakAdd b = .ok b') : Built Restored b' := by
  induction tweaks generalizing b with
  | nil =>
    cases h
    exact hb
  | cons tweak tweaks ih =>
    obtain ⟨next, hnext, h⟩ := bind_eq_ok.mp h
    exact ih (hb.tweak hnext) h

theorem built_start {b : WithNonce lib} (h : p.start participants tweaks msg = .ok b) :
    Built Restored b := by
  obtain ⟨b₀, hnew, h⟩ := bind_eq_ok.mp h
  obtain ⟨b₁, htweaks, h⟩ := bind_eq_ok.mp h
  exact .generateNonce (.message msg (built_tweaks (.new hnew) htweaks)) h

theorem built_sign {nonces : List (lib.PublicKey × lib.PublicNonce)} {b : SignedSession lib}
    (h : p.sign participants tweaks msg nonces = .ok b) : Built Restored b := by
  obtain ⟨b₀, hstart, h⟩ := bind_eq_ok.mp h
  obtain ⟨b₁, hnonces, h⟩ := bind_eq_ok.mp h
  obtain ⟨b₂, hsession, hsign⟩ := bind_eq_ok.mp h
  exact (((built_start hstart).aggregateNonces hnonces).initializeSession hsession).partialSign hsign

theorem built_addAll {b b' : SignedSession lib} {sigs : List (lib.PublicKey × lib.PartialSignature)}
    (hb : Built Restored b) (h : addAll b sigs = .ok b') : Built Restored b' := by
  induction sigs generalizing b with
  | nil =>
    cases h
    exact hb
  | cons entry sigs ih =>
    obtain ⟨next, hnext, h⟩ := bind_eq_ok.mp h
    exact ih (hb.partialAdd hnext) h

end

/-! ## Signatures of numbers -/

def exampleScheme : Schnorr.Scheme (ZMod 7) (ZMod 7) (FixedBytes 32) (ZMod 7) where
  generator := 1
  even p := p.val % 2 = 0
  even_neg := by decide
  coefficient _ key := key
  nonceCoefficient _ _ _ := 1
  challenge nonce key _ := nonce + key
  secretNonce rand _ key _ := (rand, key)

def exampleSecp : Secp := ofScheme exampleScheme fun key => toString key.val

def exampleMessage : FixedBytes 32 := ⟨List.replicate 32 0, List.length_replicate⟩

def exampleParticipants : List (Participant exampleSecp) :=
  [{ key := (2 : ZMod 7), rand := (1 : ZMod 7) }, { key := (3 : ZMod 7), rand := (2 : ZMod 7) }]

/-- The nonces or signatures of all participants, the last one first. -/
def exampleReceived {α : Type} (entry : Participant exampleSecp → α) : List α :=
  exampleParticipants.reverse.map entry

/-- The keys of the example are added to the number 6, and the tweak makes it 1. -/
def exampleCache : exampleSecp.KeyAggCache :=
  { keys := [(2 : ZMod 7), (3 : ZMod 7)], point := 1, sign := 1, tweak := 2 }

/-- The first participant, who has not received a signature. -/
def exampleSign : Except Failure (SignedSession exampleSecp) :=
  exampleParticipants[0].sign exampleParticipants [(2 : ZMod 7)] exampleMessage
    (exampleReceived (Participant.nonceEntry exampleMessage exampleCache))

/-- The first participant with the signatures of all. -/
def exampleSigned : Except Failure (SignedSession exampleSecp) := do
  let b ← exampleSign
  Participant.addAll b (exampleReceived (Participant.signatureEntry exampleParticipants
    exampleMessage exampleCache))

theorem built_exampleSigned {b : SignedSession exampleSecp} (h : exampleSigned = .ok b) :
    Built Matches b := by
  obtain ⟨next, hsign, hall⟩ := bind_eq_ok.mp h
  exact built_addAll (built_sign hsign) hall

section

variable {Cancels : lib.KeyAggCache → lib.AggregatedNonce → FixedBytes 32 → Prop}

/-! ## Expectations -/

/-- No expectation fails. -/
def NoPanic {α : Type} (r : Except Failure α) : Prop := ∀ message, r ≠ .error (.panic message)

theorem noPanic_ok {α : Type} (a : α) : NoPanic (.ok a : Except Failure α) :=
  fun _ h => nomatch h

theorem noPanic_error {α : Type} (e : MusigError) : NoPanic (.error (.error e) : Except Failure α) :=
  fun _ h => nomatch h

theorem NoPanic.bind {α β : Type} {x : Except Failure α} {f : α → Except Failure β}
    (hx : NoPanic x) (hf : ∀ a, x = .ok a → NoPanic (f a)) : NoPanic (x >>= f) := by
  cases x with
  | error e =>
    rintro message ⟨⟩
    exact hx message rfl
  | ok a => exact hf a rfl

theorem noPanic_mapM {α β : Type} {f : α → Except Failure β} (hf : ∀ a, NoPanic (f a)) :
    ∀ l : List α, NoPanic (l.mapM f)
  | [] => noPanic_ok _
  | a :: l => by
    rw [List.mapM_cons]
    exact (hf a).bind fun _ _ => (noPanic_mapM hf l).bind fun _ _ => noPanic_ok _

theorem noPanic_aggregateNoncesOrdered {b : WithNonce lib} (hi : Kept b)
    (nonces : List lib.PublicNonce) : NoPanic (b.aggregateNoncesOrdered nonces) := by
  unfold WithNonce.aggregateNoncesOrdered
  obtain ⟨index, -, hindex, -⟩ := hi.ourIndex
  split
  · exact noPanic_error _
  · split
    · exact noPanic_error _
    · rw [hindex]
      refine (noPanic_ok index).bind fun i _ => ?_
      split
      · exact noPanic_error _
      · exact noPanic_ok _

theorem noPanic_aggregateNonces {b : WithNonce lib} (hi : Kept b)
    (nonces : List (lib.PublicKey × lib.PublicNonce)) : NoPanic (b.aggregateNonces nonces) := by
  refine NoPanic.bind ?_ fun all _ => ?_
  · unfold WithNonce.withOurNonce
    split
    · exact noPanic_ok _
    · split
      · exact noPanic_ok _
      · exact noPanic_error _
  · split
    · exact noPanic_error _
    · refine (noPanic_mapM (fun key => ?_) _).bind fun ordered _ =>
        noPanic_aggregateNoncesOrdered hi ordered
      unfold findNonce
      split
      · exact noPanic_ok _
      · exact noPanic_error _

theorem noPanic_partialSign_iff {b : WithSession lib} (hi : Inv b) (debugAssertions : Bool) :
    NoPanic (b.partialSign debugAssertions) ↔ ¬(debugAssertions = true ∧ ∃ index sig,
      b.ourIndex = .ok index ∧ b.partialSigs[index]? = some (some sig)) := by
  obtain ⟨msg, nonce, nonces, hopened, hready, -⟩ := hi
  obtain ⟨index, slot, hindex, hslot, heq⟩ := partialSign_eq hopened hready debugAssertions
  rw [heq]
  constructor
  · rintro hpanic ⟨rfl, i, sig, hi, hsig⟩
    cases hindex.symm.trans hi
    cases hslot.symm.trans hsig
    exact hpanic _ rfl
  · intro hempty
    split
    · rename_i hfilled
      simp only [Bool.and_eq_true] at hfilled
      obtain ⟨hdebug, hsome⟩ := hfilled
      obtain ⟨sig, rfl⟩ := Option.isSome_iff_exists.mp hsome
      exact absurd ⟨hdebug, index, sig, hindex, hslot⟩ hempty
    · exact noPanic_ok _

/-! ## Collected signatures -/

theorem mapM_filled (slots : List (Option lib.PartialSignature)) :
    (∃ sigs, slots = sigs.map some ∧ slots.mapM filled = .ok sigs) ∨
      none ∈ slots ∧ slots.mapM filled = .error (.error .missingPartialSignature) := by
  induction slots with
  | nil => exact .inl ⟨[], rfl, rfl⟩
  | cons slot slots ih =>
    rw [List.mapM_cons]
    cases slot with
    | none => exact .inr ⟨List.mem_cons_self, rfl⟩
    | some sig =>
      obtain ⟨sigs, rfl, hsigs⟩ | ⟨hnone, herror⟩ := ih
      · refine .inl ⟨sig :: sigs, rfl, ?_⟩
        rw [hsigs]
        rfl
      · refine .inr ⟨List.mem_cons_of_mem _ hnone, ?_⟩
        rw [herror]
        rfl

/-- The signatures of all slots are valid for the nonces and keys at their positions. -/
theorem forall₂_of_valid {b : MusigBuilder lib S T} {msg : FixedBytes 32}
    {nonces : List lib.PublicNonce} {own : lib.PublicNonce} {sigs : List lib.PartialSignature}
    (hopened : Opened b msg nonces) (hexchanged : Exchanged b own nonces)
    (hvalid : ∀ (i : Nat) sig, b.partialSigs[i]? = some (some sig) → VerifiesAt b i sig)
    (hsigs : b.partialSigs = sigs.map some) :
    List.Forall₂ (fun sig entry => lib.partialVerify (sessionOf b msg nonces) b.aggcache sig entry.1
      entry.2 = true) sigs (nonces.zip b.pubKeys) := by
  have hslots : sigs.length = b.pubKeys.length := by
    rw [← hopened.slots, hsigs, List.length_map]
  refine List.forall₂_iff_get.mpr ⟨?_, fun i hi hi' => ?_⟩
  · rw [List.length_zip, hexchanged.length, hslots, Nat.min_self]
  · have hslot : b.partialSigs[i]? = some (some (sigs.get ⟨i, hi⟩)) := by
      rw [hsigs, List.getElem?_map, List.getElem?_eq_getElem hi]
      rfl
    obtain ⟨session, nonces', nonce, key, hsession, hnonces, hnonce, hkey, hverify⟩ :=
      hvalid i _ hslot
    cases hsession.symm.trans hopened.session
    cases hnonces.symm.trans hexchanged.pubNonces
    have hentry : (nonces.zip b.pubKeys)[i]? = some (nonce, key) :=
      List.getElem?_zip_eq_some.mpr ⟨hnonce, hkey⟩
    have hget : (nonces.zip b.pubKeys).get ⟨i, hi'⟩ = (nonce, key) :=
      Option.some.inj ((List.getElem?_eq_getElem hi').symm.trans hentry)
    rw [hget]
    exact hverify

/-- A session without a signature of some participant is not aggregated. -/
theorem partialAggregate_cases {b : SignedSession lib} {msg : FixedBytes 32}
    {nonces : List lib.PublicNonce} (hopened : Opened b msg nonces) :
    (∃ sigs, b.partialSigs = sigs.map some ∧
      b.partialAggregate = .ok (lib.partialSigAgg (sessionOf b msg nonces) sigs)) ∨
    none ∈ b.partialSigs ∧
      b.partialAggregate = .error (.error .missingPartialSignature) := by
  obtain ⟨sigs, hsigs, hcollect⟩ | ⟨hnone, hcollect⟩ := mapM_filled b.partialSigs
  · refine .inl ⟨sigs, hsigs, ?_⟩
    rw [SignedSession.partialAggregate, hopened.session, hcollect]
    rfl
  · refine .inr ⟨hnone, ?_⟩
    rw [SignedSession.partialAggregate, hopened.session, hcollect]
    rfl

/-- Only valid partial signatures are stored, and a session is aggregated exactly when all
participants signed: to a valid signature, unless the nonces cancel each other out. -/
theorem joint_signatures_valid (hlaw : Lawful lib Cancels) :
    (∀ S T, ∀ b : MusigBuilder lib S T, Built Matches b →
      ∀ (i : Nat) sig, b.partialSigs[i]? = some (some sig) → VerifiesAt b i sig) ∧
    ∀ b : SignedSession lib, Built Matches b →
      ∃ msg nonces, b.msg = some msg ∧ b.pubNonces = some nonces ∧
        (none ∈ b.partialSigs →
          b.partialAggregate = .error (.error .missingPartialSignature)) ∧
        (none ∉ b.partialSigs → ∃ sig, b.partialAggregate = .ok sig ∧
          (¬Cancels b.aggcache (lib.aggregateNonces nonces) msg →
            lib.verify sig b.aggPk msg = true)) := by
  refine ⟨fun S T b h => (verified_of_built hlaw h).valid, fun b h => ?_⟩
  obtain ⟨msg, own, nonces, hopened, hexchanged, -⟩ := inv_of_built h
  refine ⟨msg, nonces, hopened.message, hexchanged.pubNonces, ?_⟩
  obtain ⟨sigs, hsigs, hok⟩ | ⟨hnone, herror⟩ := partialAggregate_cases hopened
  · refine ⟨fun hnone => ?_, fun _ => ⟨_, hok, fun hcancels => ?_⟩⟩
    · rw [hsigs] at hnone
      obtain ⟨sig, -, hsig⟩ := List.mem_map.mp hnone
      cases hsig
    · exact hlaw.partialSigAgg hopened.tweaked hexchanged.length hcancels
        (forall₂_of_valid hopened hexchanged (verified_of_built hlaw h).valid hsigs)
  · exact ⟨fun _ => herror, fun hfilled => absurd hnone hfilled⟩

theorem joint_signatures_valid_example : ∃ b sig, exampleSigned = .ok b ∧
    none ∉ b.partialSigs ∧ (∀ (i : Nat) sig, b.partialSigs[i]? = some (some sig) →
      VerifiesAt b i sig) ∧ b.partialAggregate = .ok sig ∧
    exampleSecp.verify sig b.aggPk exampleMessage = true := by
  obtain ⟨b, hb, hslots, hmsg, hnonces, hcache⟩ : ∃ b, exampleSigned = .ok b ∧
      b.partialSigs = (exampleParticipants.map fun p =>
        p.signature exampleParticipants exampleMessage exampleCache).map some ∧
      b.msg = some exampleMessage ∧ b.pubNonces = some (exampleParticipants.map fun p =>
        (p.nonce exampleMessage exampleCache).2) ∧ b.aggcache = exampleCache :=
    ⟨_, rfl, rfl, rfl, rfl, rfl⟩
  have hfilled : none ∉ b.partialSigs := by
    rw [hslots]
    intro hnone
    obtain ⟨sig, -, hsig⟩ := List.mem_map.mp hnone
    cases hsig
  have hcancels : ¬exampleScheme.nonceSum b.aggcache (exampleSecp.aggregateNonces
      (exampleParticipants.map fun p => (p.nonce exampleMessage exampleCache).2))
      exampleMessage = 0 := by
    rw [hcache]
    decide
  have hlaw : Lawful exampleSecp fun cache aggnonce msg =>
      exampleScheme.nonceSum cache aggnonce msg = 0 := lawful_ofScheme
  obtain ⟨hstored, haggregate⟩ := joint_signatures_valid hlaw
  obtain ⟨msg, nonces, hmsg', hnonces', -, hvalid⟩ := haggregate b (built_exampleSigned hb)
  cases hmsg.symm.trans hmsg'
  cases hnonces.symm.trans hnonces'
  obtain ⟨sig, hok, hsig⟩ := hvalid hfilled
  exact ⟨b, sig, hb, hfilled, hstored _ _ b (built_exampleSigned hb), hok, hsig hcancels⟩

/-- The expectations of all methods are met, but with debug assertions a session whose own signature
was added before cannot be signed. -/
theorem expectations_met (Restored : lib.Keypair → lib.SecretNonce × lib.PublicNonce → Prop) :
    (∀ b : WithMessage lib, Built Restored b → ∀ rand, NoPanic (b.generateNonce rand)) ∧
    (∀ b : WithNonce lib, Built Restored b → NoPanic b.pubNonce ∧ NoPanic b.dangerousSecnonce ∧
      (∀ nonces, NoPanic (b.aggregateNonces nonces)) ∧
        ∀ nonces, NoPanic (b.aggregateNoncesOrdered nonces)) ∧
    (∀ b : WithAggregatedNonces lib, Built Restored b → NoPanic b.initializeSession) ∧
    (∀ T, ∀ b : MusigBuilder lib .sessionInitialized T, Built Restored b → ∀ key sig,
      NoPanic (b.partialVerify key sig) ∧ NoPanic (b.partialAdd key sig)) ∧
    (∀ b : WithSession lib, Built Restored b → ∀ debugAssertions,
      NoPanic (b.partialSign debugAssertions) ↔ ¬(debugAssertions = true ∧ ∃ index sig,
        b.ourIndex = .ok index ∧ b.partialSigs[index]? = some (some sig))) ∧
    ∀ b : SignedSession lib, Built Restored b → NoPanic b.ourPartialSignature ∧
      NoPanic b.partialAggregate := by
  refine ⟨fun b h rand => ?_, fun b h => ?_, fun b h => ?_, fun T b h key sig => ?_,
    fun b h => noPanic_partialSign_iff (inv_of_built h), fun b h => ?_⟩
  · obtain ⟨-, msg, hmsg⟩ := inv_of_built h
    rw [generateNonce_eq hmsg]
    exact noPanic_ok _
  · obtain ⟨hfresh, msg, nonce, hready⟩ := inv_of_built h
    refine ⟨?_, ?_, noPanic_aggregateNonces hfresh.toKept,
      noPanic_aggregateNoncesOrdered hfresh.toKept⟩
    · rw [WithNonce.pubNonce, hready.pair]
      exact noPanic_ok _
    · rw [WithNonce.dangerousSecnonce, hready.pair]
      exact noPanic_ok _
  · obtain ⟨-, msg, nonce, nonces, hready, -, haggnonce⟩ := inv_of_built h
    rw [initializeSession_eq hready.message haggnonce]
    exact noPanic_ok _
  · obtain ⟨msg, own, nonces, hopened, hexchanged⟩ := (inv_of_built h).opened
    have hverify : NoPanic (b.partialVerify key sig) := by
      obtain ⟨index, nonce, -, -, hok⟩ | ⟨-, herror⟩ := partialVerify_eq hopened hexchanged key sig
      · rw [hok]
        exact noPanic_ok _
      · rw [herror]
        exact noPanic_error _
    refine ⟨hverify, hverify.bind fun valid _ => ?_⟩
    split
    · cases hindex : b.keyIndex key with
      | error e =>
        rw [keyIndex_eq_error hindex]
        exact noPanic_error _
      | ok index =>
        obtain ⟨slot, hslot⟩ := hopened.slot (keyIndex_eq_ok hindex)
        show NoPanic (expect b.partialSigs[index]? slotExpected >>= _)
        rw [hslot]
        exact noPanic_ok _
    · exact noPanic_error _
  · obtain ⟨msg, own, nonces, hopened, -, hown⟩ := inv_of_built h
    constructor
    · obtain ⟨index, hindex, hexpect, -⟩ := hopened.ourIndex
      obtain ⟨sig, hsig⟩ := hown index hindex
      rw [MusigBuilder.ourPartialSignature, hexpect]
      show NoPanic (expect b.partialSigs[index]? slotExpected >>= _)
      rw [hsig]
      exact noPanic_ok _
    · obtain ⟨_, -, hok⟩ | ⟨-, herror⟩ := partialAggregate_cases hopened
      · rw [hok]
        exact noPanic_ok _
      · rw [herror]
        exact noPanic_error _

theorem expectations_met_example : ∃ b, exampleSign = .ok b ∧ NoPanic b.ourPartialSignature ∧
    NoPanic b.partialAggregate := by
  obtain ⟨b, hb⟩ : ∃ b, exampleSign = .ok b := ⟨_, rfl⟩
  exact ⟨b, hb, (expectations_met fun _ _ => True).2.2.2.2.2 b (built_sign hb)⟩

end

end Boltz.Core.Musig

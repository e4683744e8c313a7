import Boltz.Safety.JointSignatures

/-!
# Signatures of participants that follow the protocol

Nonces and signatures are exchanged in any order. All participants end with the same signature.
-/

namespace Boltz.Core.Musig

variable {lib : Secp} {S : State} {T : Signedness}

section

variable {Cancels : lib.KeyAggCache → lib.AggregatedNonce → FixedBytes 32 → Prop}
variable {participants : List (Participant lib)} {tweaks : List lib.Scalar} {msg : FixedBytes 32}
variable {cache : lib.KeyAggCache} {p : Participant lib}

open Participant

theorem foldlM_xonlyTweakAdd {b : Setup lib}
    (h : tweaks.foldlM lib.pubkeyXonlyTweakAdd b.aggcache = some cache) :
    tweaks.foldlM Setup.xonlyTweakAdd b = .ok { b with aggcache := cache } := by
  induction tweaks generalizing b with
  | nil =>
    cases h
    rfl
  | cons tweak tweaks ih =>
    obtain ⟨next, hnext, h⟩ := Option.bind_eq_some_iff.mp h
    have hstep : b.xonlyTweakAdd tweak = .ok { b with aggcache := next } := by
      rw [Setup.xonlyTweakAdd, hnext]
    rw [List.foldlM_cons, hstep]
    exact ih h

/-- The builder of a participant with a nonce. -/
structure Started (participants : List (Participant lib)) (msg : FixedBytes 32)
    (cache : lib.KeyAggCache) (p : Participant lib) (b : WithNonce lib) : Prop where
  key : b.key = p.key
  message : b.msg = some msg
  nonce : b.nonce = some (p.nonce msg cache)
  aggcache : b.aggcache = cache
  pubKeys : b.pubKeys = participants.map Participant.publicKey
  slots : b.partialSigs = List.replicate participants.length none

theorem start_eq (hp : p ∈ participants)
    (hcache : tweaks.foldlM lib.pubkeyXonlyTweakAdd
      (lib.keyAgg (participants.map Participant.publicKey)) = some cache) :
    ∃ b, p.start participants tweaks msg = .ok b ∧ Started participants msg cache p b := by
  have hmem : lib.publicKey p.key ∈ participants.map Participant.publicKey :=
    List.mem_map_of_mem hp
  rw [Participant.start, Setup.new, if_pos hmem]
  simp only [bind, Except.bind]
  rw [foldlM_xonlyTweakAdd hcache]
  exact ⟨_, rfl, rfl, rfl, rfl, rfl, rfl, by rw [List.length_map]; rfl⟩

/-! ### Nonces -/

/-- Every participant has a key of its own. -/
theorem eq_of_publicKey (hnodup : (participants.map Participant.publicKey).Nodup)
    {q : Participant lib} (hp : p ∈ participants) (hq : q ∈ participants)
    (h : p.publicKey = q.publicKey) : p = q :=
  List.inj_on_of_nodup_map hnodup hp hq h

theorem findNonce_eq (hnodup : (participants.map Participant.publicKey).Nodup)
    {nonces : List (lib.PublicKey × lib.PublicNonce)}
    (hperm : nonces.Perm (participants.map (nonceEntry msg cache))) (hp : p ∈ participants) :
    findNonce nonces p.publicKey = .ok (p.nonce msg cache).2 := by
  unfold findNonce
  split
  · rename_i key nonce hfind
    have hfound := List.find?_some hfind
    have hkey : key = p.publicKey := of_decide_eq_true hfound
    obtain ⟨q, hq, hentry⟩ :=
      List.mem_map.mp (hperm.mem_iff.mp (List.mem_of_find?_eq_some hfind))
    cases hentry
    obtain rfl := eq_of_publicKey hnodup hq hp hkey
    rfl
  · rename_i hnone
    have hentry := hperm.mem_iff.mpr (List.mem_map_of_mem (f := nonceEntry msg cache) hp)
    exact absurd (decide_eq_true rfl) (List.find?_eq_none.mp hnone _ hentry)

theorem mapM_findNonce (hnodup : (participants.map Participant.publicKey).Nodup)
    {nonces : List (lib.PublicKey × lib.PublicNonce)}
    (hperm : nonces.Perm (participants.map (nonceEntry msg cache))) :
    (participants.map Participant.publicKey).mapM (findNonce nonces) =
      .ok (participants.map fun q => (q.nonce msg cache).2) := by
  have hall : ∀ some : List (Participant lib), some ⊆ participants →
      (some.map Participant.publicKey).mapM (findNonce nonces) =
        .ok (some.map fun q => (q.nonce msg cache).2) := by
    intro some hsome
    induction some with
    | nil => rfl
    | cons q some ih =>
      rw [List.map_cons, List.mapM_cons, findNonce_eq hnodup hperm (hsome List.mem_cons_self),
        ih fun r hr => hsome (List.mem_cons_of_mem _ hr)]
      rfl
  exact hall participants fun q hq => hq

/-- The nonces of all participants, also without the own one, in any order. -/
def Receives (participants : List (Participant lib)) (msg : FixedBytes 32)
    (cache : lib.KeyAggCache) (p : Participant lib)
    (nonces : List (lib.PublicKey × lib.PublicNonce)) : Prop :=
  nonces.Perm (participants.map (nonceEntry msg cache)) ∨
    (p.nonceEntry msg cache :: nonces).Perm (participants.map (nonceEntry msg cache))

theorem withOurNonce_eq (hnodup : (participants.map Participant.publicKey).Nodup)
    (hp : p ∈ participants) {b : WithNonce lib} (hb : Started participants msg cache p b)
    {nonces : List (lib.PublicKey × lib.PublicNonce)}
    (h : Receives participants msg cache p nonces) :
    ∃ all, b.withOurNonce nonces = .ok all ∧
      all.Perm (participants.map (nonceEntry msg cache)) := by
  have hkey : b.ourKey = p.publicKey := congrArg lib.publicKey hb.key
  rw [WithNonce.withOurNonce, hkey, hb.nonce]
  rcases h with hperm | hperm
  · have hany : (nonces.any fun entry => entry.1 = p.publicKey) = true :=
      List.any_eq_true.mpr ⟨p.nonceEntry msg cache,
        hperm.mem_iff.mpr (List.mem_map_of_mem hp), decide_eq_true rfl⟩
    exact ⟨nonces, if_pos hany, hperm⟩
  · have hkeys : (p.publicKey :: nonces.map (·.1)).Nodup := by
      have hmap := hperm.map (·.1)
      rw [List.map_map] at hmap
      exact hmap.nodup_iff.mpr hnodup
    have hany : ¬(nonces.any fun entry => entry.1 = p.publicKey) = true := by
      intro hany
      obtain ⟨entry, hentry, heq⟩ := List.any_eq_true.mp hany
      have hmem : p.publicKey ∈ nonces.map (·.1) :=
        List.mem_map.mpr ⟨entry, hentry, of_decide_eq_true heq⟩
      exact (List.nodup_cons.mp hkeys).1 hmem
    exact ⟨_, if_neg hany, (List.perm_append_singleton _ nonces).trans hperm⟩

theorem keyIndex_eq (hnodup : (participants.map Participant.publicKey).Nodup)
    {b : MusigBuilder lib S T} (hkeys : b.pubKeys = participants.map Participant.publicKey)
    {q : Participant lib} (hq : q ∈ participants) :
    ∃ i, b.keyIndex q.publicKey = .ok i ∧ participants[i]? = some q := by
  obtain ⟨i, hi⟩ : ∃ i, b.keyIndex q.publicKey = .ok i :=
    keyIndex_of_mem (by rw [hkeys]; exact List.mem_map_of_mem hq)
  refine ⟨i, hi, ?_⟩
  have hkey := keyIndex_eq_ok hi
  rw [hkeys, List.getElem?_map] at hkey
  obtain ⟨r, hr, heq⟩ := Option.map_eq_some_iff.mp hkey
  rw [hr, eq_of_publicKey hnodup (List.mem_of_getElem? hr) hq heq]

/-! ### Signatures -/

/-- The public nonces of all participants. -/
def publicNonces (participants : List (Participant lib)) (msg : FixedBytes 32)
    (cache : lib.KeyAggCache) : List lib.PublicNonce :=
  participants.map fun q => (q.nonce msg cache).2

/-- A session of these participants with none but their signatures. -/
structure Signing (participants : List (Participant lib)) (msg : FixedBytes 32)
    (cache : lib.KeyAggCache) (b : MusigBuilder lib .sessionInitialized T) : Prop where
  opened : Opened b msg (publicNonces participants msg cache)
  exchanged : ∃ own, Exchanged b own (publicNonces participants msg cache)
  aggcache : b.aggcache = cache
  pubKeys : b.pubKeys = participants.map Participant.publicKey
  slots : ∀ (i : Nat) q, participants[i]? = some q → ∀ sig, b.partialSigs[i]? = some (some sig) →
    sig = q.signature participants msg cache

/-- A participant signed. -/
def HasSigned (participants : List (Participant lib)) (b : MusigBuilder lib S T)
    (q : Participant lib) : Prop :=
  ∃ (i : Nat) (sig : lib.PartialSignature), participants[i]? = some q ∧
    b.partialSigs[i]? = some (some sig)

/-- Another signature is stored for the participant who made it. -/
theorem slots_set {S' : State} {T' : Signedness} {b : MusigBuilder lib S T}
    {b' : MusigBuilder lib S' T'} {index : Nat} {q : Participant lib}
    (hslots : ∀ (i : Nat) q, participants[i]? = some q → ∀ sig,
      b.partialSigs[i]? = some (some sig) → sig = q.signature participants msg cache)
    (hindex : participants[index]? = some q)
    (hset : b'.partialSigs = b.partialSigs.set index (some (q.signature participants msg cache))) :
    ∀ (i : Nat) q, participants[i]? = some q → ∀ sig,
      b'.partialSigs[i]? = some (some sig) → sig = q.signature participants msg cache := by
  intro i r hr sig hsig
  rw [hset, List.getElem?_set] at hsig
  split at hsig
  · rename_i heq
    subst heq
    cases hindex.symm.trans hr
    split at hsig
    · cases hsig
      rfl
    · cases hsig
  · exact hslots i r hr sig hsig

theorem HasSigned.set {S' : State} {T' : Signedness} {b : MusigBuilder lib S T}
    {b' : MusigBuilder lib S' T'} {index : Nat} {sig : lib.PartialSignature} {q : Participant lib}
    (h : HasSigned participants b q) (hset : b'.partialSigs = b.partialSigs.set index (some sig)) :
    HasSigned participants b' q := by
  obtain ⟨i, own, hi, hown⟩ := h
  by_cases heq : index = i
  · refine ⟨i, sig, hi, ?_⟩
    rw [hset, heq, List.getElem?_set_self (List.getElem?_eq_some_iff.mp hown).1]
  · refine ⟨i, own, hi, ?_⟩
    rw [hset, List.getElem?_set_ne heq]
    exact hown

theorem getElem?_publicNonces {i : Nat} {q : Participant lib} (h : participants[i]? = some q) :
    (publicNonces participants msg cache)[i]? = some (q.nonce msg cache).2 := by
  rw [publicNonces, List.getElem?_map, h]
  rfl

theorem partialVerify_signature (hlaw : Lawful lib Cancels) (q : Participant lib) :
    lib.partialVerify (lib.session cache (lib.aggregateNonces
      (publicNonces participants msg cache)) msg) cache (q.signature participants msg cache)
      (q.nonce msg cache).2 q.publicKey = true :=
  hlaw.nonceGen cache q.rand q.key msg _ cache

/-- The signatures that participants made are valid. -/
theorem Signing.verifiesAt (hlaw : Lawful lib Cancels)
    {b : MusigBuilder lib .sessionInitialized T} (hb : Signing participants msg cache b) (i : Nat)
    (sig : lib.PartialSignature) (h : b.partialSigs[i]? = some (some sig)) : VerifiesAt b i sig := by
  obtain ⟨own, hexchanged⟩ := hb.exchanged
  have hlt : i < participants.length := by
    have hslots := hb.opened.slots
    rw [hb.pubKeys, List.length_map] at hslots
    exact hslots ▸ (List.getElem?_eq_some_iff.mp h).1
  have hq := List.getElem?_eq_getElem hlt
  have hkey : b.pubKeys[i]? = some participants[i].publicKey := by
    rw [hb.pubKeys, List.getElem?_map, hq]
    rfl
  refine ⟨_, _, _, _, hb.opened.session, hexchanged.pubNonces, getElem?_publicNonces hq, hkey, ?_⟩
  rw [hb.slots i _ hq sig h, sessionOf, hb.aggcache]
  exact partialVerify_signature hlaw participants[i]

theorem aggregateNonces_eq
    (hnodup : (participants.map Participant.publicKey).Nodup) (hp : p ∈ participants)
    {b : WithNonce lib} (hb : Started participants msg cache p b) (hbuilt : Built Matches b)
    {nonces : List (lib.PublicKey × lib.PublicNonce)}
    (hnonces : Receives participants msg cache p nonces) :
    b.aggregateNonces nonces = .ok { b.enter .noncesAggregated .unsigned with
      aggnonce := some (lib.aggregateNonces (publicNonces participants msg cache))
      pubNonces := some (publicNonces participants msg cache) } := by
  obtain ⟨all, hall, hperm⟩ := withOurNonce_eq hnodup hp hb hnonces
  have hkept : Kept b := (inv_of_built hbuilt).1.toKept
  have hlength : all.length = b.pubKeys.length := by
    rw [hperm.length_eq, hb.pubKeys, List.length_map, List.length_map]
  have hordered : b.pubKeys.mapM (findNonce all) = .ok (publicNonces participants msg cache) := by
    rw [hb.pubKeys]
    exact mapM_findNonce hnodup hperm
  have hlength' : (publicNonces participants msg cache).length = b.pubKeys.length := by
    rw [hb.pubKeys, publicNonces, List.length_map, List.length_map]
  obtain ⟨index, hindex, hexpect, -⟩ := hkept.ourIndex
  obtain ⟨i, hi, hparticipant⟩ := keyIndex_eq hnodup hb.pubKeys hp
  have hkey : b.ourKey = p.publicKey := congrArg lib.publicKey hb.key
  rw [MusigBuilder.ourIndex, hkey, hi] at hindex
  cases hindex
  rw [WithNonce.aggregateNonces, hall]
  simp only [bind, Except.bind, hlength, ne_eq, not_true_eq_false, if_false, hordered,
    WithNonce.aggregateNoncesOrdered, hlength', hb.nonce, hexpect,
    getElem?_publicNonces hparticipant]

theorem sign_eq (hnodup : (participants.map Participant.publicKey).Nodup) (hp : p ∈ participants)
    (hcache : tweaks.foldlM lib.pubkeyXonlyTweakAdd
      (lib.keyAgg (participants.map Participant.publicKey)) = some cache)
    {nonces : List (lib.PublicKey × lib.PublicNonce)}
    (hnonces : Receives participants msg cache p nonces) :
    ∃ b, p.sign participants tweaks msg nonces = .ok b ∧ Signing participants msg cache b ∧
      HasSigned participants b p := by
  obtain ⟨b, hstart, hb⟩ := start_eq hp hcache
  have hbuilt : Built Matches b := built_start hstart
  have hexchange := aggregateNonces_eq hnodup hp hb hbuilt hnonces
  have hinit := initializeSession_eq (b := { b.enter .noncesAggregated .unsigned with
    aggnonce := some (lib.aggregateNonces (publicNonces participants msg cache))
    pubNonces := some (publicNonces participants msg cache) }) hb.message rfl
  have hsession := (hbuilt.aggregateNonces hexchange).initializeSession hinit
  obtain ⟨msg', nonce, nonces', hopened, hready, hexchanged⟩ := inv_of_built hsession
  obtain rfl : msg = msg' := Option.some.inj (hb.message.symm.trans hopened.message)
  obtain rfl : p.nonce msg cache = nonce := Option.some.inj (hb.nonce.symm.trans hready.pair)
  obtain rfl := Option.some.inj hexchanged.pubNonces
  obtain ⟨index, slot, hindex, hslot, hsign⟩ := partialSign_eq hopened hready true
  -- nothing was signed before
  obtain rfl : slot = none := by
    have hslots : b.partialSigs[index]? = some slot := hslot
    rw [hb.slots] at hslots
    exact List.eq_of_mem_replicate (List.mem_of_getElem? hslots)
  have hparticipant : participants[index]? = some p := by
    obtain ⟨i, hi, hparticipant⟩ := keyIndex_eq hnodup hb.pubKeys hp
    have hkey : b.ourKey = p.publicKey := congrArg lib.publicKey hb.key
    have hour : b.keyIndex b.ourKey = .ok index := hindex
    rw [hkey, hi] at hour
    cases hour
    exact hparticipant
  have hsig : lib.partialSign (lib.session b.aggcache (lib.aggregateNonces
      (publicNonces participants msg cache)) msg) (p.nonce msg cache).1 b.key b.aggcache =
        p.signature participants msg cache := by
    rw [hb.key, hb.aggcache]
    rfl
  have hempty : ∀ (i : Nat) q, participants[i]? = some q → ∀ sig,
      b.partialSigs[i]? = some (some sig) → sig = q.signature participants msg cache := by
    intro i q _ sig hfilled
    rw [hb.slots] at hfilled
    cases List.eq_of_mem_replicate (List.mem_of_getElem? hfilled)
  obtain ⟨signed, hsigned⟩ : ∃ signed, p.sign participants tweaks msg nonces = .ok signed ∧
      WithSession.partialSign true _ = .ok signed := by
    refine ⟨_, ?_, hsign⟩
    rw [Participant.sign, hstart]
    simp only [bind, Except.bind, hexchange, hinit]
    exact hsign
  obtain ⟨hrun, hsigned⟩ := hsigned
  cases hsign.symm.trans hsigned
  refine ⟨_, hrun, ⟨?_, ⟨_, hexchanged.continue ⟨rfl, rfl, rfl, rfl, rfl, rfl⟩⟩, hb.aggcache,
    hb.pubKeys, ?_⟩, index, _, hparticipant,
    List.getElem?_set_self (List.getElem?_eq_some_iff.mp hslot).1⟩
  · exact hopened.set ⟨rfl, rfl, rfl, rfl, rfl, rfl⟩ rfl
  · exact slots_set hempty hparticipant
      (congrArg (fun sig => b.partialSigs.set index (some sig)) hsig)

/-- Adding signatures that participants made. -/
theorem partialAdd_eq (hlaw : Lawful lib Cancels)
    (hnodup : (participants.map Participant.publicKey).Nodup) {b : SignedSession lib}
    (hb : Signing participants msg cache b) {q : Participant lib} (hq : q ∈ participants) :
    ∃ b', b.partialAdd q.publicKey (q.signature participants msg cache) = .ok b' ∧
      Signing participants msg cache b' ∧ HasSigned participants b' q ∧
      ∀ r, HasSigned participants b r → HasSigned participants b' r := by
  obtain ⟨own, hexchanged⟩ := hb.exchanged
  obtain ⟨index, hindex, hparticipant⟩ := keyIndex_eq hnodup hb.pubKeys hq
  obtain ⟨slot, hslot⟩ := hb.opened.slot (keyIndex_eq_ok hindex)
  have hvalid : lib.partialVerify (sessionOf b msg (publicNonces participants msg cache)) b.aggcache
      (q.signature participants msg cache) (q.nonce msg cache).2 q.publicKey = true := by
    rw [sessionOf, hb.aggcache]
    exact partialVerify_signature hlaw q
  have hverify : b.partialVerify q.publicKey (q.signature participants msg cache) = .ok true := by
    obtain ⟨i, nonce, hi, hnonce, hok⟩ | ⟨hnone, -⟩ := partialVerify_eq hb.opened hexchanged
      q.publicKey (q.signature participants msg cache)
    · cases hindex.symm.trans hi
      cases (getElem?_publicNonces hparticipant).symm.trans hnonce
      rw [hok, hvalid]
    · cases hindex.symm.trans hnone
  obtain ⟨b', hadd⟩ : ∃ b', b.partialAdd q.publicKey (q.signature participants msg cache) =
      .ok b' := by
    rw [MusigBuilder.partialAdd, hverify]
    simp only [bind, Except.bind, if_true, hindex, hslot, expect_some]
    exact ⟨_, rfl⟩
  obtain ⟨i, nonce, hi, -, -, hsame, -, hset⟩ := partialAdd_ok hb.opened hexchanged hadd
  cases hindex.symm.trans hi
  refine ⟨b', hadd, ⟨hb.opened.set hsame hset, ⟨own, hexchanged.continue hsame⟩,
    hsame.aggcache.trans hb.aggcache,
    hsame.pubKeys.trans hb.pubKeys, slots_set hb.slots hparticipant hset⟩,
    ⟨index, q.signature participants msg cache, hparticipant, ?_⟩, fun r hr => hr.set hset⟩
  rw [hset, List.getElem?_set_self (List.getElem?_eq_some_iff.mp hslot).1]

theorem addAll_eq (hlaw : Lawful lib Cancels)
    (hnodup : (participants.map Participant.publicKey).Nodup) {b : SignedSession lib}
    (hb : Signing participants msg cache b)
    {sigs : List (lib.PublicKey × lib.PartialSignature)}
    (hsigs : ∀ entry ∈ sigs, ∃ q ∈ participants, entry = q.signatureEntry participants msg cache) :
    ∃ b', addAll b sigs = .ok b' ∧ Signing participants msg cache b' ∧
      (∀ r, HasSigned participants b r → HasSigned participants b' r) ∧
      ∀ q ∈ participants, q.signatureEntry participants msg cache ∈ sigs →
        HasSigned participants b' q := by
  induction sigs generalizing b with
  | nil => exact ⟨b, rfl, hb, fun r hr => hr, fun q _ h => absurd h List.not_mem_nil⟩
  | cons entry sigs ih =>
    obtain ⟨q, hq, rfl⟩ := hsigs entry List.mem_cons_self
    obtain ⟨next, hadd, hnext, hsigned, hkeeps⟩ := partialAdd_eq hlaw hnodup hb hq
    obtain ⟨b', hall, hb', hkeeps', hrest⟩ :=
      ih hnext fun entry h => hsigs entry (List.mem_cons_of_mem _ h)
    refine ⟨b', ?_, hb', fun r hr => hkeeps' r (hkeeps r hr), fun r hr hmem => ?_⟩
    · rw [addAll, List.foldlM_cons]
      show (b.partialAdd q.publicKey (q.signature participants msg cache) >>= _) = _
      rw [hadd]
      exact hall
    · rcases List.mem_cons.mp hmem with heq | hmem
      · rw [eq_of_publicKey hnodup hr hq (congrArg Prod.fst heq)]
        exact hkeeps' q hsigned
      · exact hrest r hr hmem

/-- Participants who follow the protocol all end with the same signature, in whatever order they
receive the nonces and the signatures of the others, and however often. -/
theorem participants_agree (hlaw : Lawful lib Cancels)
    (hnodup : (participants.map Participant.publicKey).Nodup)
    (hcache : tweaks.foldlM lib.pubkeyXonlyTweakAdd
      (lib.keyAgg (participants.map Participant.publicKey)) = some cache)
    (nonces : Participant lib → List (lib.PublicKey × lib.PublicNonce))
    (hnonces : ∀ p ∈ participants, Receives participants msg cache p (nonces p))
    (sigs : Participant lib → List (lib.PublicKey × lib.PartialSignature))
    (hsigs : ∀ p ∈ participants,
      (∀ entry ∈ sigs p, ∃ q ∈ participants, entry = q.signatureEntry participants msg cache) ∧
        ∀ q ∈ participants, q ≠ p → q.signatureEntry participants msg cache ∈ sigs p) :
    ∃ sig, (∀ p ∈ participants,
      p.finish participants tweaks msg (nonces p) (sigs p) = .ok sig) ∧
      (participants ≠ [] → ¬Cancels cache (lib.aggregateNonces
        (publicNonces participants msg cache)) msg → lib.verify sig (lib.aggPk cache) msg = true) := by
  refine ⟨lib.partialSigAgg (lib.session cache (lib.aggregateNonces
      (publicNonces participants msg cache)) msg)
    (participants.map fun q => q.signature participants msg cache), ?_⟩
  have hfinish : ∀ p ∈ participants, p.finish participants tweaks msg (nonces p) (sigs p) =
      .ok (lib.partialSigAgg (lib.session cache (lib.aggregateNonces
        (publicNonces participants msg cache)) msg)
        (participants.map fun q => q.signature participants msg cache)) ∧
      (¬Cancels cache (lib.aggregateNonces (publicNonces participants msg cache)) msg →
        lib.verify (lib.partialSigAgg (lib.session cache (lib.aggregateNonces
          (publicNonces participants msg cache)) msg)
          (participants.map fun q => q.signature participants msg cache))
          (lib.aggPk cache) msg = true) := by
    intro p hp
    obtain ⟨b, hsign, hb, hown⟩ := sign_eq hnodup hp hcache (hnonces p hp)
    obtain ⟨b', hall, hb', hkeeps, hothers⟩ := addAll_eq hlaw hnodup hb (hsigs p hp).1
    have hsigned : ∀ q ∈ participants, HasSigned participants b' q := by
      intro q hq
      by_cases heq : q = p
      · exact heq ▸ hkeeps p hown
      · exact hothers q hq ((hsigs p hp).2 q hq heq)
    have hslots : b'.partialSigs =
        (participants.map fun q => q.signature participants msg cache).map some := by
      apply List.ext_getElem?
      intro i
      rw [List.getElem?_map, List.getElem?_map]
      cases hq : participants[i]? with
      | none =>
        have hlength := hb'.opened.slots
        rw [hb'.pubKeys, List.length_map] at hlength
        rw [List.getElem?_eq_none_iff] at hq
        exact List.getElem?_eq_none (hlength ▸ hq)
      | some q =>
        obtain ⟨j, sig, hj, hsig⟩ := hsigned q (List.mem_of_getElem? hq)
        obtain rfl : i = j := (List.getElem?_inj (List.getElem?_eq_some_iff.mp hq).1
          (List.Nodup.of_map _ hnodup)).mp (hq.trans hj.symm)
        rw [hsig, hb'.slots i q hq sig hsig]
        rfl
    obtain ⟨own, hexchanged⟩ := hb'.exchanged
    obtain ⟨all, hslots', haggregate⟩ | ⟨hnone, -⟩ := partialAggregate_cases hb'.opened
    · obtain rfl := List.map_injective_iff.mpr (Option.some_injective _) (hslots'.symm.trans hslots)
      have hverified := forall₂_of_valid hb'.opened hexchanged (hb'.verifiesAt hlaw) hslots'
      have htweaked := hb'.opened.tweaked
      rw [sessionOf, hb'.aggcache] at haggregate hverified
      rw [hb'.aggcache] at htweaked
      refine ⟨?_, fun hcancels =>
        hlaw.partialSigAgg htweaked hexchanged.length hcancels hverified⟩
      rw [Participant.finish, hsign]
      simp only [bind, Except.bind, hall]
      exact haggregate
    · rw [hslots] at hnone
      obtain ⟨sig, -, hsig⟩ := List.mem_map.mp hnone
      cases hsig
  refine ⟨fun p hp => (hfinish p hp).1, fun hne => ?_⟩
  obtain ⟨p, hp⟩ := List.exists_mem_of_ne_nil participants hne
  exact (hfinish p hp).2

theorem participants_agree_example : ∃ sig, (∀ p ∈ exampleParticipants,
      p.finish exampleParticipants [(2 : ZMod 7)] exampleMessage
        (exampleReceived (Participant.nonceEntry exampleMessage exampleCache))
        (exampleReceived (Participant.signatureEntry exampleParticipants exampleMessage
          exampleCache)) = .ok sig) ∧
    (exampleParticipants ≠ [] → ¬exampleScheme.nonceSum exampleCache
        (exampleSecp.aggregateNonces (publicNonces exampleParticipants exampleMessage
          exampleCache)) exampleMessage = 0 →
      exampleSecp.verify sig (exampleSecp.aggPk exampleCache) exampleMessage = true) := by
  refine participants_agree lawful_ofScheme (by decide) rfl _
    (fun _ _ => .inl (List.reverse_perm _ |>.map _)) _ fun _ _ => ⟨fun entry h => ?_, fun q hq _ => ?_⟩
  · obtain ⟨q, hq, rfl⟩ := List.mem_map.mp h
    exact ⟨q, List.mem_reverse.mp hq, rfl⟩
  · exact List.mem_map_of_mem (List.mem_reverse.mpr hq)

end

end Boltz.Core.Musig

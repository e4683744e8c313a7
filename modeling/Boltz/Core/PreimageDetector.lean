import Boltz.Core.SignedInputs

/-!
# Detection of preimages (`boltz-core/src/preimage_detector.rs`)

A claim reveals its preimage at a place that depends on the type of its output: on the witness stack
or in a push of its `script_sig`. The detector goes over all items of an input.
-/

namespace Boltz

namespace Core

/-- The data pushes of the `script_sig` (`TxIn::script_sig_pushed_bytes`). -/
def TxIn.scriptSigPushedBytes (txIn : TxIn) : List Bytes := Script.pushedBytes txIn.scriptSig

/-- All items of an input in the order in which they are looked at. -/
def TxIn.items (txIn : TxIn) : List Bytes := txIn.witness ++ txIn.scriptSigPushedBytes

section

variable (sha256 : Bytes → FixedBytes 32)

def matchPreimage (preimageHash : FixedBytes 32) (candidate : Bytes) : Option (FixedBytes 32) :=
  if h : candidate.length = 32 then
    if sha256 candidate = preimageHash then some ⟨candidate, h⟩ else none
  else none

def detectPreimage (txIn : TxIn) (preimageHash : FixedBytes 32) : Option (FixedBytes 32) :=
  txIn.items.findSome? (matchPreimage sha256 preimageHash)

/-! ## What is found -/

variable {sha256}

theorem matchPreimage_eq_some {preimageHash found : FixedBytes 32} {candidate : Bytes} :
    matchPreimage sha256 preimageHash candidate = some found ↔
      candidate = found.1 ∧ sha256 candidate = preimageHash := by
  unfold matchPreimage
  constructor
  · intro h
    split at h
    · split at h
      · cases h
        exact ⟨rfl, ‹_›⟩
      · cases h
    · cases h
  · rintro ⟨rfl, hhash⟩
    rw [dif_pos found.2, if_pos hhash]

theorem matchPreimage_eq_none {preimageHash : FixedBytes 32} {candidate : Bytes}
    (h : candidate.length = 32 → sha256 candidate ≠ preimageHash) :
    matchPreimage sha256 preimageHash candidate = none := by
  unfold matchPreimage
  split
  · rw [if_neg (h ‹_›)]
  · rfl

theorem sha256_of_detectPreimage {txIn : TxIn} {preimageHash found : FixedBytes 32}
    (h : detectPreimage sha256 txIn preimageHash = some found) :
    sha256 found.1 = preimageHash := by
  obtain ⟨candidate, -, hmatch⟩ := List.exists_of_findSome?_eq_some h
  obtain ⟨rfl, hhash⟩ := matchPreimage_eq_some.mp hmatch
  exact hhash

theorem detectPreimage_eq_none {txIn : TxIn} {preimageHash : FixedBytes 32}
    (h : ∀ item ∈ txIn.items, item.length = 32 → sha256 item ≠ preimageHash) :
    detectPreimage sha256 txIn preimageHash = none :=
  List.findSome?_eq_none_iff.mpr fun item hitem => matchPreimage_eq_none (h item hitem)

/-- The item in front of the preimage, a signature, is not taken for it. -/
theorem detectPreimage_second {txIn : TxIn} {signature : Bytes} {preimage : FixedBytes 32}
    {rest : List Bytes} (hitems : txIn.items = signature :: preimage.1 :: rest)
    (hsignature : signature.length = 32 → sha256 signature = sha256 preimage.1 →
      signature = preimage.1) :
    detectPreimage sha256 txIn (sha256 preimage.1) = some preimage := by
  unfold detectPreimage
  rw [hitems, List.findSome?_cons]
  by_cases hlength : signature.length = 32
  · by_cases hhash : sha256 signature = sha256 preimage.1
    · have heq := hsignature hlength hhash
      rw [matchPreimage_eq_some.mpr ⟨heq, hhash⟩]
    · rw [matchPreimage_eq_none fun _ => hhash, List.findSome?_cons,
        matchPreimage_eq_some.mpr ⟨rfl, rfl⟩]
  · rw [matchPreimage_eq_none fun h => absurd h hlength, List.findSome?_cons,
      matchPreimage_eq_some.mpr ⟨rfl, rfl⟩]

end

/-! ## The items of built inputs -/

section

variable {Keys TxOut : Type} (sha256 : Bytes → FixedBytes 32)

def InputType.item : InputType → Bytes
  | .claim preimage => preimage.1
  | .refund _ => preimageDummy

/-- The items that an input is filled with, for its signature and control block. -/
def pushedItems (input : InputDetail Keys TxOut) (signature controlBlock : Bytes) : List Bytes :=
  match input.outputType with
  | .taproot none => stubbedCooperativeWitness
  | .taproot (some uncooperative) =>
    match input.inputType with
    | .claim preimage =>
      [signature, preimage.1, uncooperative.tree.claimLeaf.output, controlBlock]
    | .refund _ => [signature, uncooperative.tree.refundLeaf.output, controlBlock]
  | .segwitV0 script => [signature, input.inputType.item, script]
  | .compatibility script =>
    [signature, input.inputType.item, script, Script.pushSlice [0x00] (sha256 script).1]
  | .legacy script => [signature, input.inputType.item, script]

/-- No signature of a key is another 32-byte string with the hash of a preimage. -/
structure Signing.CollisionFree (signing : Signing Keys TxOut) : Prop where
  legacy : ∀ tx i script keys signature,
    signing.legacySignature tx i script keys = .ok signature → ∀ preimage : FixedBytes 32,
      signature.1.length = 32 → sha256 signature.1 = sha256 preimage.1 → signature.1 = preimage.1
  segwit : ∀ tx i script txOut keys signature,
    signing.segwitSignature tx i script txOut keys = .ok signature → ∀ preimage : FixedBytes 32,
      signature.1.length = 32 → sha256 signature.1 = sha256 preimage.1 → signature.1 = preimage.1

/-- What the detector sees of an input that was built from `input`. -/
structure Reveals (input : InputDetail Keys TxOut) (txIn : TxIn) : Prop where
  previousOutput : txIn.previousOutput = input.outpoint
  items : ∃ signature controlBlock, txIn.items = pushedItems sha256 input signature controlBlock
  claim : ∀ preimage, input.inputType = .claim preimage → input.outputType ≠ .taproot none →
    detectPreimage sha256 txIn (sha256 preimage.1) = some preimage
  none : ∀ preimageHash,
    (∀ item ∈ txIn.items, item.length = 32 → sha256 item ≠ preimageHash) →
      detectPreimage sha256 txIn preimageHash = none
  hash : ∀ preimageHash found, detectPreimage sha256 txIn preimageHash = some found →
    sha256 found.1 = preimageHash

variable {sha256} {signing : Signing Keys TxOut} {tx : Transaction TxOut} {prevouts : List TxOut}

theorem pushedBytes_legacy {a b c : Bytes} (ha : a.length < 2 ^ 32) (hb : b.length < 2 ^ 32)
    (hc : c.length < 2 ^ 32) :
    Script.pushedBytes (Script.pushSlice (Script.pushSlice (Script.pushSlice [] a) b) c) =
      [a, b, c] := by
  refine Script.pushedBytes_foldl [a, b, c] ?_
  simp only [List.mem_cons, List.not_mem_nil, or_false]
  rintro item (rfl | rfl | rfl)
  · exact ha
  · exact hb
  · exact hc

/-- The items of an input, and that a signature in front of a preimage does not collide with it. -/
theorem items_of_built (hfree : signing.CollisionFree sha256) {i : Nat}
    {input : InputDetail Keys TxOut} {txIn : TxIn}
    (hscript : scriptSig sha256 signing tx i input = .ok txIn.scriptSig)
    (hwitness : witness signing tx prevouts i input = .ok txIn.witness) :
    ∃ signature controlBlock, txIn.items = pushedItems sha256 input signature controlBlock ∧
      ∀ preimage : FixedBytes 32, input.outputType ≠ .taproot none → signature.length = 32 →
        sha256 signature = sha256 preimage.1 → signature = preimage.1 := by
  unfold scriptSig at hscript
  unfold witness at hwitness
  unfold TxIn.items TxIn.scriptSigPushedBytes pushedItems
  cases htype : input.outputType with
  | taproot details =>
    rw [htype] at hscript hwitness
    obtain hscript : txIn.scriptSig = [] := (Except.ok.inj hscript).symm
    rw [hscript, Script.pushedBytes_nil, List.append_nil]
    cases details with
    | none =>
      refine ⟨[], [], (Except.ok.inj hwitness).symm, fun _ h => absurd rfl h⟩
    | some uncooperative =>
      obtain ⟨signature, -, hwitness⟩ := bind_eq_ok.mp hwitness
      obtain ⟨controlBlock, -, hwitness⟩ := bind_eq_ok.mp hwitness
      refine ⟨signature.1, controlBlock, ?_, fun _ _ hlength => ?_⟩
      · rw [← Except.ok.inj hwitness]
        cases input.inputType <;> rfl
      · -- Schnorr signatures are longer than preimages
        rw [signature.2] at hlength
        omega
  | segwitV0 script =>
    rw [htype] at hscript hwitness
    obtain hscript : txIn.scriptSig = [] := (Except.ok.inj hscript).symm
    obtain ⟨signature, hsignature, hwitness⟩ := bind_eq_ok.mp hwitness
    refine ⟨signature.1, [], ?_, fun preimage _ => hfree.segwit _ _ _ _ _ _ hsignature preimage⟩
    rw [hscript, Script.pushedBytes_nil, List.append_nil, ← Except.ok.inj hwitness]
    cases input.inputType <;> rfl
  | compatibility script =>
    rw [htype] at hscript hwitness
    obtain hscript := (Except.ok.inj hscript).symm
    obtain ⟨signature, hsignature, hwitness⟩ := bind_eq_ok.mp hwitness
    refine ⟨signature.1, [], ?_, fun preimage _ => hfree.segwit _ _ _ _ _ _ hsignature preimage⟩
    have hlength : (Script.pushSlice [0x00] (sha256 script).1).length < 2 ^ 32 := by
      have h32 := (sha256 script).2
      simp [Script.pushSlice, Script.pushHeader, h32]
    have hpushed : Script.pushedBytes txIn.scriptSig =
        [Script.pushSlice [0x00] (sha256 script).1] := by
      rw [hscript]
      refine Script.pushedBytes_foldl [Script.pushSlice [0x00] (sha256 script).1] fun item hitem => ?_
      rw [List.mem_singleton.mp hitem]
      exact hlength
    rw [hpushed, ← Except.ok.inj hwitness]
    cases input.inputType <;> rfl
  | legacy script =>
    rw [htype] at hscript hwitness
    obtain hwitness : txIn.witness = [] := (Except.ok.inj hwitness).symm
    obtain ⟨signature, hsignature, hscript⟩ := bind_eq_ok.mp hscript
    obtain ⟨pushed, hpushed, hscript⟩ := bind_eq_ok.mp hscript
    refine ⟨signature.1, [], ?_, fun preimage _ => hfree.legacy _ _ _ _ _ hsignature preimage⟩
    unfold pushBytes at hpushed
    split at hpushed
    · cases hpushed
      have hshort : signature.1.length < 2 ^ 32 := Nat.lt_of_le_of_lt signature.2 (by omega)
      rw [hwitness, List.nil_append, ← Except.ok.inj hscript]
      cases hinput : input.inputType with
      | claim preimage =>
        exact pushedBytes_legacy hshort (by rw [preimage.2]; omega) ‹_›
      | refund lockTime =>
        exact pushedBytes_legacy hshort (by decide) ‹_›
    · cases hpushed

theorem reveals_of_built (hfree : signing.CollisionFree sha256) {i : Nat}
    {input : InputDetail Keys TxOut} {txIn : TxIn} (houtpoint : txIn.previousOutput = input.outpoint)
    (hscript : scriptSig sha256 signing tx i input = .ok txIn.scriptSig)
    (hwitness : witness signing tx prevouts i input = .ok txIn.witness) :
    Reveals sha256 input txIn := by
  obtain ⟨signature, controlBlock, hitems, hsignature⟩ := items_of_built hfree hscript hwitness
  refine ⟨houtpoint, ⟨signature, controlBlock, hitems⟩, fun preimage hclaim htype => ?_,
    fun _ => detectPreimage_eq_none, fun _ _ => sha256_of_detectPreimage⟩
  suffices hsecond : ∃ rest, txIn.items = signature :: preimage.1 :: rest by
    obtain ⟨rest, hrest⟩ := hsecond
    exact detectPreimage_second hrest (hsignature preimage htype)
  rw [hitems]
  unfold pushedItems
  rw [hclaim]
  cases houtput : input.outputType with
  | taproot details =>
    cases details with
    | none => exact absurd houtput htype
    | some uncooperative => exact ⟨_, rfl⟩
  | segwitV0 script => exact ⟨_, rfl⟩
  | compatibility script => exact ⟨_, rfl⟩
  | legacy script => exact ⟨_, rfl⟩

theorem signInputs_reveal (hfree : signing.CollisionFree sha256) {i : Nat}
    {inputs : List (InputDetail Keys TxOut)} {signed : List TxIn}
    (h : signInputs sha256 signing tx prevouts i inputs (unsignedInputs inputs) = .ok signed) :
    List.Forall₂ (Reveals sha256) inputs signed := by
  obtain ⟨hlength, hget⟩ := getElem?_signInputs h
  refine List.forall₂_iff_get.mpr ⟨hlength.symm, fun j hj hj' => ?_⟩
  obtain ⟨txIn, htxIn, hsign⟩ := hget j _ (List.getElem?_eq_getElem hj)
  obtain ⟨script, hscript, hsign⟩ := bind_eq_ok.mp hsign
  obtain ⟨stack, hwitness, hsign⟩ := bind_eq_ok.mp hsign
  have hsigned : signed.get ⟨j, hj'⟩ = txIn :=
    Option.some.inj ((List.getElem?_eq_getElem hj').symm.trans htxIn)
  rw [hsigned, ← Except.ok.inj hsign]
  exact reveals_of_built hfree rfl hscript hwitness

theorem Bitcoin.reveals {Rate : Type} {library : Bitcoin.Library Keys Rate}
    (hfree : library.signing.CollisionFree sha256)
    {inputs : List (InputDetail Keys Bitcoin.TxOut)} {destination : Destination Bitcoin.Address}
    {fee : Nat} {tx : Transaction Bitcoin.TxOut}
    (h : Bitcoin.constructRaw sha256 library inputs destination fee = .ok tx) :
    List.Forall₂ (Reveals sha256) inputs tx.input := by
  obtain ⟨output, -, h⟩ := bind_eq_ok.mp h
  obtain ⟨lockTime, -, h⟩ := bind_eq_ok.mp h
  obtain ⟨signed, hsigned, h⟩ := bind_eq_ok.mp h
  rw [← Except.ok.inj h]
  exact signInputs_reveal hfree hsigned

theorem Elements.reveals {Rate Address Secrets AssetId : Type}
    {library : Elements.Library Keys Rate TxOut Address Secrets AssetId}
    (hfree : library.signing.CollisionFree sha256)
    {inputs : List (Elements.InputDetail Keys TxOut)}
    {unblinded : List (Elements.UnblindedOutput Secrets AssetId)} {assetId : AssetId}
    {destination : Destination Address} {fee : Nat} {estimation : Bool}
    (h : Elements.constructRaw sha256 library inputs unblinded assetId destination fee estimation =
      .ok tx) :
    List.Forall₂ (Reveals sha256) (inputs.map (·.toInputDetail)) tx.input := by
  obtain ⟨lockTime, -, h⟩ := bind_eq_ok.mp h
  obtain ⟨output, -, h⟩ := bind_eq_ok.mp h
  obtain ⟨signed, hsigned, h⟩ := bind_eq_ok.mp h
  rw [← Except.ok.inj h]
  exact signInputs_reveal hfree hsigned

/-- The inputs of a transaction that `construct_tx` returns are those it was asked to spend, each
filled in such that the detector finds the preimage of a claim, and nothing in an input with no
32-byte item of the hash. -/
theorem constructTx_reveals (sha256 : Bytes → FixedBytes 32) :
    (∀ {Keys Rate : Type} (library : Bitcoin.Library Keys Rate) inputs destination fee tx charged,
      library.signing.CollisionFree sha256 →
      Bitcoin.constructTx sha256 library inputs destination fee = .ok (tx, charged) →
      ∃ sorted, sorted.Perm inputs ∧ List.Forall₂ (Reveals sha256) sorted tx.input) ∧
    (∀ {Keys Rate TxOut Address Secrets AssetId : Type} [DecidableEq AssetId]
      (library : Elements.Library Keys Rate TxOut Address Secrets AssetId) inputs destination fee tx
      charged, library.signing.CollisionFree sha256 →
      Elements.constructTx sha256 library inputs destination fee = .ok (tx, charged) →
      ∃ sorted, sorted.Perm (inputs.map (·.toInputDetail)) ∧
        List.Forall₂ (Reveals sha256) sorted tx.input) := by
  constructor
  · intro Keys Rate library inputs destination fee tx charged hfree h
    unfold Bitcoin.constructTx at h
    exact ⟨_, List.perm_insertionSort _ _, Bitcoin.reveals hfree (exists_construct_of_targetFee h)⟩
  · intro Keys Rate TxOut Address Secrets AssetId _ library inputs destination fee tx charged hfree h
    obtain ⟨unblinded, -, h⟩ := bind_eq_ok.mp h
    split at h
    · cases h
    · split at h
      · exact ⟨_, (List.perm_insertionSort _ _).map _,
          Elements.reveals hfree (exists_construct_of_targetFee h)⟩
      · cases h

end

/-! ## A claim of a nested segwit output -/

def nestedPreimage : FixedBytes 32 :=
  ⟨[0x6e, 0xc0, 0x84, 0x0c, 0xfa, 0xb5, 0xfe, 0x6a, 0x47, 0xe6, 0x32, 0xd9, 0xde, 0x11, 0x23,
    0xb8, 0x06, 0x75, 0x53, 0xfa, 0x80, 0x0e, 0x06, 0x6a, 0xde, 0x6b, 0x41, 0xec, 0x38, 0xee,
    0x0d, 0x94], rfl⟩

def nestedScript : Bytes :=
  [0xa9, 0x14, 0xa3, 0xa3, 0x1d, 0x98, 0x31, 0xaa, 0x2e, 0xe3, 0xea, 0xa4, 0x72, 0x7a, 0x64, 0x11,
   0x73, 0x5a, 0x93, 0x7a, 0x85, 0x60, 0x87, 0x63, 0x21, 0x02, 0xc0, 0xdc, 0x5b, 0xbf, 0xff, 0x03,
   0xc7, 0xb0, 0xfb, 0x5c, 0xcb, 0xbc, 0x9d, 0x41, 0x34, 0x01, 0x15, 0x6b, 0xcf, 0x1d, 0x02, 0xd5,
   0xda, 0x51, 0x85, 0x77, 0xf6, 0x0c, 0x0b, 0x6d, 0xc1, 0x22, 0x67, 0x03, 0x49, 0x50, 0x27, 0xb1,
   0x75, 0x21, 0x03, 0x44, 0x77, 0xc3, 0x90, 0x08, 0x88, 0x0f, 0xff, 0x80, 0x5b, 0xae, 0x27, 0x7b,
   0x98, 0x9d, 0xe1, 0xc6, 0x78, 0x17, 0x0b, 0x47, 0xe1, 0x4d, 0xd4, 0xa7, 0xd2, 0x44, 0x0f, 0x6e,
   0x1b, 0x34, 0x3a, 0x68, 0xac]

def nestedSignature : EcdsaSignature :=
  ⟨[0x30, 0x44, 0x02, 0x20, 0x32, 0x49, 0xdc, 0x84, 0x0d, 0x20, 0x71, 0x78, 0xf0, 0x69, 0x3f,
    0x52, 0x0c, 0x6b, 0xf4, 0xfb, 0xf2, 0xef, 0xb8, 0xcb, 0xb3, 0x0b, 0xe8, 0xae, 0xac, 0x65,
    0x25, 0x55, 0xbb, 0x4a, 0x40, 0xc9, 0x02, 0x20, 0x64, 0xde, 0x94, 0x3e, 0x24, 0x51, 0xcb,
    0x70, 0x81, 0xe8, 0xee, 0x37, 0xdb, 0x7b, 0xec, 0xe4, 0x79, 0xaf, 0x7d, 0xb1, 0xa3, 0x3d,
    0x2f, 0x39, 0xcb, 0xca, 0x7b, 0x12, 0xe3, 0xc3, 0x71, 0x3c, 0x01], by decide⟩

/-- SHA-256 of the preimage and of the script. -/
def nestedSha256 (bytes : Bytes) : FixedBytes 32 :=
  if bytes = nestedPreimage.1 then
    ⟨[0x96, 0x88, 0xd9, 0x2d, 0x29, 0x7f, 0xf6, 0x98, 0x3f, 0xd7, 0x3c, 0xb8, 0xee, 0x8e, 0x25,
      0x8a, 0x4d, 0x0d, 0x7e, 0xef, 0x5d, 0x57, 0x04, 0xe5, 0x9d, 0x11, 0xbf, 0xe9, 0x2a, 0xcc,
      0xd9, 0x12], rfl⟩
  else if bytes = nestedScript then
    ⟨[0x5d, 0x56, 0xbd, 0x22, 0x64, 0x96, 0xfd, 0x06, 0xe5, 0x2f, 0x4a, 0x33, 0xc5, 0xd4, 0x29,
      0xeb, 0x73, 0xe8, 0x24, 0xb3, 0xe0, 0xfd, 0x55, 0x6a, 0x0d, 0x66, 0x32, 0xb8, 0x05, 0x15,
      0x34, 0xbe], rfl⟩
  else ⟨List.replicate 32 0, rfl⟩

def nestedLibrary : Bitcoin.Library Unit Nat :=
  { signing :=
      { legacySignature := fun _ _ _ _ => .error .secp
        segwitSignature := fun _ _ _ _ _ => .ok nestedSignature
        taprootSignature := fun _ _ _ _ _ => .error .secp
        controlBlock := fun _ _ i => .error (.controlBlock i) }
    rates := { valid := fun _ => true, fee := fun rate size => rate * size }
    vsize := fun _ => 138 }

def nestedInput : InputDetail Unit Bitcoin.TxOut :=
  { inputType := .claim nestedPreimage
    outputType := .compatibility nestedScript
    outpoint :=
      { hash :=
          [0x27, 0x35, 0xe9, 0x5b, 0xc7, 0x8d, 0x14, 0x93, 0xa7, 0x99, 0xec, 0xf5, 0xfb, 0x36,
           0x75, 0xa6, 0xe9, 0x01, 0x39, 0x85, 0x4e, 0x57, 0x42, 0xf3, 0x99, 0x8f, 0xf3, 0x13,
           0xf6, 0xda, 0xf3, 0xea]
        vout := 1 }
    txOut := { value := 50302, scriptPubkey := [] }
    keys := () }

/-- Explicit outputs of one asset: nothing is blinded, and the fee is an output without a script. -/
def nestedElements : Elements.Library Unit Nat Bitcoin.TxOut Bitcoin.Address Unit Unit where
  signing := nestedLibrary.signing
  rates := nestedLibrary.rates
  vsize _ := 138
  isConfidential _ := false
  unblind _ _ := .error .unblind
  explicitAsset _ := some ()
  explicitValue output := some output.value
  blindOutputs unblinded _ destination fee _ := do
    let outputs ← Bitcoin.outputs (unblinded.map (·.amount)).sum fee destination
    return outputs ++ [{ value := fee, scriptPubkey := [] }]

theorem nestedLibrary_collisionFree : nestedLibrary.signing.CollisionFree nestedSha256 := by
  refine ⟨fun _ _ _ _ _ h => (nomatch h), fun _ _ _ _ _ signature h preimage hlength => ?_⟩
  obtain rfl : nestedSignature = signature := Except.ok.inj h
  exact absurd hlength (by decide)

theorem nestedInput_revealed :
    (∃ tx charged, Bitcoin.constructTx nestedSha256 nestedLibrary [nestedInput]
        (.single { scriptPubkey := [0x51] }) (.relative 2) = .ok (tx, charged) ∧
      ∃ sorted, sorted.Perm [nestedInput] ∧
        List.Forall₂ (Reveals nestedSha256) sorted tx.input) ∧
    ∃ tx charged, Elements.constructTx nestedSha256 nestedElements
        [{ nestedInput with blindingKey := none }] (.single { scriptPubkey := [0x51] })
        (.relative 2) = .ok (tx, charged) ∧
      ∃ sorted, sorted.Perm [nestedInput] ∧
        List.Forall₂ (Reveals nestedSha256) sorted tx.input := by
  obtain ⟨hbitcoin, helements⟩ := constructTx_reveals nestedSha256
  obtain ⟨result, hresult, -⟩ := bind_eq_ok.mp (show (Bitcoin.constructTx nestedSha256 nestedLibrary
    [nestedInput] (.single { scriptPubkey := [0x51] }) (.relative 2) >>= fun result =>
      Except.ok result.2) = .ok 278 by decide +kernel)
  obtain ⟨liquid, hliquid, -⟩ := bind_eq_ok.mp (show (Elements.constructTx nestedSha256 nestedElements
    [{ nestedInput with blindingKey := none }] (.single { scriptPubkey := [0x51] }) (.relative 2)
      >>= fun result => Except.ok result.2) = .ok 278 by decide +kernel)
  exact ⟨⟨result.1, result.2, hresult, hbitcoin nestedLibrary [nestedInput] _ _ result.1 result.2
      nestedLibrary_collisionFree hresult⟩,
    liquid.1, liquid.2, hliquid, helements nestedElements [{ nestedInput with blindingKey := none }]
      _ _ liquid.1 liquid.2 nestedLibrary_collisionFree hliquid⟩

end Core

end Boltz

import Boltz.Core.InputScripts
import Boltz.Core.PreimageDetector
import Boltz.Safety.HashTimeLocks

/-!
# Inputs that spend swaps

What the builders put into an input of a swap is what its script asks for: the signature of the
party, and the preimage or, for a refund, a lock time that is late enough. A refund from a tree needs
a lock time above zero, which is left on the stack as the result, and one with `swap_script` a dummy
that is no preimage.
-/

namespace Boltz.Core

open Script (Item Pushes scriptInt)

/-! ## Inputs of swaps -/

structure PublicKeys (Keys : Type) where
  publicKey : Keys → PublicKey
  xOnlyPublicKey : Keys → XOnlyPublicKey
  /-- of an output with a tree -/
  outputKey : UncooperativeDetails → FixedBytes 32

def Tree.leaves (tree : Tree) : List Tapleaf :=
  tree.claimLeaf :: tree.refundLeaf :: tree.covenantClaimLeaf.toList

/-- Signatures and control blocks can be made, and those that are made are valid. -/
structure Signing.Sound {Keys TxOut : Type} (signing : Signing Keys TxOut) (v : Validation TxOut)
    (keys : PublicKeys Keys) (version : UInt8) : Prop where
  legacy : ∀ tx i script pair, i < tx.input.length →
    ∃ signature, signing.legacySignature tx i script pair = .ok signature ∧
      v.legacy tx i script signature.1 (keys.publicKey pair).1 = true
  segwit : ∀ tx i script txOut pair, i < tx.input.length →
    ∃ signature, signing.segwitSignature tx i script txOut pair = .ok signature ∧
      v.segwit tx i script txOut signature.1 (keys.publicKey pair).1 = true
  taproot : ∀ tx i prevouts leaf pair, i < tx.input.length →
    prevouts.length = tx.input.length → leaf.version = version →
    ∃ signature, signing.taprootSignature tx i prevouts leaf pair = .ok signature ∧
      v.taproot tx i prevouts leaf signature.1 (keys.xOnlyPublicKey pair).1 = true
  controlBlock : ∀ details inputType i, (∀ leaf ∈ details.tree.leaves, leaf.version = version) →
    ∃ controlBlock, signing.controlBlock details (details.leaf inputType) i = .ok controlBlock ∧
      v.leafVersion (keys.outputKey details).1 (details.leaf inputType).output controlBlock =
        some version

/-- The script or the tree of an input is one of a swap. -/
def OutputType.Uses (scripts : SwapScripts) :
    OutputType (Option UncooperativeDetails) Bytes → Prop
  | .taproot none => False
  | .taproot (some details) => details.tree = scripts.swapTree ∨ details.tree = scripts.reverseTree
  | .segwitV0 script | .compatibility script | .legacy script =>
    script = scripts.swapScript ∨ script = scripts.reverseScript

def OutputType.HasKey {Keys : Type} (keys : PublicKeys Keys) (pair : Keys) (key : PublicKey)
    (xOnlyKey : XOnlyPublicKey) : OutputType (Option UncooperativeDetails) Bytes → Prop
  | .taproot _ => keys.xOnlyPublicKey pair = xOnlyKey
  | _ => keys.publicKey pair = key

/-- The script of an output of this type. -/
def OutputType.scriptPubkey {Keys TxOut : Type} (v : Validation TxOut) (keys : PublicKeys Keys) :
    OutputType (Option UncooperativeDetails) Bytes → Bytes
  | .taproot none => []
  | .taproot (some details) => witnessOutput 0x51 (keys.outputKey details)
  | .segwitV0 script => witnessOutput 0 (v.sha256 script)
  | .compatibility script => scriptHashOutput (v.hash160 (witnessOutput 0 (v.sha256 script)))
  | .legacy script => scriptHashOutput (v.hash160 script)

section

variable {Keys TxOut : Type} (v : Validation TxOut) (keys : PublicKeys Keys) (p : SwapParams)
variable (scripts : SwapScripts) (input : InputDetail Keys TxOut)

/-- The input spends an output of a swap with the key, and the preimage or the lock time. -/
structure SpendsSwap : Prop where
  uses : input.outputType.Uses scripts
  pays : v.scriptPubkey input.txOut = input.outputType.scriptPubkey v keys
  claim : ∀ preimage, input.inputType = .claim preimage →
    input.outputType.HasKey keys input.keys p.claimPubkey p.claimKey ∧
      v.hash160 preimage.1 = p.preimageHash
  refund : ∀ lockTime, input.inputType = .refund lockTime →
    input.outputType.HasKey keys input.keys p.refundPubkey p.refundKey ∧
      p.lockTime.toNat ≤ lockTime

/-- The script accepts a refund with the dummy. -/
def TakesRefund : OutputType (Option UncooperativeDetails) Bytes → Prop
  | .taproot _ => 1 ≤ p.lockTime
  | .segwitV0 script | .compatibility script | .legacy script =>
    script = scripts.swapScript → v.hash160 preimageDummy ≠ p.preimageHash

end

/-! ## Scripts that accept -/

/-- Both chains use the same layouts. -/
def SwapParams.IsLayout (p : SwapParams) (version : UInt8) (scripts : SwapScripts) : Prop :=
  ∃ size number leafSize leafNumber covenantClaimLeaf,
    Pushes size (scriptInt (32 : ℕ)) ∧ Pushes number (scriptInt p.lockTime.toNat) ∧
    Pushes leafSize (scriptInt (32 : ℕ)) ∧ Pushes leafNumber (scriptInt p.lockTime.toNat) ∧
    size.length ≤ 6 ∧ number.length ≤ 6 ∧ (∀ leaf ∈ covenantClaimLeaf, leaf.version = version) ∧
    scripts = p.layout version size number leafSize leafNumber covenantClaimLeaf

theorem length_pushScriptInt {n : ℕ} (h : n < 2 ^ 32) :
    (Script.pushSlice [] (scriptInt n)).length ≤ 6 := by
  have hlength : (scriptInt n).length ≤ 5 := by
    rw [Script.scriptInt_natCast]
    split
    · exact Nat.zero_le _
    · exact Script.length_numBytes (k := 4) (by omega)
  rw [Script.pushSlice, Script.pushHeader, if_pos (by omega)]
  simp only [List.nil_append, List.length_append, List.length_singleton]
  omega

theorem length_intPush {n : ℕ} (h : n < 2 ^ 32) : (Script.intPush n).length ≤ 6 := by
  unfold Script.intPush Script.Builder.pushInt
  split
  · exact Nat.le_of_ble_eq_true rfl
  · exact length_pushScriptInt h

theorem Bitcoin.isLayout_scripts (p : SwapParams) :
    p.IsLayout Bitcoin.tapscriptVersion (Bitcoin.scripts p) :=
  ⟨_, _, _, _, none, Script.pushes_scriptInt 32, Script.pushes_scriptInt _,
    Script.pushes_intPush 32, Script.pushes_intPush _, length_pushScriptInt (show 32 < 2 ^ 32 by decide),
    length_pushScriptInt p.lockTime.toNat_lt, by simp, Bitcoin.scripts_eq p⟩

theorem Elements.isLayout_scripts (sha256 : Bytes → FixedBytes 32) (p : SwapParams)
    (claimCovenantParams : Option ClaimCovenantParams) :
    p.IsLayout Elements.tapscriptVersion (Elements.scripts sha256 p claimCovenantParams) := by
  refine ⟨_, _, _, _, _, Script.pushes_intPush 32, Script.pushes_intPush _,
    Script.pushes_intPush 32, Script.pushes_intPush _, length_intPush (show 32 < 2 ^ 32 by decide),
    length_intPush p.lockTime.toNat_lt, ?_, Elements.scripts_eq sha256 p _⟩
  intro leaf hleaf
  obtain ⟨params, -, rfl⟩ := Option.map_eq_some_iff.mp hleaf
  rfl

variable {p : SwapParams} {version : UInt8} {scripts : SwapScripts} {rules : Script.Rules}
variable {signature : Item}

/-- The party of an input may spend, with a signature of one of two keys. -/
def Entitled (rules : Script.Rules) (p : SwapParams) (claimKey refundKey : Bytes) (signature : Item) :
    InputType → Prop
  | .claim preimage => Claims rules p.preimageHash.1 claimKey preimage.1 signature
  | .refund _ => Refunds rules p.lockTime refundKey signature

theorem accepts_script {inputType : InputType} {script : Bytes} (hlayout : p.IsLayout version scripts)
    (hscript : script = scripts.swapScript ∨ script = scripts.reverseScript)
    (hentitled : Entitled rules p p.claimPubkey.1 p.refundPubkey.1 signature inputType)
    (hdummy : ∀ lockTime, inputType = .refund lockTime → script = scripts.swapScript →
      rules.hash160 preimageDummy ≠ p.preimageHash.1) :
    Script.accepts rules script [inputType.item, signature] = true := by
  obtain ⟨size, number, leafSize, leafNumber, covenantClaimLeaf, hsize, hnumber, -, -, -, -, -,
    rfl⟩ := hlayout
  have hhash := length_le_maxElementSize p.preimageHash (by decide)
  have hclaim := length_le_maxElementSize p.claimPubkey (by decide)
  have hrefund := length_le_maxElementSize p.refundPubkey (by decide)
  rcases hscript with rfl | rfl
  · refine (accepts_swapLayout hhash hclaim hrefund hnumber).mpr ⟨_, _, rfl, ?_⟩
    cases inputType with
    | claim preimage => exact .inl hentitled
    | refund lockTime => exact .inr ⟨hdummy lockTime rfl rfl, hentitled⟩
  · refine (accepts_reverseLayout hsize hhash hclaim hrefund hnumber).mpr ⟨_, _, rfl, ?_⟩
    cases inputType with
    | claim preimage => exact .inl ⟨preimage.2, hentitled⟩
    | refund lockTime => exact .inr ⟨(by decide : preimageDummy.length ≠ 32), hentitled⟩

/-- The items of a leaf in front of the script. -/
def InputType.leafItems (signature : Item) : InputType → List Item
  | .claim preimage => [preimage.1, signature]
  | .refund _ => [signature]

theorem accepts_leaf {details : UncooperativeDetails} {inputType : InputType}
    (hlayout : p.IsLayout version scripts)
    (htree : details.tree = scripts.swapTree ∨ details.tree = scripts.reverseTree)
    (hentitled : Entitled rules p p.claimKey.1 p.refundKey.1 signature inputType)
    (hpos : ∀ lockTime, inputType = .refund lockTime → 1 ≤ p.lockTime) :
    Script.accepts rules (details.leaf inputType).output (inputType.leafItems signature) = true := by
  obtain ⟨size, number, leafSize, leafNumber, covenantClaimLeaf, -, -, hleafSize, hleafNumber, -, -,
    -, rfl⟩ := hlayout
  have hhash := length_le_maxElementSize p.preimageHash (by decide)
  have hclaimKey := length_le_maxElementSize p.claimKey (by decide)
  have hrefundKey := length_le_maxElementSize p.refundKey (by decide)
  cases inputType with
  | claim preimage =>
    rw [UncooperativeDetails.leaf]
    rcases htree with htree | htree <;> rw [htree]
    · exact (accepts_claimLeafLayout hhash hclaimKey).mpr ⟨_, _, rfl, hentitled⟩
    · exact (accepts_sizedClaimLeafLayout hleafSize hhash hclaimKey).mpr
        ⟨_, _, rfl, preimage.2, hentitled⟩
  | refund lockTime =>
    have hrefunds : RefundLeafSpends rules p.refundKey.1 p.lockTime [signature] :=
      ⟨signature, rfl, hentitled⟩
    have haccepts := (accepts_refundLeafLayout hrefundKey hleafNumber
      (UInt32.le_iff_toNat_le.mp (hpos lockTime rfl))).mpr hrefunds
    rw [UncooperativeDetails.leaf]
    rcases htree with htree | htree <;> rw [htree] <;> exact haccepts

theorem version_leaves {details : UncooperativeDetails} (hlayout : p.IsLayout version scripts)
    (htree : details.tree = scripts.swapTree ∨ details.tree = scripts.reverseTree) :
    ∀ leaf ∈ details.tree.leaves, leaf.version = version := by
  obtain ⟨size, number, leafSize, leafNumber, covenantClaimLeaf, -, -, -, -, -, -, hcovenant, rfl⟩ :=
    hlayout
  intro leaf hleaf
  rcases htree with htree | htree <;> rw [htree, Tree.leaves] at hleaf <;>
    simp only [SwapParams.layout, List.mem_cons, Option.toList_none, List.not_mem_nil, or_false,
      Option.mem_toList] at hleaf
  · rcases hleaf with rfl | rfl <;> rfl
  · rcases hleaf with rfl | rfl | hleaf
    · rfl
    · rfl
    · exact hcovenant leaf hleaf

theorem leaf_mem_leaves (details : UncooperativeDetails) (inputType : InputType) :
    details.leaf inputType ∈ details.tree.leaves := by
  cases inputType <;> simp [UncooperativeDetails.leaf, Tree.leaves]

/-- A script of a swap fits into a push, and is no witness program. -/
theorem script_of_layout {script : Bytes} (hlayout : p.IsLayout version scripts)
    (hscript : script = scripts.swapScript ∨ script = scripts.reverseScript) :
    script.length ≤ Script.maxElementSize ∧ Script.witnessProgram? script = none := by
  obtain ⟨size, number, leafSize, leafNumber, covenantClaimLeaf, -, -, -, -, hsize, hnumber, -,
    rfl⟩ := hlayout
  have hpush : ∀ {n : ℕ} (bytes : FixedBytes n), n ≤ 40 →
      (Script.pushSlice [] bytes.1).length = n + 1 := by
    intro n bytes hn
    rw [Script.pushSlice, Script.pushHeader, if_pos (by rw [bytes.2]; omega)]
    simp only [List.nil_append, List.length_append, List.length_singleton, bytes.2]
    omega
  rcases hscript with rfl | rfl
  · refine ⟨?_, Script.witnessProgram?_eq_none (by decide) (by decide) _⟩
    simp only [SwapParams.layout, swapLayout, List.length_cons, List.length_append, List.length_nil,
      hpush _ (show 20 ≤ 40 by decide), hpush _ (show 33 ≤ 40 by decide), Script.maxElementSize]
    omega
  · refine ⟨?_, Script.witnessProgram?_eq_none (by decide) (by decide) _⟩
    simp only [SwapParams.layout, reverseLayout, List.length_cons, List.length_append,
      List.length_nil, hpush _ (show 20 ≤ 40 by decide), hpush _ (show 33 ≤ 40 by decide),
      Script.maxElementSize]
    omega

/-! ## Signed inputs -/

section

variable {Keys TxOut : Type} {sha256 : Bytes → FixedBytes 32} {signing : Signing Keys TxOut}
variable {tx : Transaction TxOut} {prevouts : List TxOut} {i : Nat}
variable {input : InputDetail Keys TxOut} {script : Bytes}

theorem signInput_legacy {signature : EcdsaSignature} (houtput : input.outputType = .legacy script)
    (hscript : script.length ≤ Script.maxElementSize)
    (hsignature : signing.legacySignature tx i script input.keys = .ok signature) :
    signInput sha256 signing tx prevouts i input { previousOutput := input.outpoint } =
      .ok { previousOutput := input.outpoint
            scriptSig := [signature.1, input.inputType.item, script].flatMap (Script.pushSlice []) } := by
  have hpush : pushBytes script = .ok script :=
    if_pos (Nat.lt_of_le_of_lt hscript (by decide))
  have hbytes : scriptSig sha256 signing tx i input =
      .ok ([signature.1, input.inputType.item, script].flatMap (Script.pushSlice [])) := by
    unfold scriptSig
    rw [houtput]
    simp only [hsignature, bind, Except.bind, hpush]
    cases input.inputType <;> simp [InputType.item, Script.pushSlice, pure, Except.pure]
  have hstack : witness signing tx prevouts i input = .ok [] := by
    unfold witness
    rw [houtput]
  rw [signInput, hbytes, hstack]
  rfl

theorem witness_segwit {signature : EcdsaSignature}
    (houtput : input.outputType = .segwitV0 script ∨ input.outputType = .compatibility script)
    (hsignature : signing.segwitSignature tx i script input.txOut input.keys = .ok signature) :
    witness signing tx prevouts i input = .ok [signature.1, input.inputType.item, script] := by
  unfold witness
  rcases houtput with houtput | houtput <;> rw [houtput] <;>
    simp only [hsignature, bind, Except.bind] <;> cases input.inputType <;> rfl

theorem signInput_segwit {signature : EcdsaSignature} (houtput : input.outputType = .segwitV0 script)
    (hsignature : signing.segwitSignature tx i script input.txOut input.keys = .ok signature) :
    signInput sha256 signing tx prevouts i input { previousOutput := input.outpoint } =
      .ok { previousOutput := input.outpoint
            witness := [signature.1, input.inputType.item, script] } := by
  have hbytes : scriptSig sha256 signing tx i input = .ok [] := by
    unfold scriptSig
    rw [houtput]
  rw [signInput, hbytes, witness_segwit (.inl houtput) hsignature]
  rfl

theorem signInput_compatibility {signature : EcdsaSignature}
    (houtput : input.outputType = .compatibility script)
    (hsignature : signing.segwitSignature tx i script input.txOut input.keys = .ok signature) :
    signInput sha256 signing tx prevouts i input { previousOutput := input.outpoint } =
      .ok { previousOutput := input.outpoint
            scriptSig := Script.pushSlice [] (witnessOutput 0 (sha256 script))
            witness := [signature.1, input.inputType.item, script] } := by
  have hbytes : scriptSig sha256 signing tx i input =
      .ok (Script.pushSlice [] (witnessOutput 0 (sha256 script))) := by
    unfold scriptSig
    rw [houtput]
    rfl
  rw [signInput, hbytes, witness_segwit (.inr houtput) hsignature]
  rfl

theorem signInput_taproot {details : UncooperativeDetails} {signature : FixedBytes 64}
    {controlBlock : Bytes} (houtput : input.outputType = .taproot (some details))
    (hsignature : signing.taprootSignature tx i prevouts (details.leaf input.inputType) input.keys =
      .ok signature)
    (hcontrolBlock : signing.controlBlock details (details.leaf input.inputType) i =
      .ok controlBlock) :
    signInput sha256 signing tx prevouts i input { previousOutput := input.outpoint } =
      .ok { previousOutput := input.outpoint
            witness := (controlBlock :: (details.leaf input.inputType).output ::
              input.inputType.leafItems signature.1).reverse } := by
  have hbytes : scriptSig sha256 signing tx i input = .ok [] := by
    unfold scriptSig
    rw [houtput]
  have hstack : witness signing tx prevouts i input =
      .ok (controlBlock :: (details.leaf input.inputType).output ::
        input.inputType.leafItems signature.1).reverse := by
    unfold witness
    rw [houtput]
    simp only [hsignature, hcontrolBlock, bind, Except.bind]
    cases input.inputType <;> rfl
  rw [signInput, hbytes, hstack]
  rfl

end

/-! ## Valid inputs -/

section

variable {Keys TxOut : Type} {v : Validation TxOut} {keys : PublicKeys Keys}
variable {signing : Signing Keys TxOut} {sorted : List (InputDetail Keys TxOut)}
variable {tx : Transaction TxOut} {i : Nat} {input : InputDetail Keys TxOut}

/-- The lock time of the transaction satisfies all refunds. -/
theorem entitled_of_spendsSwap {txIn : TxIn} {checkSig : Item → Item → Bool}
    {claimKey refundKey : Bytes} (hspends : SpendsSwap v keys p scripts input)
    (htime : lockTime sorted = .ok tx.lockTime) (hmem : input ∈ sorted)
    (hsequence : txIn.sequence = 0xfffffffd)
    (hclaim : ∀ preimage, input.inputType = .claim preimage → checkSig signature claimKey = true)
    (hrefund : ∀ lockTime, input.inputType = .refund lockTime →
      checkSig signature refundKey = true) :
    Entitled (v.rules tx txIn checkSig) p claimKey refundKey signature input.inputType := by
  cases hinput : input.inputType with
  | claim preimage =>
    have hhash := (hspends.claim preimage hinput).2
    exact ⟨congrArg Subtype.val hhash, hclaim preimage hinput⟩
  | refund time =>
    refine ⟨?_, hrefund time hinput⟩
    have hle := (hspends.refund time hinput).2
    have htimes : time ∈ refundLockTimes sorted := mem_refundLockTimes.mpr ⟨input, hmem, hinput⟩
    obtain ⟨hall, hheight, -⟩ := lockTime_eq_ok htime
    have hmax := hall time htimes
    obtain ⟨-, hheight⟩ := hheight (List.ne_nil_of_mem htimes)
    have hlow : ((p.lockTime.toNat : ℤ) < (Script.lockTimeThreshold : ℤ)) := by
      rw [Script.lockTimeThreshold]
      omega
    have hlow' : tx.lockTime < Script.lockTimeThreshold := hheight
    have hreached : (p.lockTime.toNat : ℤ) ≤ (tx.lockTime : ℤ) := by omega
    simp [Script.Rules.lockTimeSatisfied, Validation.rules, hlow, hlow', hreached, hsequence]

/-- A signature of the key of the input is what its script asks for. -/
theorem accepts_script_of_spendsSwap {txIn : TxIn} {checkSig : Item → Item → Bool} {script : Bytes}
    (hspends : SpendsSwap v keys p scripts input) (hlayout : p.IsLayout version scripts)
    (htakes : ∀ lockTime, input.inputType = .refund lockTime →
      TakesRefund v p scripts input.outputType)
    (htime : lockTime sorted = .ok tx.lockTime) (hmem : input ∈ sorted)
    (houtput : input.outputType = .segwitV0 script ∨ input.outputType = .compatibility script ∨
      input.outputType = .legacy script)
    (hsequence : txIn.sequence = 0xfffffffd)
    (hvalid : checkSig signature (keys.publicKey input.keys).1 = true) :
    Script.accepts (v.rules tx txIn checkSig) script [input.inputType.item, signature] = true := by
  have huses : script = scripts.swapScript ∨ script = scripts.reverseScript := by
    have huses := hspends.uses
    rcases houtput with houtput | houtput | houtput <;> rw [houtput] at huses <;> exact huses
  have hkey : ∀ key xOnlyKey, input.outputType.HasKey keys input.keys key xOnlyKey →
      keys.publicKey input.keys = key := by
    intro key xOnlyKey hkey
    rcases houtput with houtput | houtput | houtput <;> rw [houtput] at hkey <;> exact hkey
  refine accepts_script hlayout huses
    (entitled_of_spendsSwap hspends htime hmem hsequence ?_ ?_) ?_
  · intro preimage hinput
    rw [← hkey _ _ (hspends.claim preimage hinput).1]
    exact hvalid
  · intro lockTime hinput
    rw [← hkey _ _ (hspends.refund lockTime hinput).1]
    exact hvalid
  · intro lockTime hinput hscript hdummy
    have htakes := htakes lockTime hinput
    rcases houtput with houtput | houtput | houtput <;> rw [houtput] at htakes <;>
      exact htakes hscript (Subtype.ext hdummy)

theorem accepts_leaf_of_spendsSwap {txIn : TxIn} {checkSig : Item → Item → Bool}
    {details : UncooperativeDetails}
    (hspends : SpendsSwap v keys p scripts input) (hlayout : p.IsLayout version scripts)
    (htakes : ∀ lockTime, input.inputType = .refund lockTime →
      TakesRefund v p scripts input.outputType)
    (htime : lockTime sorted = .ok tx.lockTime) (hmem : input ∈ sorted)
    (houtput : input.outputType = .taproot (some details)) (hsequence : txIn.sequence = 0xfffffffd)
    (hvalid : checkSig signature (keys.xOnlyPublicKey input.keys).1 = true) :
    Script.accepts (v.rules tx txIn checkSig) (details.leaf input.inputType).output
      (input.inputType.leafItems signature) = true := by
  have huses := hspends.uses
  rw [houtput] at huses
  have hkey : ∀ key xOnlyKey, input.outputType.HasKey keys input.keys key xOnlyKey →
      keys.xOnlyPublicKey input.keys = xOnlyKey := by
    intro key xOnlyKey hkey
    rw [houtput] at hkey
    exact hkey
  refine accepts_leaf hlayout huses
    (entitled_of_spendsSwap hspends htime hmem hsequence ?_ ?_) ?_
  · intro preimage hinput
    rw [← hkey _ _ (hspends.claim preimage hinput).1]
    exact hvalid
  · intro lockTime hinput
    rw [← hkey _ _ (hspends.refund lockTime hinput).1]
    exact hvalid
  · intro lockTime hinput
    have htakes := htakes lockTime hinput
    rw [houtput] at htakes
    exact htakes

theorem witnessProgram?_scriptHashOutput (hash : FixedBytes 20) :
    Script.witnessProgram? (scriptHashOutput hash) = none := by
  have hscript : ∃ rest, scriptHashOutput hash = Script.opHash160 :: rest := by
    rw [scriptHashOutput, Script.pushSlice]
    exact ⟨_, rfl⟩
  obtain ⟨rest, hrest⟩ := hscript
  rw [hrest]
  exact Script.witnessProgram?_eq_none (by decide) (by decide) rest

theorem length_witnessOutput (program : FixedBytes 32) :
    (witnessOutput 0 program).length ≤ Script.maxElementSize := by
  rw [witnessOutput, Script.pushSlice, Script.pushHeader, if_pos (by rw [program.2]; decide)]
  simp only [List.length_append, List.length_singleton, program.2]
  decide

theorem length_item (inputType : InputType) : inputType.item.length ≤ Script.maxElementSize := by
  cases inputType with
  | claim preimage => exact length_le_maxElementSize preimage (by decide)
  | refund lockTime => exact Nat.zero_le _

variable {txIn : TxIn} {prevouts : List TxOut}

/-- The witness has the items of the script, and then the script. -/
theorem validWitnessScript_of_signed {script : Bytes}
    (hwitness : txIn.witness = [signature, input.inputType.item, script])
    (haccepts : Script.accepts (v.rules tx txIn (v.segwit tx.unsigned i script input.txOut)) script
      [input.inputType.item, signature] = true) :
    v.validWitnessScript tx i txIn input.txOut (v.sha256 script).1 = true := by
  rw [Validation.validWitnessScript, hwitness]
  show (decide ((v.sha256 script).1 = (v.sha256 script).1) && _) = true
  rw [decide_eq_true rfl, Bool.true_and]
  exact haccepts

theorem validScriptHash_legacy {script : Bytes} {ecdsa : EcdsaSignature}
    (hpays : v.scriptPubkey input.txOut = scriptHashOutput (v.hash160 script))
    (hscript : script.length ≤ Script.maxElementSize)
    (hprogram : Script.witnessProgram? script = none)
    (hscriptSig : txIn.scriptSig =
      [ecdsa.1, input.inputType.item, script].flatMap (Script.pushSlice []))
    (hwitness : txIn.witness = [])
    (haccepts : Script.accepts (v.rules tx txIn (v.legacy tx.unsigned i script)) script
      [input.inputType.item, ecdsa.1] = true) :
    v.validScriptHash tx i txIn input.txOut = true := by
  have hitems : scriptItems txIn.scriptSig = some [ecdsa.1, input.inputType.item, script] := by
    rw [hscriptSig]
    apply scriptItems_pushes
    intro item hitem
    simp only [List.mem_cons, List.not_mem_nil, or_false] at hitem
    rcases hitem with rfl | rfl | rfl
    · exact Nat.le_trans ecdsa.2 (by decide)
    · exact length_item input.inputType
    · exact hscript
  simp only [Validation.validScriptHash, hitems, Option.map_some, List.reverse_cons,
    List.reverse_nil, List.nil_append, List.cons_append, hprogram, Bool.and_eq_true,
    decide_eq_true_iff]
  exact ⟨hpays, hwitness, haccepts⟩

theorem validScriptHash_compatibility {script : Bytes}
    (hpays : v.scriptPubkey input.txOut =
      scriptHashOutput (v.hash160 (witnessOutput 0 (v.sha256 script))))
    (hscriptSig : txIn.scriptSig = Script.pushSlice [] (witnessOutput 0 (v.sha256 script)))
    (hvalid : v.validWitnessScript tx i txIn input.txOut (v.sha256 script).1 = true) :
    v.validScriptHash tx i txIn input.txOut = true := by
  have hitems : scriptItems txIn.scriptSig = some [witnessOutput 0 (v.sha256 script)] := by
    have hpushes : txIn.scriptSig =
        [witnessOutput 0 (v.sha256 script)].flatMap (Script.pushSlice []) := by
      rw [hscriptSig, List.flatMap_singleton]
    rw [hpushes]
    apply scriptItems_pushes
    intro item hitem
    rw [List.mem_singleton.mp hitem]
    exact length_witnessOutput _
  have hprogram : Script.witnessProgram? (witnessOutput 0 (v.sha256 script)) =
      some (0, (v.sha256 script).1) := (witnessProgram?_witnessOutput _).1
  simp only [Validation.validScriptHash, hitems, Option.map_some, List.reverse_singleton,
    hprogram, Bool.and_eq_true, decide_eq_true_iff]
  exact ⟨hpays, hscriptSig, hvalid⟩

theorem validLeaf_of_signed {details : UncooperativeDetails} {controlBlock : Bytes}
    {outputKey : Bytes}
    (hwitness : txIn.witness = (controlBlock :: (details.leaf input.inputType).output ::
      input.inputType.leafItems signature).reverse)
    (hversion : v.leafVersion outputKey (details.leaf input.inputType).output controlBlock =
      some (details.leaf input.inputType).version)
    (haccepts : Script.accepts (v.rules tx txIn
        (v.taproot tx.unsigned i prevouts (details.leaf input.inputType)))
      (details.leaf input.inputType).output (input.inputType.leafItems signature) = true) :
    v.validLeaf tx prevouts i txIn outputKey = true := by
  rw [Validation.validLeaf, hwitness, List.reverse_reverse]
  simp only [hversion]
  exact haccepts

/-- Every input of a swap can be signed. -/
theorem signInput_total (hsound : signing.Sound v keys version) (hlayout : p.IsLayout version scripts)
    (hspends : SpendsSwap v keys p scripts input) (hi : i < tx.input.length)
    (hprevouts : prevouts.length = tx.input.length) :
    ∃ txIn, signInput v.sha256 signing tx prevouts i input { previousOutput := input.outpoint } =
      .ok txIn := by
  have huses := hspends.uses
  cases houtput : input.outputType with
  | taproot details =>
    rw [houtput] at huses
    cases details with
    | none => exact huses.elim
    | some details =>
      have hversions := version_leaves hlayout huses
      obtain ⟨signature, hsignature, -⟩ := hsound.taproot tx i prevouts
        (details.leaf input.inputType) input.keys hi hprevouts
        (hversions _ (leaf_mem_leaves details input.inputType))
      obtain ⟨controlBlock, hcontrolBlock, -⟩ :=
        hsound.controlBlock details input.inputType i hversions
      exact ⟨_, signInput_taproot houtput hsignature hcontrolBlock⟩
  | segwitV0 script =>
    obtain ⟨signature, hsignature, -⟩ := hsound.segwit tx i script input.txOut input.keys hi
    exact ⟨_, signInput_segwit houtput hsignature⟩
  | compatibility script =>
    obtain ⟨signature, hsignature, -⟩ := hsound.segwit tx i script input.txOut input.keys hi
    exact ⟨_, signInput_compatibility houtput hsignature⟩
  | legacy script =>
    rw [houtput] at huses
    obtain ⟨signature, hsignature, -⟩ := hsound.legacy tx i script input.keys hi
    exact ⟨_, signInput_legacy houtput (script_of_layout hlayout huses).1 hsignature⟩

/-- A signed input of a swap is valid. -/
theorem validInput_of_signedWith (hsound : signing.Sound v keys version)
    (hlayout : p.IsLayout version scripts) (hspends : SpendsSwap v keys p scripts input)
    (htakes : ∀ lockTime, input.inputType = .refund lockTime →
      TakesRefund v p scripts input.outputType)
    (hsigned : SignedWith v.sha256 signing sorted tx) (hi : sorted[i]? = some input) :
    v.validInput tx (sorted.map fun input => input.txOut) i = true := by
  obtain ⟨txIn, htxIn, hsign⟩ := hsigned.input i input hi
  have hmem : input ∈ sorted := List.mem_of_getElem? hi
  have hlt : i < tx.unsigned.input.length := by
    rw [Transaction.unsigned, List.length_map]
    exact (List.getElem?_eq_some_iff.mp htxIn).1
  have hprevouts : (sorted.map fun input => input.txOut).length = tx.unsigned.input.length := by
    rw [Transaction.unsigned, List.length_map, List.length_map, hsigned.length]
  have hprevout : (sorted.map fun input => input.txOut)[i]? = some input.txOut := by
    rw [List.getElem?_map, hi]
    rfl
  have huses := hspends.uses
  have hpays := hspends.pays
  rw [Validation.validInput, htxIn, hprevout]
  simp only
  cases houtput : input.outputType with
  | taproot details =>
    rw [houtput] at huses hpays
    cases details with
    | none => exact huses.elim
    | some details =>
      have hversions := version_leaves hlayout huses
      have hleaf := hversions _ (leaf_mem_leaves details input.inputType)
      obtain ⟨signature, hsignature, hvalid⟩ := hsound.taproot tx.unsigned i
        (sorted.map fun input => input.txOut) (details.leaf input.inputType) input.keys hlt
        hprevouts hleaf
      obtain ⟨controlBlock, hcontrolBlock, hproves⟩ :=
        hsound.controlBlock details input.inputType i hversions
      cases hsign.symm.trans (signInput_taproot houtput hsignature hcontrolBlock)
      rw [hpays, OutputType.scriptPubkey, (witnessProgram?_witnessOutput _).2]
      exact validLeaf_of_signed rfl (by rw [hproves, hleaf])
        (accepts_leaf_of_spendsSwap hspends hlayout htakes hsigned.lockTime hmem houtput rfl hvalid)
  | segwitV0 script =>
    rw [houtput] at hpays
    obtain ⟨signature, hsignature, hvalid⟩ :=
      hsound.segwit tx.unsigned i script input.txOut input.keys hlt
    cases hsign.symm.trans (signInput_segwit houtput hsignature)
    rw [hpays, OutputType.scriptPubkey, (witnessProgram?_witnessOutput _).1]
    show (decide (([] : Bytes) = []) &&
      v.validWitnessScript tx i _ input.txOut (v.sha256 script).1) = true
    rw [decide_eq_true rfl, Bool.true_and]
    refine validWitnessScript_of_signed rfl ?_
    exact accepts_script_of_spendsSwap hspends hlayout htakes hsigned.lockTime hmem (.inl houtput)
      rfl hvalid
  | compatibility script =>
    rw [houtput] at hpays
    obtain ⟨signature, hsignature, hvalid⟩ :=
      hsound.segwit tx.unsigned i script input.txOut input.keys hlt
    cases hsign.symm.trans (signInput_compatibility houtput hsignature)
    rw [hpays, OutputType.scriptPubkey, witnessProgram?_scriptHashOutput]
    exact validScriptHash_compatibility hpays rfl (validWitnessScript_of_signed rfl
      (accepts_script_of_spendsSwap hspends hlayout htakes hsigned.lockTime hmem
        (.inr (.inl houtput)) rfl hvalid))
  | legacy script =>
    rw [houtput] at huses hpays
    obtain ⟨hsize, hprogram⟩ := script_of_layout hlayout huses
    obtain ⟨signature, hsignature, hvalid⟩ := hsound.legacy tx.unsigned i script input.keys hlt
    cases hsign.symm.trans (signInput_legacy houtput hsize hsignature)
    rw [hpays, OutputType.scriptPubkey, witnessProgram?_scriptHashOutput]
    exact validScriptHash_legacy hpays hsize hprogram rfl rfl
      (accepts_script_of_spendsSwap hspends hlayout htakes hsigned.lockTime hmem
        (.inr (.inr houtput)) rfl hvalid)

end

end Boltz.Core

import Boltz.Core.SwapScripts
import Mathlib.Tactic.ByContra

/-!
# The output that a covenant pins

A third party can claim with a preimage alone, so the leaf has to say which output it pays. The
version of a witness program and its bytes are compared with what is introspected. Programs of
versions from 2 on are taken for scripts that are hashed; no transaction passes that comparison.
-/

namespace Boltz.Core.Elements

open Script (Builder Item Pushes Rules acceptsFrom intPush introspect
  introspectScript opDrop opEqual opEqualVerify opHash160 opInspectOutputAsset
  opInspectOutputScriptPubkey opInspectOutputValue opSize scriptInt)

variable {sha256 : Bytes → FixedBytes 32} {rules : Rules} {outputs : Script.Outputs} {stack : List Item}
variable {preimageHash : FixedBytes 20} {params : ClaimCovenantParams}

/-! ## The leaf -/

/-- The checks of the output, with the version and the item for its script. -/
def pinnedLayout (index : Bytes) (version : ℤ) (script assetId amount : Bytes) : Bytes :=
  index ++ opInspectOutputScriptPubkey :: (intPush version ++ opEqualVerify ::
    (Script.pushSlice [] script ++ opEqualVerify :: (index ++ opInspectOutputAsset ::
      (intPush 1 ++ opEqualVerify :: (Script.pushSlice [] assetId ++ opEqualVerify ::
        (index ++ opInspectOutputValue :: opDrop ::
          (Script.pushSlice [] amount ++ [opEqual])))))))

theorem createCovenantClaimLeaf_output :
    (createCovenantClaimLeaf sha256 preimageHash params).output =
      opSize :: (intPush (32 : ℕ) ++ opEqualVerify :: opHash160 ::
        (Script.pushSlice [] preimageHash.1 ++ opEqualVerify ::
          pinnedLayout (intPush params.index.toNat) (scriptIntrospectionValue sha256 params.output).1
            (scriptIntrospectionValue sha256 params.output).2 params.assetId.1
            (Script.leBytes 8 params.expectedAmount.toNat))) := by
  have hone : intPush 1 = [0x51] := rfl
  simp [createCovenantClaimLeaf, preimageSize, pinnedLayout, Script.pushInt_eq, Builder.new,
    Builder.pushOpcode, Builder.pushData, Script.pushSlice, hone]

/-- The output is what the checks compare. -/
structure OutputMatches (sha256 : Bytes → FixedBytes 32) (output : Script.Output)
    (introValue : ℤ × Bytes) (assetId : FixedBytes 32) (amount : UInt64) : Prop where
  script : [scriptInt (introspectScript sha256 output.scriptPubkey).1,
    (introspectScript sha256 output.scriptPubkey).2] = [scriptInt introValue.1, introValue.2]
  asset : output.asset = .explicit assetId
  value : output.value = .explicit amount

theorem acceptsFrom_pinnedLayout {index : ℕ} {introValue : ℤ × Bytes}
    {assetId : FixedBytes 32} {amount : UInt64} (hindex : index < 2 ^ 32)
    (hrules : rules.other = introspect sha256 outputs)
    (hversion : Pushes (intPush introValue.1) (scriptInt introValue.1))
    (hscript : introValue.2.length ≤ Script.maxElementSize) :
    acceptsFrom rules (pinnedLayout (intPush index) introValue.1 introValue.2 assetId.1
        (Script.leBytes 8 amount.toNat)) ⟨stack, []⟩ = true ↔
      stack = [] ∧ ∃ output, outputs.1[index]? = some output ∧
        OutputMatches sha256 output introValue assetId amount := by
  have hpush := Script.pushes_intPush index
  have hone : Pushes (intPush 1) [1] := Script.pushes_intPush 1
  have hasset : Pushes (Script.pushSlice [] assetId.1) assetId.1 :=
    Script.pushes_pushSlice (by rw [assetId.2]; decide)
  have hamount : Pushes (Script.pushSlice [] (Script.leBytes 8 amount.toNat))
      (Script.leBytes 8 amount.toNat) :=
    Script.pushes_pushSlice (by rw [Script.length_leBytes]; decide)
  unfold pinnedLayout
  cases houtput : outputs.1[index]? with
  | none =>
    rw [Script.acceptsFrom_introspect (by simp) hindex hrules hpush, houtput]
    simp
  | some output =>
    obtain ⟨a, b, hitems⟩ := output.asset.exists_items
    obtain ⟨c, d, hitems'⟩ := output.value.exists_items
    have hassetItems : output.items sha256 opInspectOutputAsset = some [a, b] := congrArg some hitems
    have hvalueItems : output.items sha256 opInspectOutputValue = some [c, d] :=
      congrArg some hitems'
    rw [Script.acceptsFrom_introspect_compare (by simp) hindex hrules houtput rfl hpush hversion
        (Script.pushes_pushSlice hscript),
      Script.acceptsFrom_introspect_compare (by simp) hindex hrules houtput hassetItems hpush hone
        hasset,
      Script.acceptsFrom_introspect (by simp) hindex hrules hpush, houtput, Option.bind_some,
      hvalueItems]
    -- the prefix of the value is dropped
    show (_ && (_ && acceptsFrom rules (opDrop :: _) ⟨c :: d :: stack, []⟩)) = true ↔ _
    rw [Script.acceptsFrom_drop rfl, hamount.run rfl, Bool.and_eq_true, Bool.and_eq_true,
      decide_eq_true_iff, decide_eq_true_iff, Script.acceptsFrom_equal_nil]
    have hassetEq : [a, b] = [[1], assetId.1] ↔ output.asset = .explicit assetId := by
      rw [← hitems]
      exact Script.Asset.items_eq
    have hvalueEq : Script.leBytes 8 amount.toNat = d ↔ output.value = .explicit amount := by
      rw [← Script.Value.items_eq, hitems']
      simp [eq_comm]
    rw [hassetEq, hvalueEq]
    constructor
    · rintro ⟨hscripts, hassets, hvalues, rfl⟩
      exact ⟨rfl, output, rfl, hscripts, hassets, hvalues⟩
    · rintro ⟨rfl, output', houtput', hmatches⟩
      cases houtput'
      exact ⟨hmatches.script, hmatches.asset, hmatches.value, rfl⟩

/-! ## Introspection of destinations -/

/-- The version of a destination that is a witness program. -/
def Payload.version? : Payload → Option ℕ
  | .witnessProgram version _ => some version
  | _ => none

theorem pushSlice_program {opcode : UInt8} {program : Bytes} (h : program.length ≤ 40) :
    Script.pushSlice [opcode] program = opcode :: UInt8.ofNat program.length :: program := by
  rw [Script.pushSlice, Script.pushHeader, if_pos (by omega)]
  rfl

theorem length_scriptPubkey (output : Payload) : output.scriptPubkey.length ≤ 42 := by
  cases output with
  | pubkeyHash hash =>
    simp [Payload.scriptPubkey, Script.pushSlice, Script.pushHeader, hash.2]
  | scriptHash hash =>
    simp [Payload.scriptPubkey, Script.pushSlice, Script.pushHeader, hash.2]
  | witnessProgram version program =>
    have hlength := program.2.2
    rw [Payload.scriptPubkey, pushSlice_program hlength, List.length_cons, List.length_cons]
    omega

theorem versionOpcode (version : Fin 17) :
    (version.1 ≠ 0 → 0x51 ≤ UInt8.ofNat (version.1 + 0x50) ∧
        UInt8.ofNat (version.1 + 0x50) ≤ 0x60) ∧
      (UInt8.ofNat (version.1 + 0x50)).toNat - 0x50 = version.1 ∧
      UInt8.ofNat (version.1 + 0x50) ≠ 0 ∧
      (UInt8.ofNat (version.1 + 0x50) = 0x51 ↔ version.1 = 1) := by
  revert version
  decide

theorem introspectScript_witnessProgram (version : Fin 17)
    (program : { bytes : Bytes // 2 ≤ bytes.length ∧ bytes.length ≤ 40 }) :
    introspectScript sha256 (Payload.witnessProgram version program).scriptPubkey =
      ((version.1 : ℤ), program.1) := by
  have hlength : (UInt8.ofNat program.1.length).toNat = program.1.length := by
    have hle := program.2.2
    rw [UInt8.toNat_ofNat']
    omega
  obtain ⟨hrange, hback, hne, -⟩ := versionOpcode version
  have hprogram : Script.witnessProgram? (Payload.witnessProgram version program).scriptPubkey =
      some (version.1, program.1) := by
    rw [Payload.scriptPubkey, pushSlice_program program.2.2, Script.witnessProgram?]
    by_cases hzero : version.1 = 0
    · rw [if_pos hzero, if_pos ⟨program.2.1, program.2.2, hlength, .inl rfl⟩, if_pos rfl, hzero]
    · rw [if_neg hzero, if_pos ⟨program.2.1, program.2.2, hlength, .inr (hrange hzero)⟩,
        if_neg hne, hback]
  rw [introspectScript, hprogram]

/-- Scripts that do not start like witness programs are hashed. -/
theorem introspectScript_hash {opcode : UInt8} (hopcode : opcode ≠ 0)
    (hrange : ¬(0x51 ≤ opcode ∧ opcode ≤ 0x60)) (script : Bytes) :
    introspectScript sha256 (opcode :: script) = (-1, (sha256 (opcode :: script)).1) := by
  rw [introspectScript, Script.witnessProgram?_eq_none hopcode hrange]

/-- Up to version 1 the leaf expects what is introspected. -/
theorem scriptIntrospectionValue_eq {output : Payload} (h : ∀ version ∈ output.version?, version < 2) :
    scriptIntrospectionValue sha256 output = introspectScript sha256 output.scriptPubkey := by
  cases output with
  | pubkeyHash hash =>
    exact (introspectScript_hash (show (0x76 : UInt8) ≠ 0 by decide) (by decide) _).symm
  | scriptHash hash =>
    exact (introspectScript_hash (show opHash160 ≠ 0 by decide) (by decide) _).symm
  | witnessProgram version program =>
    have hversion : version.1 = 0 ∨ version.1 = 1 := by
      have hlt : version.1 < 2 := h version.1 rfl
      omega
    have hlength := program.2.2
    rw [introspectScript_witnessProgram]
    rcases hversion with hversion | hversion
    · simp only [scriptIntrospectionValue, Payload.scriptPubkey, hversion, if_true,
        pushSlice_program hlength, List.head?_cons]
      rfl
    · simp only [scriptIntrospectionValue, Payload.scriptPubkey, hversion, Nat.one_ne_zero, if_false,
        pushSlice_program hlength, List.head?_cons]
      rfl

/-- Later versions are taken for scripts that are hashed. -/
theorem scriptIntrospectionValue_future {version : Fin 17}
    {program : { bytes : Bytes // 2 ≤ bytes.length ∧ bytes.length ≤ 40 }} (h : 2 ≤ version.1) :
    (scriptIntrospectionValue sha256 (.witnessProgram version program)).1 = -1 := by
  obtain ⟨-, -, hne, hone⟩ := versionOpcode version
  have hne' : UInt8.ofNat (version.1 + 0x50) ≠ 0x51 := fun heq => by
    have := hone.mp heq
    omega
  simp only [scriptIntrospectionValue, Payload.scriptPubkey, pushSlice_program program.2.2,
    List.head?_cons]
  rw [if_neg (show ¬version.1 = 0 by omega), if_neg hne, if_neg hne']

theorem scriptIntrospectionValue_version (output : Payload) :
    Pushes (intPush (scriptIntrospectionValue sha256 output).1)
      (scriptInt (scriptIntrospectionValue sha256 output).1) := by
  simp only [scriptIntrospectionValue]
  split
  · split
    · exact Script.pushes_intPush 0
    · split
      · exact Script.pushes_intPush 1
      · exact Script.pushes_intPush_neg
  · exact Script.pushes_intPush_neg

theorem scriptIntrospectionValue_length (output : Payload) :
    (scriptIntrospectionValue sha256 output).2.length ≤ Script.maxElementSize := by
  have hscript := length_scriptPubkey output
  have hslice : (sliceSegwitScript output.scriptPubkey).length ≤ Script.maxElementSize := by
    rw [sliceSegwitScript, Script.maxElementSize]
    split
    · rw [List.length_drop]
      omega
    · omega
  have hhash : (sha256 output.scriptPubkey).1.length ≤ Script.maxElementSize := by
    rw [(sha256 output.scriptPubkey).2]
    decide
  simp only [scriptIntrospectionValue]
  split
  · split
    · exact hslice
    · split
      · exact hslice
      · exact hhash
  · exact hhash

/-! ## What the leaf accepts -/

/-- The leaf of a spending transaction with these outputs. -/
def Accepts (sha256 : Bytes → FixedBytes 32) (rules : Rules) (preimageHash : FixedBytes 20)
    (params : ClaimCovenantParams) (outputs : Script.Outputs) (stack : List Item) : Prop :=
  Script.accepts { rules with other := introspect sha256 outputs }
    (createCovenantClaimLeaf sha256 preimageHash params).output stack = true

/-- The witness is a preimage. -/
def IsPreimage (rules : Rules) (preimageHash : FixedBytes 20) (stack : List Item) : Prop :=
  ∃ preimage, stack = [preimage] ∧ preimage.length = 32 ∧ rules.hash160 preimage = preimageHash.1

/-- The output that the parameters describe. -/
def ClaimCovenantParams.pinned (params : ClaimCovenantParams) : Script.Output where
  asset := .explicit params.assetId
  value := .explicit params.expectedAmount
  scriptPubkey := params.output.scriptPubkey

theorem accepts_covenantClaimLeaf :
    Accepts sha256 rules preimageHash params outputs stack ↔
      IsPreimage rules preimageHash stack ∧
        ∃ output, outputs.1[params.index.toNat]? = some output ∧
          OutputMatches sha256 output (scriptIntrospectionValue sha256 params.output) params.assetId
            params.expectedAmount := by
  unfold Accepts IsPreimage Script.accepts
  rw [createCovenantClaimLeaf_output]
  rcases stack with _ | ⟨item, stack⟩
  · rw [Script.acceptsFrom_underflow rfl (by simp)]
    simp
  rw [Script.acceptsFrom_sizeLock (Script.pushes_intPush 32),
    Script.acceptsFrom_hashLock (length_le_maxElementSize preimageHash (by decide)),
    Bool.and_eq_true, Bool.and_eq_true, decide_eq_true_iff, decide_eq_true_iff,
    acceptsFrom_pinnedLayout params.index.toNat_lt rfl (scriptIntrospectionValue_version _)
      (scriptIntrospectionValue_length _)]
  constructor
  · rintro ⟨hlength, hhash, rfl, houtput⟩
    exact ⟨⟨item, rfl, hlength, hhash⟩, houtput⟩
  · rintro ⟨⟨preimage, hstack, hlength, hhash⟩, houtput⟩
    obtain ⟨rfl, rfl⟩ := List.cons.inj hstack
    exact ⟨hlength, hhash, rfl, houtput⟩

/-- Introspection tells scripts apart. -/
theorem outputMatches_iff {output : Script.Output}
    (hversion : ∀ version ∈ params.output.version?, version < 2)
    (hsha256 : ∀ script, sha256 script = sha256 params.output.scriptPubkey →
      script = params.output.scriptPubkey) :
    OutputMatches sha256 output (scriptIntrospectionValue sha256 params.output) params.assetId
      params.expectedAmount ↔ output = params.pinned := by
  rw [scriptIntrospectionValue_eq hversion]
  constructor
  · rintro ⟨hscript, hasset, hvalue⟩
    obtain ⟨hversions, hitems⟩ : _ ∧ _ := by simpa only [List.cons.injEq, and_true] using hscript
    have hrange : ∀ script, -1 ≤ (introspectScript sha256 script).1 ∧
        (introspectScript sha256 script).1 ≤ 16 := Script.introspectScript_bounds
    have hbounds := hrange output.scriptPubkey
    have hbounds' := hrange params.output.scriptPubkey
    have hsame : (introspectScript sha256 output.scriptPubkey).1 =
        (introspectScript sha256 params.output.scriptPubkey).1 := by
      rw [← Script.readInt_scriptInt_version hbounds.1 hbounds.2, hversions,
        Script.readInt_scriptInt_version hbounds'.1 hbounds'.2]
    have heq := Script.introspectScript_inj (hsha256 output.scriptPubkey) (Prod.ext hsame hitems)
    obtain ⟨asset, value, scriptPubkey⟩ := output
    cases hasset
    cases hvalue
    cases heq
    rfl
  · rintro rfl
    exact ⟨rfl, rfl, rfl⟩

/-- An output that pays to a later version does not pass. -/
theorem not_outputMatches_pinned {version : ℕ} (h : params.output.version? = some version)
    (hversion : 2 ≤ version) :
    ¬OutputMatches sha256 params.pinned (scriptIntrospectionValue sha256 params.output)
      params.assetId params.expectedAmount := by
  rintro ⟨hscript, -, -⟩
  cases houtput : params.output with
  | pubkeyHash hash => simp [houtput, Payload.version?] at h
  | scriptHash hash => simp [houtput, Payload.version?] at h
  | witnessProgram version' program =>
    rw [houtput] at h
    cases h
    have hpinned : params.pinned.scriptPubkey =
        (Payload.witnessProgram version' program).scriptPubkey := by
      rw [ClaimCovenantParams.pinned, houtput]
    rw [hpinned, houtput, scriptIntrospectionValue_future hversion, introspectScript_witnessProgram]
      at hscript
    have hversions := (List.cons.inj hscript).1
    have hread := congrArg Script.readInt hversions
    rw [Script.readInt_scriptInt_version (by omega) (by omega),
      Script.readInt_scriptInt_version (by omega) (by omega)] at hread
    omega

/-! ## Pinned outputs -/

/-- A preimage claims exactly to the promised output, unless that is one of a later version. -/
theorem covenantClaimLeaf_pins_iff (sha256 : Bytes → FixedBytes 32) (rules : Rules)
    (preimageHash : FixedBytes 20) (params : ClaimCovenantParams)
    (hsha256 : ∀ script, sha256 script = sha256 params.output.scriptPubkey →
      script = params.output.scriptPubkey) :
    (∀ outputs stack, Accepts sha256 rules preimageHash params outputs stack ↔
        IsPreimage rules preimageHash stack ∧
          outputs.1[params.index.toNat]? = some params.pinned) ↔
      (∀ version ∈ params.output.version?, version < 2) ∨ 2 ^ 31 ≤ params.index.toNat ∨
        ∀ stack, ¬IsPreimage rules preimageHash stack := by
  constructor
  · intro hpins
    by_contra! hfails
    obtain ⟨⟨version, houtput, hversion⟩, hindex, stack, hpreimage⟩ := hfails
    -- a transaction that keeps the promise
    let outputs : Script.Outputs :=
      ⟨List.replicate (params.index.toNat + 1) params.pinned, by rw [List.length_replicate]; omega⟩
    have hpaid : outputs.1[params.index.toNat]? = some params.pinned := by
      rw [List.getElem?_replicate, if_pos (Nat.lt_succ_self _)]
    obtain ⟨-, output, hsome, hmatches⟩ :=
      accepts_covenantClaimLeaf.mp ((hpins outputs stack).mpr ⟨hpreimage, hpaid⟩)
    cases hpaid.symm.trans hsome
    exact not_outputMatches_pinned houtput hversion hmatches
  · intro hcondition outputs stack
    rw [accepts_covenantClaimLeaf]
    refine and_congr_right fun hpreimage => ?_
    rcases hcondition with hversion | hindex | hnone
    · simp only [outputMatches_iff hversion hsha256, exists_eq_right]
    · have hoverflow : outputs.1[params.index.toNat]? = none := by
        apply List.getElem?_eq_none
        have hbound := outputs.2
        omega
      simp [hoverflow]
    · exact absurd hpreimage (hnone stack)

/-! ## A preimage of 32 sevens -/

def exampleHash : FixedBytes 20 :=
  ⟨[181, 102, 163, 238, 204, 232, 9, 137, 99, 97, 152, 136, 35, 205, 47, 66, 63, 232, 0, 231], rfl⟩

/-- The hashes are those of the preimage and of two scripts. -/
def covenantRules : Rules where
  hash160 item := if item = List.replicate 32 7 then exampleHash.1 else []
  checkSig _ _ := false
  lockTime := 0
  sequence := 0xfffffffd
  minimalIf := true
  nullFail := true
  other _ _ := none

def scriptHashParams : ClaimCovenantParams where
  index := 1
  output := .scriptHash (repeated 20 7)
  assetId := repeated 32 1
  expectedAmount := 100000

/-- A witness program of version 2. -/
def futureParams : ClaimCovenantParams where
  index := 0
  output := .witnessProgram 2 ⟨List.replicate 32 9, by decide⟩
  assetId := repeated 32 1
  expectedAmount := 100000

def exampleSha256 (script : Bytes) : FixedBytes 32 :=
  if script = scriptHashParams.output.scriptPubkey then
    ⟨[219, 237, 20, 134, 77, 99, 48, 31, 239, 156, 229, 117, 57, 221, 27, 255, 240, 155, 220, 88,
      54, 94, 239, 136, 225, 104, 233, 11, 119, 216, 58, 127], rfl⟩
  else if script = futureParams.output.scriptPubkey then
    ⟨[128, 177, 10, 89, 154, 70, 60, 222, 101, 100, 34, 24, 133, 241, 162, 247, 251, 18, 151, 46,
      87, 68, 230, 178, 68, 149, 200, 28, 113, 126, 214, 82], rfl⟩
  else repeated 32 0

theorem exampleSha256_scriptHash (script : Bytes)
    (h : exampleSha256 script = exampleSha256 scriptHashParams.output.scriptPubkey) :
    script = scriptHashParams.output.scriptPubkey := by
  by_contra hne
  rw [exampleSha256, exampleSha256, if_neg hne, if_pos rfl] at h
  split at h
  · cases h
  · cases h

theorem covenantClaimLeaf_pins_scriptHash :
    Accepts exampleSha256 covenantRules exampleHash scriptHashParams
      ⟨[futureParams.pinned, scriptHashParams.pinned], by decide⟩ [List.replicate 32 7] :=
  ((covenantClaimLeaf_pins_iff exampleSha256 covenantRules exampleHash scriptHashParams
      exampleSha256_scriptHash).mpr (.inl (by rintro version ⟨⟩)) _ _).mpr
    ⟨⟨_, rfl, rfl, rfl⟩, rfl⟩

/-- The promised output and the preimage do not spend a leaf for a later version. -/
theorem covenantClaimLeaf_future_locked :
    ¬(Accepts exampleSha256 covenantRules exampleHash futureParams ⟨[futureParams.pinned], by decide⟩
        [List.replicate 32 7] ↔
      IsPreimage covenantRules exampleHash [List.replicate 32 7] ∧
        [futureParams.pinned][futureParams.index.toNat]? = some futureParams.pinned) := by
  intro hclaim
  have haccepts := hclaim.mpr ⟨⟨_, rfl, rfl, rfl⟩, rfl⟩
  obtain ⟨-, output, hsome, hmatches⟩ := accepts_covenantClaimLeaf.mp haccepts
  cases hsome
  exact not_outputMatches_pinned rfl (by decide) hmatches

end Boltz.Core.Elements

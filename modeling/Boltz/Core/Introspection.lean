import Boltz.Core.ScriptMachine

/-!
# Introspection of outputs

Opcodes of Elements that put parts of an output of the spending transaction onto the stack. The
asset and the value are followed by a prefix, which tells explicit ones from commitments. A witness
program is followed by its version, and of any other script there is the hash with the version -1.
-/

namespace Script

def opInspectOutputAsset : UInt8 := 0xce
def opInspectOutputValue : UInt8 := 0xcf
def opInspectOutputScriptPubkey : UInt8 := 0xd1

/-- The coordinate of a commitment, and which of two points it is. -/
structure Commitment where
  odd : Bool
  x : { bytes : Item // bytes.length = 32 }
  deriving DecidableEq, Repr

inductive Asset where
  | explicit (id : { bytes : Item // bytes.length = 32 })
  | commitment (point : Commitment)
  deriving DecidableEq, Repr

inductive Value where
  | explicit (amount : UInt64)
  | commitment (point : Commitment)
  deriving DecidableEq, Repr

structure Output where
  asset : Asset
  value : Value
  scriptPubkey : List UInt8
  deriving DecidableEq, Repr

/-- The outputs of a transaction, of which there are never more than a signed index can name. -/
abbrev Outputs := { outputs : List Output // outputs.length ≤ 2 ^ 31 }

/-- The items of an asset, the prefix on top. -/
def Asset.items : Asset → List Item
  | .explicit id => [[1], id.1]
  | .commitment point => [[if point.odd then 11 else 10], point.x.1]

def Value.items : Value → List Item
  | .explicit amount => [[1], leBytes 8 amount.toNat]
  | .commitment point => [[if point.odd then 9 else 8], point.x.1]

/-- A script of a version and a push of 2 to 40 bytes. -/
def witnessProgram? : List UInt8 → Option (ℕ × List UInt8)
  | opcode :: length :: program =>
    if 2 ≤ program.length ∧ program.length ≤ 40 ∧ length.toNat = program.length ∧
        (opcode = 0 ∨ 0x51 ≤ opcode ∧ opcode ≤ 0x60) then
      some (if opcode = 0 then 0 else opcode.toNat - 0x50, program)
    else none
  | _ => none

/-- The version of a script and its program or hash. -/
def introspectScript (sha256 : List UInt8 → { bytes : Item // bytes.length = 32 })
    (script : List UInt8) : ℤ × Item :=
  match witnessProgram? script with
  | some (version, program) => (version, program)
  | none => (-1, (sha256 script).1)

/-- What an opcode reads of an output. -/
def Output.items (sha256 : List UInt8 → { bytes : Item // bytes.length = 32 }) (output : Output)
    (byte : UInt8) : Option (List Item) :=
  if byte = opInspectOutputAsset then some output.asset.items
  else if byte = opInspectOutputValue then some output.value.items
  else if byte = opInspectOutputScriptPubkey then
    let (version, program) := introspectScript sha256 output.scriptPubkey
    some [scriptInt version, program]
  else none

def Outputs.at? (outputs : Outputs) (index : ℤ) : Option Output :=
  if index < 0 then none else outputs.1[index.toNat]?

/-- The opcodes pop the index of an output. -/
def introspect (sha256 : List UInt8 → { bytes : Item // bytes.length = 32 }) (outputs : Outputs)
    (byte : UInt8) : List Item → Option (List Item)
  | item :: stack => do
    let index ← scriptNum 4 item
    let output ← Outputs.at? outputs index
    (output.items sha256 byte).map (· ++ stack)
  | [] => none

section

variable {sha256 : List UInt8 → { bytes : Item // bytes.length = 32 }} {outputs : Outputs}
variable {rules : Rules} {rest : List UInt8} {stack : List Item}

theorem introspect_scriptInt {byte : UInt8} {index : ℕ} (hindex : index < 2 ^ 32) :
    introspect sha256 outputs byte (scriptInt index :: stack) =
      outputs.1[index]?.bind fun output => (output.items sha256 byte).map (· ++ stack) := by
  have hat : Outputs.at? outputs index = outputs.1[index]? := by
    rw [Outputs.at?, if_neg (by omega), Int.toNat_natCast]
  by_cases hsmall : index < 2 ^ 31
  · have hnum : scriptNum 4 (scriptInt index) = some (index : ℤ) :=
      scriptNum_scriptInt_of_lt (k := 3) (by omega) (by decide)
    simp only [introspect, hnum, hat, Option.bind_eq_bind, Option.bind_some]
  · have hnone : outputs.1[index]? = none := by
      apply List.getElem?_eq_none
      have hbound := outputs.2
      omega
    have hnum : scriptNum 4 (scriptInt index) = none ∨
        scriptNum 4 (scriptInt index) = some (index : ℤ) := by
      rw [scriptNum, readInt_scriptInt (by omega)]
      split
      · exact .inr rfl
      · exact .inl rfl
    rcases hnum with hnum | hnum
    · simp only [introspect, hnum, hnone, Option.bind_eq_bind, Option.bind_none]
    · simp only [introspect, hnum, hat, hnone, Option.bind_eq_bind, Option.bind_some,
        Option.bind_none]

/-- What is read is on top of the stack; without the output the script fails. -/
theorem acceptsFrom_introspect {byte : UInt8} {index : ℕ}
    (hbyte : byte ∈ [opInspectOutputAsset, opInspectOutputValue, opInspectOutputScriptPubkey])
    (hindex : index < 2 ^ 32) (hrules : rules.other = introspect sha256 outputs) {script : List UInt8}
    (hpush : Pushes script (scriptInt index)) :
    acceptsFrom rules (script ++ byte :: rest) ⟨stack, []⟩ =
      match outputs.1[index]?.bind fun output => output.items sha256 byte with
      | some items => acceptsFrom rules rest ⟨items ++ stack, []⟩
      | none => false := by
  have hother : 0x4e < byte.toNat ∧ Opcode.ofByte byte = .other byte := by
    simp only [List.mem_cons, List.not_mem_nil, or_false] at hbyte
    rcases hbyte with rfl | rfl | rfl <;> decide
  rw [hpush.run rfl, acceptsFrom_other rfl hother.1 hother.2, hrules, introspect_scriptInt hindex]
  cases outputs.1[index]? with
  | none => rfl
  | some output =>
    simp only [Option.bind_some]
    cases output.items sha256 byte <;> rfl

/-- Two items that are read are compared with two of the script. -/
theorem acceptsFrom_introspect_compare {byte : UInt8} {index : ℕ}
    (hbyte : byte ∈ [opInspectOutputAsset, opInspectOutputValue, opInspectOutputScriptPubkey])
    (hindex : index < 2 ^ 32) (hrules : rules.other = introspect sha256 outputs)
    {script first second : List UInt8} {a b c d : Item} {output : Output}
    (houtput : outputs.1[index]? = some output) (hitems : output.items sha256 byte = some [a, b])
    (hpush : Pushes script (scriptInt index)) (hfirst : Pushes first c) (hsecond : Pushes second d) :
    acceptsFrom rules (script ++ byte :: (first ++ opEqualVerify ::
        (second ++ opEqualVerify :: rest))) ⟨stack, []⟩ =
      (decide ([a, b] = [c, d]) && acceptsFrom rules rest ⟨stack, []⟩) := by
  rw [acceptsFrom_introspect hbyte hindex hrules hpush, houtput, Option.bind_some, hitems]
  show acceptsFrom rules _ ⟨a :: b :: stack, []⟩ = _
  rw [acceptsFrom_compare hfirst, acceptsFrom_compare hsecond]
  simp only [List.cons.injEq, and_true, Bool.decide_and, Bool.and_assoc]

/-! ## What is read back -/

theorem Asset.exists_items (asset : Asset) : ∃ a b, asset.items = [a, b] := by
  cases asset <;> exact ⟨_, _, rfl⟩

theorem Value.exists_items (value : Value) : ∃ a b, value.items = [a, b] := by
  cases value <;> exact ⟨_, _, rfl⟩

theorem Asset.items_eq {asset : Asset} {id : { bytes : Item // bytes.length = 32 }} :
    asset.items = [[1], id.1] ↔ asset = .explicit id := by
  cases asset with
  | explicit id' => simp [Asset.items, Subtype.ext_iff]
  | commitment point => cases h : point.odd <;> simp [Asset.items, h]

/-- A commitment is longer than an amount, so that the prefix is not needed. -/
theorem Value.items_eq {value : Value} {amount : UInt64} :
    (∃ marker, value.items = [marker, leBytes 8 amount.toNat]) ↔ value = .explicit amount := by
  cases value with
  | explicit amount' =>
    constructor
    · rintro ⟨marker, h⟩
      simp only [Value.items, List.cons.injEq, and_true] at h
      have hread := congrArg ofLeBytes h.2
      rw [ofLeBytes_leBytes (by have := amount'.toNat_lt; omega),
        ofLeBytes_leBytes (by have := amount.toNat_lt; omega)] at hread
      rw [UInt64.toNat_inj.mp hread]
    · rintro h
      cases h
      exact ⟨[1], rfl⟩
  | commitment point =>
    refine iff_of_false ?_ (by simp)
    rintro ⟨marker, h⟩
    simp only [Value.items, List.cons.injEq, and_true] at h
    have hlength := congrArg List.length h.2
    rw [point.x.2, length_leBytes] at hlength
    cases hlength

theorem readInt_scriptInt_version {n : ℤ} (h : -1 ≤ n) (h' : n ≤ 16) : readInt (scriptInt n) = n := by
  have hall : ∀ k < 18, readInt (scriptInt ((k : ℕ) - 1)) = (k : ℕ) - 1 := by decide
  have hn : ((n + 1).toNat : ℤ) = n + 1 := Int.toNat_of_nonneg (by omega)
  have hread := hall (n + 1).toNat (by omega)
  rw [hn, Int.add_sub_cancel] at hread
  exact hread

/-- A witness program is its version and its bytes. -/
theorem eq_of_witnessProgram? {script program : List UInt8} {version : ℕ}
    (h : witnessProgram? script = some (version, program)) :
    version ≤ 16 ∧
      script = (if version = 0 then 0 else UInt8.ofNat (version + 0x50)) ::
        UInt8.ofNat program.length :: program := by
  rcases script with _ | ⟨opcode, _ | ⟨length, script⟩⟩
  · cases h
  · cases h
  · simp only [witnessProgram?] at h
    split at h
    · rename_i hprogram
      obtain ⟨-, -, hlength, hopcode⟩ := hprogram
      cases h
      have hlength' : UInt8.ofNat program.length = length := by
        rw [← hlength, UInt8.ofNat_toNat]
      rw [hlength']
      rcases hopcode with rfl | ⟨hlow, hhigh⟩
      · exact ⟨Nat.zero_le _, rfl⟩
      · rw [UInt8.le_iff_toNat_le] at hlow hhigh
        have hlow' : 0x51 ≤ opcode.toNat := hlow
        have hhigh' : opcode.toNat ≤ 0x60 := hhigh
        have hne : opcode ≠ 0 := by
          rintro rfl
          exact absurd hlow' (by decide)
        have hsum : opcode.toNat - 0x50 + 0x50 = opcode.toNat := by omega
        rw [if_neg hne, if_neg (by omega), hsum, UInt8.ofNat_toNat]
        exact ⟨by omega, rfl⟩
    · cases h

/-- A script that does not start like a witness program. -/
theorem witnessProgram?_eq_none {opcode : UInt8} (hopcode : opcode ≠ 0)
    (hrange : ¬(0x51 ≤ opcode ∧ opcode ≤ 0x60)) (script : List UInt8) :
    witnessProgram? (opcode :: script) = none := by
  cases script with
  | nil => rfl
  | cons length script =>
    rw [witnessProgram?, if_neg]
    rintro ⟨-, -, -, hstart⟩
    exact hstart.elim hopcode hrange

theorem introspectScript_bounds (script : List UInt8) :
    -1 ≤ (introspectScript sha256 script).1 ∧ (introspectScript sha256 script).1 ≤ 16 := by
  unfold introspectScript
  cases hprogram : witnessProgram? script with
  | none => exact ⟨Int.le_refl (-1), (by decide : (-1 : ℤ) ≤ 16)⟩
  | some found =>
    obtain ⟨version, program⟩ := found
    have hversion := (eq_of_witnessProgram? hprogram).1
    exact ⟨by show -1 ≤ (version : ℤ); omega, by show (version : ℤ) ≤ 16; omega⟩

/-- Only the script itself is introspected as it is, unless its hash has another one. -/
theorem introspectScript_inj {a b : List UInt8} (hsha256 : sha256 a = sha256 b → a = b)
    (h : introspectScript sha256 a = introspectScript sha256 b) : a = b := by
  unfold introspectScript at h
  cases ha : witnessProgram? a with
  | none =>
    cases hb : witnessProgram? b with
    | none =>
      simp only [ha, hb, Prod.mk.injEq, true_and] at h
      exact hsha256 (Subtype.ext h)
    | some found =>
      simp only [ha, hb, Prod.mk.injEq] at h
      omega
  | some found =>
    cases hb : witnessProgram? b with
    | none =>
      simp only [ha, hb, Prod.mk.injEq] at h
      omega
    | some found' =>
      simp only [ha, hb, Prod.mk.injEq, Int.natCast_inj] at h
      have hfound : found = found' := Prod.ext h.1 h.2
      subst hfound
      rw [(eq_of_witnessProgram? ha).2, (eq_of_witnessProgram? hb).2]

end

end Script

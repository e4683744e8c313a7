import Boltz.Core.Introspection
import Boltz.Core.SignedInputs

/-!
# Validation of inputs

The script of the output that is spent decides which script has to be run, and with which items. It
may be in the signature script of the input, or in its witness. Hashes, the checks of signatures and
those of control blocks are given. Keys that are paid directly, and annexes, are left out.
-/

namespace Boltz.Core

open Script (Item Rules opEqual opHash160)

/-- Signatures are over transactions without scripts and witnesses, at an index. -/
structure Validation (TxOut : Type) where
  hash160 : Bytes → FixedBytes 20
  sha256 : Bytes → FixedBytes 32
  /-- with the script that is run, of a signature and a public key -/
  legacy : Transaction TxOut → Nat → Bytes → Item → Item → Bool
  /-- also with the output that is spent -/
  segwit : Transaction TxOut → Nat → Bytes → TxOut → Item → Item → Bool
  /-- with all outputs that are spent and a leaf -/
  taproot : Transaction TxOut → Nat → List TxOut → Tapleaf → Item → Item → Bool
  /-- the version of a leaf, of an output key, its script and a control block that proves it -/
  leafVersion : Bytes → Bytes → Bytes → Option UInt8
  scriptPubkey : TxOut → Bytes
  minimalIf : Bool
  nullFail : Bool
  other : UInt8 → List Item → Option (List Item)

/-! ## Outputs -/

/-- Pays to the hash of a script. -/
def scriptHashOutput (hash : FixedBytes 20) : Bytes :=
  Script.pushSlice [opHash160] hash.1 ++ [opEqual]

/-- Pays to a witness program of 32 bytes. -/
def witnessOutput (version : UInt8) (program : FixedBytes 32) : Bytes :=
  Script.pushSlice [version] program.1

def scriptItem : Except Script.ScriptError Script.Instruction → Option Item
  | .ok (.pushBytes data) => if data.length ≤ Script.maxElementSize then some data else none
  | _ => none

/-- The items of a script that consists of pushes. -/
def scriptItems (script : Bytes) : Option (List Item) :=
  (Script.instructions script).mapM scriptItem

namespace Validation

section

variable {TxOut : Type} (v : Validation TxOut) (tx : Transaction TxOut) (prevouts : List TxOut)
variable (i : Nat) (txIn : TxIn) (prevout : TxOut)

def rules (checkSig : Item → Item → Bool) : Rules where
  hash160 item := (v.hash160 item).1
  checkSig := checkSig
  lockTime := tx.lockTime
  sequence := txIn.sequence
  minimalIf := v.minimalIf
  nullFail := v.nullFail
  other := v.other

/-- The last item of the witness is the script. -/
def validWitnessScript (program : Bytes) : Bool :=
  match txIn.witness.reverse with
  | script :: stack =>
    (v.sha256 script).1 = program &&
      Script.accepts (v.rules tx txIn (v.segwit tx.unsigned i script prevout)) script stack
  | [] => false

/-- A control block follows the script. -/
def validLeaf (outputKey : Bytes) : Bool :=
  match txIn.witness.reverse with
  | controlBlock :: script :: stack =>
    match v.leafVersion outputKey script controlBlock with
    | some version =>
      Script.accepts (v.rules tx txIn (v.taproot tx.unsigned i prevouts ⟨version, script⟩)) script
        stack
    | none => false
  | _ => false

/-- The script is pushed last, and may be a witness program itself. -/
def validScriptHash : Bool :=
  match (scriptItems txIn.scriptSig).map List.reverse with
  | some (redeem :: stack) =>
    v.scriptPubkey prevout = scriptHashOutput (v.hash160 redeem) &&
      match Script.witnessProgram? redeem with
      | some (0, program) =>
        txIn.scriptSig = Script.pushSlice [] redeem && v.validWitnessScript tx i txIn prevout program
      | _ =>
        txIn.witness = [] &&
          Script.accepts (v.rules tx txIn (v.legacy tx.unsigned i redeem)) redeem stack
  | _ => false

def validInput : Bool :=
  match tx.input[i]?, prevouts[i]? with
  | some txIn, some prevout =>
    match Script.witnessProgram? (v.scriptPubkey prevout) with
    | some (0, program) => txIn.scriptSig = [] && v.validWitnessScript tx i txIn prevout program
    | some (1, outputKey) => txIn.scriptSig = [] && v.validLeaf tx prevouts i txIn outputKey
    | _ => v.validScriptHash tx i txIn prevout
  | _, _ => false

end

end Validation

/-! ## Scripts of pushes -/

theorem scriptItems_append {data : Bytes} (h : data.length ≤ Script.maxElementSize)
    (rest : Bytes) :
    scriptItems (Script.pushSlice [] data ++ rest) = (scriptItems rest).map (data :: ·) := by
  have hsize : data.length < 2 ^ 32 := Nat.lt_of_le_of_lt h (by decide)
  rw [scriptItems, Script.pushSlice, List.nil_append, List.append_assoc,
    Script.instructions_push hsize, List.mapM_cons]
  have hitem : scriptItem (.ok (.pushBytes data)) = some data := if_pos h
  rw [hitem, scriptItems]
  cases (Script.instructions rest).mapM scriptItem <;> rfl

theorem scriptItems_pushes (items : List Bytes)
    (h : ∀ item ∈ items, item.length ≤ Script.maxElementSize) :
    scriptItems (items.flatMap (Script.pushSlice [])) = some items := by
  induction items with
  | nil => rfl
  | cons item items ih =>
    rw [List.flatMap_cons, scriptItems_append (h item (List.mem_cons_self ..)),
      ih fun item hitem => h item (List.mem_cons_of_mem _ hitem)]
    rfl

theorem witnessProgram?_witnessOutput (program : FixedBytes 32) :
    Script.witnessProgram? (witnessOutput 0 program) = some (0, program.1) ∧
      Script.witnessProgram? (witnessOutput 0x51 program) = some (1, program.1) := by
  have hscript : ∀ version, witnessOutput version program = version :: 32 :: program.1 := by
    intro version
    rw [witnessOutput, Script.pushSlice, Script.pushHeader, program.2]
    rfl
  simp only [hscript, Script.witnessProgram?, program.2]
  exact ⟨rfl, rfl⟩

end Boltz.Core

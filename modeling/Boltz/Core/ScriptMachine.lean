import Boltz.Core.Script
import Mathlib.Algebra.Ring.Int.Defs
import Mathlib.Data.List.Basic

/-!
# Execution of scripts

The items of the stack are strings of bytes, which some opcodes read as numbers and some as truth
values. What is hashed and signed, and the transaction that spends, is given by the `Rules`; so are
opcodes that only some chains have. `accepts` is the rule that a single true item is left.
-/

namespace Script

abbrev Item := List UInt8

/-! ## Numbers and truth values -/

/-- The lowest byte comes first, and the highest bit of the last one is the sign. -/
def numBytes (negative : Bool) : ℕ → ℕ → Item
  | 0, _ => []
  | fuel + 1, abs =>
    if 0xff < abs then UInt8.ofNat abs :: numBytes negative fuel (abs / 256)
    else if 0x80 ≤ abs then [UInt8.ofNat abs, if negative then 0x80 else 0]
    else [UInt8.ofNat (abs + if negative then 0x80 else 0)]

/-- `write_scriptint`; a number has eight bytes at most. -/
def scriptInt (n : ℤ) : Item := if n = 0 then [] else numBytes (n < 0) 8 n.natAbs

def readInt (item : Item) : ℤ :=
  match item.getLast? with
  | none => 0
  | some last =>
    if last.toNat < 0x80 then ofLeBytes item
    else -((ofLeBytes item : ℤ) - 0x80 * 256 ^ (item.length - 1))

/-- `CScriptNum`, of an item that is not too long. -/
def scriptNum (maxSize : ℕ) (item : Item) : Option ℤ :=
  if item.length ≤ maxSize then some (readInt item) else none

/-- Any item but zero and negative zero. -/
def castToBool : Item → Bool
  | [] => false
  | [byte] => byte ≠ 0 && byte ≠ 0x80
  | byte :: item => byte ≠ 0 || castToBool item

def ofBool (b : Bool) : Item := if b then [1] else []

/-! ## Builders -/

abbrev Builder := List UInt8

namespace Builder

def new : Builder := []

def pushOpcode (script : Builder) (opcode : UInt8) : Builder := script ++ [opcode]

def pushData (script : Builder) (data : List UInt8) : Builder := Script.pushSlice script data

/-- Small numbers have opcodes. -/
def pushInt (script : Builder) (n : ℤ) : Builder :=
  if n = -1 ∨ 1 ≤ n ∧ n ≤ 16 then script.pushOpcode (UInt8.ofNat (n + 0x50).toNat)
  else script.pushData (scriptInt n)

end Builder

/-- The push that `pushInt` appends. -/
def intPush (n : ℤ) : List UInt8 := Builder.new.pushInt n

theorem pushInt_eq (script : Builder) (n : ℤ) : script.pushInt n = script ++ intPush n := by
  unfold intPush Builder.pushInt
  split
  · rfl
  · simp only [Builder.new, Builder.pushData, Script.pushSlice, List.nil_append]

/-! ## Opcodes -/

def opIf : UInt8 := 0x63
def opElse : UInt8 := 0x67
def opEndIf : UInt8 := 0x68
def opDrop : UInt8 := 0x75
def opSize : UInt8 := 0x82
def opEqual : UInt8 := 0x87
def opEqualVerify : UInt8 := 0x88
def opHash160 : UInt8 := 0xa9
def opCheckSig : UInt8 := 0xac
def opCheckSigVerify : UInt8 := 0xad
def opCltv : UInt8 := 0xb1

inductive Opcode where
  | pushNum (n : ℤ)
  | ifThen
  | ifNotThen
  | elseBranch
  | endIf
  | verify
  | drop
  | size
  | equal
  | equalVerify
  | hash160
  | checkSig
  | checkSigVerify
  | checkLockTimeVerify
  | other (byte : UInt8)
  deriving DecidableEq, Repr

def Opcode.ofByte (byte : UInt8) : Opcode :=
  if byte = 0x4f then .pushNum (-1)
  else if 0x51 ≤ byte ∧ byte ≤ 0x60 then .pushNum (byte.toNat - 0x50)
  else if byte = opIf then .ifThen
  else if byte = 0x64 then .ifNotThen
  else if byte = opElse then .elseBranch
  else if byte = opEndIf then .endIf
  else if byte = 0x69 then .verify
  else if byte = opDrop then .drop
  else if byte = opSize then .size
  else if byte = opEqual then .equal
  else if byte = opEqualVerify then .equalVerify
  else if byte = opHash160 then .hash160
  else if byte = opCheckSig then .checkSig
  else if byte = opCheckSigVerify then .checkSigVerify
  else if byte = opCltv then .checkLockTimeVerify
  else .other byte

/-- Lock times from here on are seconds, and those below are heights. -/
def lockTimeThreshold : ℕ := 500000000

structure Rules where
  hash160 : Item → Item
  /-- of a signature and a public key -/
  checkSig : Item → Item → Bool
  /-- the lock time of the transaction, and the sequence of the input -/
  lockTime : ℕ
  sequence : ℕ
  /-- Conditions are empty or 1. -/
  minimalIf : Bool
  /-- Only an empty signature may fail. -/
  nullFail : Bool
  other : UInt8 → List Item → Option (List Item)

namespace Rules

variable (rules : Rules)

def lockTimeSatisfied (n : ℤ) : Bool :=
  ((n < lockTimeThreshold) == (rules.lockTime < lockTimeThreshold)) && n ≤ rules.lockTime &&
    rules.sequence ≠ 0xffffffff

/-- The opcodes other than conditionals. -/
def exec : Opcode → List Item → Option (List Item)
  | .pushNum n, stack => some (scriptInt n :: stack)
  | .verify, item :: stack => if castToBool item then some stack else none
  | .drop, _ :: stack => some stack
  | .size, item :: stack => some (scriptInt item.length :: item :: stack)
  | .equal, a :: b :: stack => some (ofBool (a = b) :: stack)
  | .equalVerify, a :: b :: stack => if a = b then some stack else none
  | .hash160, item :: stack => some (rules.hash160 item :: stack)
  | .checkSig, key :: signature :: stack =>
    if rules.checkSig signature key then some (ofBool true :: stack)
    else if rules.nullFail && !signature.isEmpty then none
    else some (ofBool false :: stack)
  | .checkSigVerify, key :: signature :: stack =>
    if rules.checkSig signature key then some stack else none
  | .checkLockTimeVerify, item :: stack =>
    match scriptNum 5 item with
    | some n => if 0 ≤ n && rules.lockTimeSatisfied n then some (item :: stack) else none
    | none => none
  | .other byte, stack => rules.other byte stack
  | _, _ => none

end Rules

/-! ## Scripts -/

/-- `conditions` are those of the open conditionals, the innermost first. -/
structure State where
  stack : List Item
  conditions : List Bool := []
  deriving DecidableEq, Repr

def maxElementSize : ℕ := 520

namespace State

variable (rules : Rules) (s : State)

def executing : Bool := s.conditions.all id

/-- `OP_IF`, or `OP_NOTIF`, whose sense is `false` -/
def openIf (sense : Bool) : Option State :=
  if s.executing then
    match s.stack with
    | item :: stack =>
      if rules.minimalIf && item ≠ [] && item ≠ [1] then none
      else some ⟨stack, (castToBool item == sense) :: s.conditions⟩
    | [] => none
  else some { s with conditions := false :: s.conditions }

def step : Instruction → Option State
  | .pushBytes data =>
    if maxElementSize < data.length then none
    else some (if s.executing then { s with stack := data :: s.stack } else s)
  | .op byte =>
    match Opcode.ofByte byte with
    | .ifThen => s.openIf rules true
    | .ifNotThen => s.openIf rules false
    | .elseBranch =>
      match s.conditions with
      | condition :: conditions => some { s with conditions := (!condition) :: conditions }
      | [] => none
    | .endIf =>
      match s.conditions with
      | _ :: conditions => some { s with conditions }
      | [] => none
    | opcode =>
      if s.executing then (rules.exec opcode s.stack).map ({ s with stack := · }) else some s

end State

def run (rules : Rules) : List (Except ScriptError Instruction) → State → Option State
  | [], s => some s
  | .ok instruction :: script, s => (s.step rules instruction).bind (run rules script)
  | .error _ :: _, _ => none

/-- The script runs to its end and leaves one item, which is true. -/
def acceptsFrom (rules : Rules) (script : List UInt8) (s : State) : Bool :=
  match run rules (instructions script) s with
  | some ⟨[item], []⟩ => castToBool item
  | _ => false

/-- The top of the stack comes first. -/
def accepts (rules : Rules) (script : List UInt8) (stack : List Item) : Bool :=
  acceptsFrom rules script { stack }

/-! ## Numbers that are read back -/

theorem numBytes_ne_nil (negative : Bool) (fuel n : ℕ) : numBytes negative (fuel + 1) n ≠ [] := by
  rw [numBytes]
  split
  · exact List.cons_ne_nil _ _
  · split <;> exact List.cons_ne_nil _ _

theorem ofLeBytes_numBytes {fuel n : ℕ} (h : n < 256 ^ fuel) :
    ofLeBytes (numBytes false fuel n) = n := by
  induction fuel generalizing n with
  | zero =>
    rw [Nat.pow_zero] at h
    simp only [numBytes, ofLeBytes]
    omega
  | succ fuel ih =>
    rw [numBytes]
    split
    · have hdiv : n / 256 < 256 ^ fuel := Nat.div_lt_of_lt_mul (by rwa [← Nat.pow_succ'])
      rw [ofLeBytes, ih hdiv, UInt8.toNat_ofNat']
      omega
    · split
      · simp only [ofLeBytes, UInt8.toNat_ofNat', Bool.false_eq_true, if_false]
        show n % 256 + 256 * (0 + 256 * 0) = n
        omega
      · simp only [ofLeBytes, UInt8.toNat_ofNat', Bool.false_eq_true, if_false]
        omega

/-- Without a sign, the last byte leaves the place of the sign free. -/
theorem getLast?_numBytes {fuel n : ℕ} (h : n < 256 ^ (fuel + 1)) :
    ∃ last, (numBytes false (fuel + 1) n).getLast? = some last ∧ last.toNat < 0x80 := by
  have hsmall : ∀ m, m ≤ 0xff → ∀ fuel, ∃ last,
      (numBytes false (fuel + 1) m).getLast? = some last ∧ last.toNat < 0x80 := by
    intro m hm fuel
    rw [numBytes, if_neg (by omega)]
    split
    · exact ⟨0, rfl, by decide⟩
    · refine ⟨UInt8.ofNat (m + 0), rfl, ?_⟩
      rw [UInt8.toNat_ofNat']
      omega
  induction fuel generalizing n with
  | zero =>
    rw [Nat.zero_add, Nat.pow_one] at h
    exact hsmall n (by omega) 0
  | succ fuel ih =>
    by_cases hbig : 0xff < n
    · have hdiv : n / 256 < 256 ^ (fuel + 1) := Nat.div_lt_of_lt_mul (by rwa [← Nat.pow_succ'])
      obtain ⟨last, hlast, hsign⟩ := ih hdiv
      obtain ⟨byte, bytes, hbytes⟩ := List.exists_cons_of_ne_nil (numBytes_ne_nil false fuel (n / 256))
      refine ⟨last, ?_, hsign⟩
      rw [numBytes, if_pos hbig]
      rw [hbytes] at hlast ⊢
      rw [List.getLast?_cons_cons, hlast]
    · exact hsmall n (by omega) (fuel + 1)

/-- The bytes of a number that is not negative. -/
theorem scriptInt_natCast (n : ℕ) : scriptInt n = if n = 0 then [] else numBytes false 8 n := by
  unfold scriptInt
  have hpos : ¬(n : ℤ) < 0 := by omega
  simp only [Int.natCast_eq_zero, Int.natAbs_natCast, hpos, decide_false]

theorem readInt_scriptInt {n : ℕ} (h : n < 256 ^ 8) : readInt (scriptInt n) = n := by
  rw [scriptInt_natCast]
  split
  · rename_i hzero
    rw [hzero]
    rfl
  · obtain ⟨last, hlast, hsign⟩ := getLast?_numBytes h
    simp only [readInt, hlast, if_pos hsign, ofLeBytes_numBytes h]

/-- The place of the sign counts. -/
theorem length_numBytes {negative : Bool} {fuel n k : ℕ} (h : n < 128 * 256 ^ k) :
    (numBytes negative fuel n).length ≤ k + 1 := by
  induction fuel generalizing n k with
  | zero => exact Nat.zero_le _
  | succ fuel ih =>
    rw [numBytes]
    cases k with
    | zero =>
      rw [Nat.pow_zero] at h
      rw [if_neg (by omega), if_neg (by omega)]
      exact Nat.le_refl 1
    | succ k =>
      split
      · have hdiv : n / 256 < 128 * 256 ^ k := by
          rw [Nat.pow_succ] at h
          omega
        have hlength := ih hdiv
        rw [List.length_cons]
        omega
      · split
        · show 2 ≤ k + 1 + 1
          omega
        · show 1 ≤ k + 1 + 1
          omega

theorem scriptNum_scriptInt_of_lt {n k : ℕ} (h : n < 128 * 256 ^ k) (hk : k < 7) :
    scriptNum (k + 1) (scriptInt n) = some (n : ℤ) := by
  have hlength : (scriptInt n).length ≤ k + 1 := by
    rw [scriptInt_natCast]
    split
    · exact Nat.zero_le _
    · exact length_numBytes h
  have hpow : 128 * 256 ^ k ≤ 128 * 256 ^ 7 :=
    Nat.mul_le_mul_left 128 (Nat.pow_le_pow_right (by decide) (by omega))
  rw [scriptNum, if_pos hlength, readInt_scriptInt (by omega)]

/-- Lock times of 32 bits can be read. -/
theorem scriptNum_scriptInt {n : ℕ} (h : n < 2 ^ 32) : scriptNum 5 (scriptInt n) = some (n : ℤ) :=
  scriptNum_scriptInt_of_lt (by omega) (by decide)

/-- A number above zero is true. -/
theorem castToBool_of_pos {item : Item} (hpos : 0 < ofLeBytes item)
    (hsign : ∀ last ∈ item.getLast?, last.toNat < 0x80) : castToBool item = true := by
  induction item with
  | nil => exact absurd hpos (Nat.lt_irrefl 0)
  | cons byte item ih =>
    cases item with
    | nil =>
      have hbyte : byte.toNat < 0x80 := hsign byte rfl
      have hne : byte ≠ 0 := by
        rintro rfl
        exact absurd hpos (Nat.lt_irrefl 0)
      have hne' : byte ≠ 0x80 := by
        rintro rfl
        exact absurd hbyte (by decide)
      simp [castToBool, hne, hne']
    | cons next item =>
      by_cases hzero : byte = 0
      · subst hzero
        have hrest : 0 < ofLeBytes (next :: item) := by
          rw [ofLeBytes] at hpos
          show 0 < ofLeBytes (next :: item)
          simp only [UInt8.toNat_zero] at hpos
          omega
        rw [List.getLast?_cons_cons] at hsign
        show (decide ((0 : UInt8) ≠ 0) || castToBool (next :: item)) = true
        rw [ih hrest hsign, Bool.or_true]
      · show (decide (byte ≠ 0) || castToBool (next :: item)) = true
        rw [decide_eq_true hzero, Bool.true_or]

theorem castToBool_scriptInt {n : ℕ} (hpos : 0 < n) (h : n < 256 ^ 8) :
    castToBool (scriptInt n) = true := by
  rw [scriptInt_natCast, if_neg (by omega)]
  obtain ⟨last, hlast, hsign⟩ := getLast?_numBytes h
  refine castToBool_of_pos (by rwa [ofLeBytes_numBytes h]) fun last' hlast' => ?_
  cases hlast.symm.trans hlast'
  exact hsign

/-- A number of one byte is one below the sign. -/
theorem scriptInt_eq_singleton {n m : ℕ} (hm : 0 < m) (hm' : m < 0x80) :
    scriptInt n = [UInt8.ofNat m] ↔ n = m := by
  rw [scriptInt_natCast]
  split
  · rename_i hzero
    exact iff_of_false (by simp) (by omega)
  · rw [numBytes]
    split
    · obtain ⟨byte, bytes, hbytes⟩ := List.exists_cons_of_ne_nil (numBytes_ne_nil false 6 (n / 256))
      rw [hbytes]
      exact iff_of_false (by simp) (by omega)
    · split
      · exact iff_of_false (by simp) (by omega)
      · simp only [Bool.false_eq_true, if_false, Nat.add_zero, List.cons.injEq, and_true]
        rw [← UInt8.toNat_inj, UInt8.toNat_ofNat', UInt8.toNat_ofNat']
        omega

/-! ## Reading what was built -/

section

variable {rules : Rules} {rest : List UInt8} {s : State}

theorem instructions_push {data : List UInt8} (h : data.length < 2 ^ 32) (rest : List UInt8) :
    instructions (pushHeader data.length ++ (data ++ rest)) =
      .ok (.pushBytes data) :: instructions rest := by
  obtain ⟨opcode, header, hheader, hread⟩ := exists_readInstruction h rest
  have hle : rest.length ≤ (header ++ (data ++ rest)).length := readInstruction_length hread
  rw [hheader, List.cons_append, instructions, List.length_cons, readInstructions, hread]
  simp only
  rw [readInstructions_eq hle]

theorem instructions_op {byte : UInt8} (h : 0x4e < byte.toNat) (rest : List UInt8) :
    instructions (byte :: rest) = .ok (.op byte) :: instructions rest := by
  have hne : ∀ code : UInt8, code.toNat ≤ 0x4e → byte ≠ code := by
    rintro code hcode rfl
    omega
  have hread : readInstruction byte rest = .ok (.op byte, rest) := by
    rw [readInstruction, if_neg (by omega), if_neg (hne 0x4c (by decide)),
      if_neg (hne 0x4d (by decide)), if_neg (hne 0x4e (by decide))]
  rw [instructions, List.length_cons, readInstructions, hread]
  rfl

theorem acceptsFrom_push {data : List UInt8} (h : data.length ≤ maxElementSize) :
    acceptsFrom rules (pushHeader data.length ++ (data ++ rest)) s =
      acceptsFrom rules rest (if s.executing then { s with stack := data :: s.stack } else s) := by
  have hlength : data.length < 2 ^ 32 := lt_of_le_of_lt h (by decide)
  have hstep : s.step rules (.pushBytes data) =
      some (if s.executing then { s with stack := data :: s.stack } else s) := if_neg (by omega)
  rw [acceptsFrom, instructions_push hlength, run, hstep]
  rfl

theorem acceptsFrom_op {byte : UInt8} (h : 0x4e < byte.toNat) :
    acceptsFrom rules (byte :: rest) s =
      match s.step rules (.op byte) with
      | some s' => acceptsFrom rules rest s'
      | none => false := by
  rw [acceptsFrom, instructions_op h, run]
  cases s.step rules (.op byte) with
  | none => rfl
  | some s' => rfl

/-- An opcode that is not a conditional, in a branch that is executed. -/
theorem acceptsFrom_exec {byte : UInt8} (h : 0x4e < byte.toNat) (hexecuting : s.executing = true)
    (hplain : Opcode.ofByte byte ∉ [.ifThen, .ifNotThen, .elseBranch, .endIf]) :
    acceptsFrom rules (byte :: rest) s =
      match rules.exec (Opcode.ofByte byte) s.stack with
      | some stack => acceptsFrom rules rest { s with stack }
      | none => false := by
  rw [acceptsFrom_op h]
  have hstep : s.step rules (.op byte) =
      (rules.exec (Opcode.ofByte byte) s.stack).map ({ s with stack := · }) := by
    simp only [List.mem_cons, List.not_mem_nil, or_false, not_or] at hplain
    obtain ⟨hif, hnotIf, helse, hendIf⟩ := hplain
    rw [State.step]
    split
    · exact absurd (by assumption) hif
    · exact absurd (by assumption) hnotIf
    · exact absurd (by assumption) helse
    · exact absurd (by assumption) hendIf
    · rw [if_pos hexecuting]
  rw [hstep]
  cases rules.exec (Opcode.ofByte byte) s.stack <;> rfl

theorem acceptsFrom_skip {byte : UInt8} (h : 0x4e < byte.toNat) (hskipped : s.executing = false)
    (hplain : Opcode.ofByte byte ∉ [.ifThen, .ifNotThen, .elseBranch, .endIf]) :
    acceptsFrom rules (byte :: rest) s = acceptsFrom rules rest s := by
  rw [acceptsFrom_op h]
  have hstep : s.step rules (.op byte) = some s := by
    simp only [List.mem_cons, List.not_mem_nil, or_false, not_or] at hplain
    obtain ⟨hif, hnotIf, helse, hendIf⟩ := hplain
    rw [State.step]
    split
    · exact absurd (by assumption) hif
    · exact absurd (by assumption) hnotIf
    · exact absurd (by assumption) helse
    · exact absurd (by assumption) hendIf
    · rw [if_neg (by simp [hskipped])]
  rw [hstep]

/-! ## Single instructions -/

variable {stack : List Item} {conditions : List Bool} {item a b key signature : Item}

theorem length_scriptInt (n : ℕ) : (scriptInt n).length ≤ maxElementSize := by
  have hbytes : ∀ fuel m, (numBytes false fuel m).length ≤ fuel + 1 := by
    intro fuel
    induction fuel with
    | zero => exact fun m => Nat.zero_le _
    | succ fuel ih =>
      intro m
      rw [numBytes]
      split
      · rw [List.length_cons]
        have hlength := ih (m / 256)
        omega
      · split
        · show 2 ≤ fuel + 1 + 1
          omega
        · show 1 ≤ fuel + 1 + 1
          omega
  rw [scriptInt_natCast]
  split
  · exact Nat.zero_le _
  · exact Nat.le_trans (hbytes 8 n) (by decide)

/-- The script is a push of the item, whatever stands behind it. -/
def Pushes (script : List UInt8) (item : Item) : Prop :=
  ∀ rules rest s, acceptsFrom rules (script ++ rest) s =
    acceptsFrom rules rest (if s.executing then { s with stack := item :: s.stack } else s)

theorem pushes_pushSlice {data : List UInt8} (h : data.length ≤ maxElementSize) :
    Pushes (pushSlice [] data) data := by
  intro rules rest s
  rw [pushSlice, List.nil_append, List.append_assoc]
  exact acceptsFrom_push h

theorem pushes_scriptInt (n : ℕ) : Pushes (pushSlice [] (scriptInt n)) (scriptInt n) :=
  pushes_pushSlice (length_scriptInt n)

theorem pushes_intPush (n : ℕ) : Pushes (intPush n) (scriptInt n) := by
  unfold intPush Builder.pushInt
  split
  · rename_i hsmall
    have hcodes : ∀ m : ℕ, m < 17 → 1 ≤ m →
        0x4e < (UInt8.ofNat ((m : ℤ) + 0x50).toNat).toNat ∧
          Opcode.ofByte (UInt8.ofNat ((m : ℤ) + 0x50).toNat) = .pushNum m := by decide
    obtain ⟨hhigh, hcode⟩ := hcodes n (by omega) (by omega)
    intro rules rest s
    show acceptsFrom rules (UInt8.ofNat ((n : ℤ) + 0x50).toNat :: rest) s = _
    cases hexecuting : s.executing with
    | true =>
      rw [acceptsFrom_exec hhigh hexecuting (by simp [hcode]), hcode]
      rfl
    | false =>
      rw [acceptsFrom_skip hhigh hexecuting (by simp [hcode])]
      rfl
  · exact pushes_scriptInt n

theorem pushes_intPush_neg : Pushes (intPush (-1)) (scriptInt (-1)) := by
  intro rules rest s
  show acceptsFrom rules (0x4f :: rest) s = _
  cases hexecuting : s.executing with
  | true =>
    rw [acceptsFrom_exec (by decide) hexecuting (by decide)]
    rfl
  | false =>
    rw [acceptsFrom_skip (by decide) hexecuting (by decide)]
    rfl

section

variable (hconditions : conditions.all id = true)

include hconditions

theorem executing_mk : (⟨stack, conditions⟩ : State).executing = true := hconditions

theorem Pushes.run {script : List UInt8} (h : Pushes script item) (rest : List UInt8) :
    acceptsFrom rules (script ++ rest) ⟨stack, conditions⟩ =
      acceptsFrom rules rest ⟨item :: stack, conditions⟩ := by
  rw [h rules rest, if_pos (executing_mk hconditions)]

theorem acceptsFrom_hash160 :
    acceptsFrom rules (opHash160 :: rest) ⟨item :: stack, conditions⟩ =
      acceptsFrom rules rest ⟨rules.hash160 item :: stack, conditions⟩ :=
  acceptsFrom_exec (by decide) hconditions (by decide)

theorem acceptsFrom_equal :
    acceptsFrom rules (opEqual :: rest) ⟨a :: b :: stack, conditions⟩ =
      acceptsFrom rules rest ⟨ofBool (a = b) :: stack, conditions⟩ :=
  acceptsFrom_exec (by decide) hconditions (by decide)

theorem acceptsFrom_equalVerify :
    acceptsFrom rules (opEqualVerify :: rest) ⟨a :: b :: stack, conditions⟩ =
      (decide (a = b) && acceptsFrom rules rest ⟨stack, conditions⟩) := by
  rw [acceptsFrom_exec (by decide) (executing_mk hconditions) (by decide)]
  show (match (if a = b then some stack else none) with
    | some stack => acceptsFrom rules rest ⟨stack, conditions⟩
    | none => false) = _
  by_cases h : a = b <;> simp [h]

theorem acceptsFrom_size :
    acceptsFrom rules (opSize :: rest) ⟨item :: stack, conditions⟩ =
      acceptsFrom rules rest ⟨scriptInt item.length :: item :: stack, conditions⟩ :=
  acceptsFrom_exec (by decide) hconditions (by decide)

theorem acceptsFrom_drop :
    acceptsFrom rules (opDrop :: rest) ⟨item :: stack, conditions⟩ =
      acceptsFrom rules rest ⟨stack, conditions⟩ :=
  acceptsFrom_exec (by decide) hconditions (by decide)

theorem acceptsFrom_checkSigVerify :
    acceptsFrom rules (opCheckSigVerify :: rest) ⟨key :: signature :: stack, conditions⟩ =
      (rules.checkSig signature key && acceptsFrom rules rest ⟨stack, conditions⟩) := by
  rw [acceptsFrom_exec (by decide) (executing_mk hconditions) (by decide)]
  show (match (if rules.checkSig signature key then some stack else none) with
    | some stack => acceptsFrom rules rest ⟨stack, conditions⟩
    | none => false) = _
  cases rules.checkSig signature key <;> rfl

/-- The lock time stays on the stack. -/
theorem acceptsFrom_cltv {n : ℕ} (hn : n < 2 ^ 32) :
    acceptsFrom rules (opCltv :: rest) ⟨scriptInt n :: stack, conditions⟩ =
      (rules.lockTimeSatisfied n &&
        acceptsFrom rules rest ⟨scriptInt n :: stack, conditions⟩) := by
  have hexec : rules.exec .checkLockTimeVerify (scriptInt n :: stack) =
      if rules.lockTimeSatisfied n then some (scriptInt n :: stack) else none := by
    show (match scriptNum 5 (scriptInt n) with
      | some m => if 0 ≤ m && rules.lockTimeSatisfied m then some (scriptInt n :: stack) else none
      | none => none) = _
    rw [scriptNum_scriptInt hn]
    simp
  rw [acceptsFrom_exec (by decide) (executing_mk hconditions) (by decide)]
  show (match rules.exec .checkLockTimeVerify (scriptInt n :: stack) with
    | some stack => acceptsFrom rules rest ⟨stack, conditions⟩
    | none => false) = _
  rw [hexec]
  cases rules.lockTimeSatisfied n <;> rfl

/-- Opcodes that take an item fail without one. -/
theorem acceptsFrom_underflow {byte : UInt8} (hbyte : byte ∈ [opHash160, opSize, opCheckSig]) :
    acceptsFrom rules (byte :: rest) ⟨[], conditions⟩ = false := by
  simp only [List.mem_cons, List.not_mem_nil, or_false] at hbyte
  rcases hbyte with rfl | rfl | rfl <;> exact acceptsFrom_exec (by decide) hconditions (by decide)

theorem acceptsFrom_checkSigVerify_underflow :
    acceptsFrom rules (opCheckSigVerify :: rest) ⟨[key], conditions⟩ = false :=
  acceptsFrom_exec (by decide) hconditions (by decide)

theorem acceptsFrom_other {byte : UInt8} (h : 0x4e < byte.toNat)
    (hother : Opcode.ofByte byte = .other byte) :
    acceptsFrom rules (byte :: rest) ⟨stack, conditions⟩ =
      match rules.other byte stack with
      | some stack => acceptsFrom rules rest ⟨stack, conditions⟩
      | none => false := by
  rw [acceptsFrom_exec h (executing_mk hconditions) (by simp [hother]), hother]
  rfl

theorem acceptsFrom_opIf {condition : Bool} :
    acceptsFrom rules (opIf :: rest) ⟨ofBool condition :: stack, conditions⟩ =
      acceptsFrom rules rest ⟨stack, condition :: conditions⟩ := by
  rw [acceptsFrom_op (by decide)]
  have hstep : (⟨ofBool condition :: stack, conditions⟩ : State).step rules (.op opIf) =
      some ⟨stack, condition :: conditions⟩ := by
    show State.openIf rules ⟨ofBool condition :: stack, conditions⟩ true = _
    rw [State.openIf, if_pos (executing_mk hconditions)]
    cases condition <;> simp [ofBool, castToBool]
  rw [hstep]

omit hconditions

/-- Nothing is pushed in a branch that is skipped. -/
theorem Pushes.skip {script : List UInt8} (h : Pushes script item)
    (hskipped : conditions.all id = false) (rest : List UInt8) :
    acceptsFrom rules (script ++ rest) ⟨stack, conditions⟩ =
      acceptsFrom rules rest ⟨stack, conditions⟩ := by
  have hexecuting : (⟨stack, conditions⟩ : State).executing = false := hskipped
  rw [h rules rest, if_neg (by simp [hexecuting])]

theorem acceptsFrom_opElse {condition : Bool} :
    acceptsFrom rules (opElse :: rest) ⟨stack, condition :: conditions⟩ =
      acceptsFrom rules rest ⟨stack, (!condition) :: conditions⟩ :=
  acceptsFrom_op (by decide)

theorem acceptsFrom_opEndIf {condition : Bool} :
    acceptsFrom rules (opEndIf :: rest) ⟨stack, condition :: conditions⟩ =
      acceptsFrom rules rest ⟨stack, conditions⟩ :=
  acceptsFrom_op (by decide)

/-! ## Ends of scripts -/

theorem acceptsFrom_nil :
    acceptsFrom rules [] ⟨stack, conditions⟩ = true ↔
      ∃ item, stack = [item] ∧ conditions = [] ∧ castToBool item = true := by
  show (match (some (⟨stack, conditions⟩ : State)) with
    | some ⟨[item], []⟩ => castToBool item
    | _ => false) = true ↔ _
  rcases stack with _ | ⟨item, _ | ⟨item', stack⟩⟩
  · simp
  · cases conditions <;> simp
  · simp

theorem acceptsFrom_equal_nil :
    acceptsFrom rules [opEqual] ⟨a :: b :: stack, []⟩ = true ↔ a = b ∧ stack = [] := by
  rw [acceptsFrom_equal rfl, acceptsFrom_nil]
  constructor
  · rintro ⟨item, hstack, -, htrue⟩
    obtain ⟨rfl, rfl⟩ := List.cons.inj hstack
    refine ⟨?_, rfl⟩
    by_contra hne
    rw [decide_eq_false hne] at htrue
    cases htrue
  · rintro ⟨rfl, rfl⟩
    refine ⟨_, rfl, rfl, ?_⟩
    rw [decide_eq_true rfl]
    rfl

theorem exec_checkSig : rules.exec .checkSig (key :: signature :: stack) =
    if rules.checkSig signature key then some (ofBool true :: stack)
    else if rules.nullFail && !signature.isEmpty then none
    else some (ofBool false :: stack) := rfl

/-- The signature that is checked last is all that is left on the stack. -/
theorem acceptsFrom_checkSig :
    acceptsFrom rules [opCheckSig] ⟨key :: stack, []⟩ = true ↔
      ∃ signature, stack = [signature] ∧ rules.checkSig signature key = true := by
  rw [acceptsFrom_exec (by decide) rfl (by decide)]
  show (match rules.exec .checkSig (key :: stack) with
    | some stack => acceptsFrom rules [] ⟨stack, []⟩
    | none => false) = true ↔ _
  cases stack with
  | nil =>
    show (false = true) ↔ _
    simp
  | cons signature stack =>
    cases hvalid : rules.checkSig signature key with
    | true =>
      have hexec : rules.exec .checkSig (key :: signature :: stack) = some (ofBool true :: stack) := by
        simp [exec_checkSig, hvalid]
      rw [hexec]
      simp only [acceptsFrom_nil]
      constructor
      · rintro ⟨item, hstack, -, -⟩
        obtain ⟨-, rfl⟩ := List.cons.inj hstack
        exact ⟨signature, rfl, hvalid⟩
      · rintro ⟨other, hstack, -⟩
        obtain ⟨-, rfl⟩ := List.cons.inj hstack
        exact ⟨ofBool true, rfl, trivial, rfl⟩
    | false =>
      refine iff_of_false ?_ ?_
      · by_cases hfail : (rules.nullFail && !signature.isEmpty) = true
        · simp [exec_checkSig, hvalid, hfail]
        · have hexec : rules.exec .checkSig (key :: signature :: stack) =
              some (ofBool false :: stack) := by
            simp [exec_checkSig, hvalid, hfail]
          rw [hexec]
          simp only [acceptsFrom_nil]
          rintro ⟨item, hstack, -, htrue⟩
          obtain ⟨rfl, -⟩ := List.cons.inj hstack
          cases htrue
      · rintro ⟨other, hstack, hother⟩
        obtain ⟨rfl, -⟩ := List.cons.inj hstack
        cases hvalid.symm.trans hother

/-! ## Items that are checked -/

/-- The number that `OP_SIZE` leaves is compared as bytes. -/
theorem scriptInt_size {n : ℕ} : scriptInt (32 : ℕ) = scriptInt n ↔ n = 32 := by
  have hsize : scriptInt (32 : ℕ) = [UInt8.ofNat 32] := rfl
  rw [hsize, eq_comm]
  exact scriptInt_eq_singleton (by omega) (by omega)

theorem acceptsFrom_sizeLock {size : List UInt8} (hsize : Pushes size (scriptInt (32 : ℕ))) :
    acceptsFrom rules (opSize :: (size ++ opEqualVerify :: rest)) ⟨item :: stack, []⟩ =
      (decide (item.length = 32) && acceptsFrom rules rest ⟨item :: stack, []⟩) := by
  rw [acceptsFrom_size rfl, hsize.run rfl, acceptsFrom_equalVerify rfl]
  simp only [scriptInt_size]

/-- What an opcode has left is compared with an item of the script. -/
theorem acceptsFrom_compare {script : List UInt8} (hpush : Pushes script a) :
    acceptsFrom rules (script ++ opEqualVerify :: rest) ⟨b :: stack, []⟩ =
      (decide (b = a) && acceptsFrom rules rest ⟨stack, []⟩) := by
  rw [hpush.run rfl, acceptsFrom_equalVerify rfl]
  simp only [eq_comm]

theorem acceptsFrom_hashLock {hash : Item} (hhash : hash.length ≤ maxElementSize) :
    acceptsFrom rules (opHash160 :: (pushSlice [] hash ++ opEqualVerify :: rest))
        ⟨item :: stack, []⟩ =
      (decide (rules.hash160 item = hash) && acceptsFrom rules rest ⟨stack, []⟩) := by
  rw [acceptsFrom_hash160 rfl, acceptsFrom_compare (pushes_pushSlice hhash)]

end

end

end Script

import Mathlib.Algebra.Ring.Nat
import Mathlib.Data.List.Basic

/-!
# Data pushes of scripts

A script is a string of opcodes, some of which are followed by the data they push. `pushSlice`
appends a push of the shortest kind for the length of its data, and `instructions` reads a script
back; it stops where the data of a push is cut off.
-/

namespace Script

/-! ## Lengths -/

/-- `n` in `k` bytes, the lowest first. -/
def leBytes : Nat → Nat → List UInt8
  | 0, _ => []
  | k + 1, n => UInt8.ofNat (n % 256) :: leBytes k (n / 256)

def ofLeBytes : List UInt8 → Nat
  | [] => 0
  | b :: bs => b.toNat + 256 * ofLeBytes bs

@[simp] theorem length_leBytes (k n : Nat) : (leBytes k n).length = k := by
  induction k generalizing n with
  | zero => rfl
  | succ k ih => rw [leBytes, List.length_cons, ih]

theorem ofLeBytes_leBytes {k n : Nat} (h : n < 256 ^ k) : ofLeBytes (leBytes k n) = n := by
  induction k generalizing n with
  | zero =>
    simp only [Nat.pow_zero] at h
    simp only [leBytes, ofLeBytes]
    omega
  | succ k ih =>
    have hdiv : n / 256 < 256 ^ k := Nat.div_lt_of_lt_mul (by rwa [← Nat.pow_succ'])
    rw [leBytes, ofLeBytes, ih hdiv, UInt8.toNat_ofNat']
    omega

/-! ## Writing and reading -/

/-- The opcode and, from 76 bytes on, the length in front of data. -/
def pushHeader (n : Nat) : List UInt8 :=
  if n < 0x4c then [UInt8.ofNat n]
  else if n < 0x100 then 0x4c :: leBytes 1 n
  else if n < 0x10000 then 0x4d :: leBytes 2 n
  else 0x4e :: leBytes 4 n

def pushSlice (script data : List UInt8) : List UInt8 :=
  script ++ (pushHeader data.length ++ data)

inductive Instruction where
  | pushBytes (data : List UInt8)
  | op (opcode : UInt8)
  deriving DecidableEq, Repr

inductive ScriptError where
  | earlyEndOfScript
  deriving DecidableEq, Repr

def takePush (n : Nat) (rest : List UInt8) : Except ScriptError (Instruction × List UInt8) :=
  if n ≤ rest.length then .ok (.pushBytes (rest.take n), rest.drop n)
  else .error .earlyEndOfScript

/-- A push whose length is in the next `k` bytes. -/
def takePushData (k : Nat) (rest : List UInt8) : Except ScriptError (Instruction × List UInt8) :=
  if k ≤ rest.length then takePush (ofLeBytes (rest.take k)) (rest.drop k)
  else .error .earlyEndOfScript

def readInstruction (opcode : UInt8) (rest : List UInt8) :
    Except ScriptError (Instruction × List UInt8) :=
  if opcode.toNat < 0x4c then takePush opcode.toNat rest
  else if opcode = 0x4c then takePushData 1 rest
  else if opcode = 0x4d then takePushData 2 rest
  else if opcode = 0x4e then takePushData 4 rest
  else .ok (.op opcode, rest)

/-- The first instructions of a script, and none after an error. -/
def readInstructions : Nat → List UInt8 → List (Except ScriptError Instruction)
  | 0, _ => []
  | _ + 1, [] => []
  | n + 1, opcode :: rest =>
    match readInstruction opcode rest with
    | .ok (instruction, rest) => .ok instruction :: readInstructions n rest
    | .error e => [.error e]

/-- Each instruction takes at least one byte. -/
def instructions (script : List UInt8) : List (Except ScriptError Instruction) :=
  readInstructions script.length script

/-- The data of all pushes of a script. -/
def pushedBytes (script : List UInt8) : List (List UInt8) :=
  (instructions script).filterMap fun
    | .ok (.pushBytes data) => some data
    | _ => none

/-! ## The round trip -/

theorem takePush_length {n : Nat} {rest rest' : List UInt8} {instruction : Instruction}
    (h : takePush n rest = .ok (instruction, rest')) : rest'.length ≤ rest.length := by
  unfold takePush at h
  split at h
  · cases h
    rw [List.length_drop]
    omega
  · cases h

theorem takePushData_length {k : Nat} {rest rest' : List UInt8} {instruction : Instruction}
    (h : takePushData k rest = .ok (instruction, rest')) : rest'.length ≤ rest.length := by
  unfold takePushData at h
  split at h
  · have hle := takePush_length h
    rw [List.length_drop] at hle
    omega
  · cases h

theorem readInstruction_length {opcode : UInt8} {rest rest' : List UInt8}
    {instruction : Instruction} (h : readInstruction opcode rest = .ok (instruction, rest')) :
    rest'.length ≤ rest.length := by
  unfold readInstruction at h
  split at h
  · exact takePush_length h
  split at h
  · exact takePushData_length h
  split at h
  · exact takePushData_length h
  split at h
  · exact takePushData_length h
  · cases h
    exact Nat.le_refl _

/-- More steps than bytes read nothing more. -/
theorem readInstructions_eq {n : Nat} {script : List UInt8} (h : script.length ≤ n) :
    readInstructions n script = instructions script := by
  unfold instructions
  suffices hsame : ∀ m, script.length ≤ m → readInstructions n script = readInstructions m script
    from hsame _ (Nat.le_refl _)
  induction n generalizing script with
  | zero =>
    intro m _
    obtain rfl := List.length_eq_zero_iff.mp (Nat.le_zero.mp h)
    cases m <;> rfl
  | succ n ih =>
    intro m hm
    cases script with
    | nil => cases m <;> rfl
    | cons opcode rest =>
      cases m with
      | zero => simp at hm
      | succ m =>
        rw [readInstructions, readInstructions]
        cases hread : readInstruction opcode rest with
        | error e => rfl
        | ok read =>
          obtain ⟨instruction, rest'⟩ := read
          have hle := readInstruction_length hread
          rw [List.length_cons] at h hm
          simp only
          rw [ih (by omega) m (by omega)]

theorem takePush_append (data rest : List UInt8) :
    takePush data.length (data ++ rest) = .ok (.pushBytes data, rest) := by
  unfold takePush
  rw [if_pos (by simp), List.take_left, List.drop_left]

theorem takePushData_append (k : Nat) {data : List UInt8} (h : data.length < 256 ^ k)
    (rest : List UInt8) :
    takePushData k (leBytes k data.length ++ (data ++ rest)) = .ok (.pushBytes data, rest) := by
  unfold takePushData
  have htake : (leBytes k data.length ++ (data ++ rest)).take k = leBytes k data.length := by
    rw [List.take_append_of_le_length (by simp), List.take_of_length_le (by simp)]
  have hdrop : (leBytes k data.length ++ (data ++ rest)).drop k = data ++ rest :=
    List.drop_left' (by simp)
  rw [if_pos (by simp), htake, hdrop, ofLeBytes_leBytes h]
  exact takePush_append data rest

/-- What stands in front of data is read as a push of it. -/
theorem exists_readInstruction {data : List UInt8} (h : data.length < 2 ^ 32)
    (rest : List UInt8) :
    ∃ opcode header, pushHeader data.length = opcode :: header ∧
      readInstruction opcode (header ++ (data ++ rest)) = .ok (.pushBytes data, rest) := by
  unfold pushHeader
  by_cases h₁ : data.length < 0x4c
  · rw [if_pos h₁]
    refine ⟨_, _, rfl, ?_⟩
    have hcode : (UInt8.ofNat data.length).toNat = data.length := by
      rw [UInt8.toNat_ofNat']
      omega
    rw [readInstruction, if_pos (by omega), hcode]
    exact takePush_append data rest
  rw [if_neg h₁]
  by_cases h₂ : data.length < 0x100
  · rw [if_pos h₂]
    exact ⟨0x4c, _, rfl, takePushData_append 1 h₂ rest⟩
  rw [if_neg h₂]
  by_cases h₃ : data.length < 0x10000
  · rw [if_pos h₃]
    exact ⟨0x4d, _, rfl, takePushData_append 2 h₃ rest⟩
  rw [if_neg h₃]
  exact ⟨0x4e, _, rfl, takePushData_append 4 h rest⟩

theorem pushedBytes_append {data : List UInt8} (h : data.length < 2 ^ 32) (rest : List UInt8) :
    pushedBytes (pushHeader data.length ++ data ++ rest) = data :: pushedBytes rest := by
  obtain ⟨opcode, header, hheader, hread⟩ := exists_readInstruction h rest
  have hle : rest.length ≤ (header ++ (data ++ rest)).length := readInstruction_length hread
  unfold pushedBytes
  rw [hheader, List.append_assoc, List.cons_append, instructions, List.length_cons,
    readInstructions, hread]
  simp only
  rw [readInstructions_eq hle]
  rfl

@[simp] theorem pushedBytes_nil : pushedBytes [] = [] := rfl

/-- The pushes of a script that was written push by push. -/
theorem pushedBytes_foldl (items : List (List UInt8))
    (h : ∀ item ∈ items, item.length < 2 ^ 32) :
    pushedBytes (items.foldl pushSlice []) = items := by
  have hfold : ∀ script, items.foldl pushSlice script =
      script ++ (items.flatMap fun item => pushHeader item.length ++ item) := by
    intro script
    induction items generalizing script with
    | nil => simp
    | cons item items ih =>
      rw [List.foldl_cons, ih fun i hi => h i (List.mem_cons_of_mem _ hi), pushSlice]
      simp
  rw [hfold, List.nil_append]
  clear hfold
  induction items with
  | nil => rfl
  | cons item items ih =>
    rw [List.flatMap_cons, pushedBytes_append (h item (List.mem_cons_self ..)),
      ih fun i hi => h i (List.mem_cons_of_mem _ hi)]

end Script

import Boltz.Core.FeeTargets

/-!
# Inputs of built transactions

Both builders fill in the inputs of a transaction one by one. What they return is signed at every
index with the input at this index, and without the signatures it is what the signatures are over.
-/

namespace Boltz.Core

variable {Keys TxOut : Type} {sha256 : Bytes → FixedBytes 32} {signing : Signing Keys TxOut}
variable {inputs : List (InputDetail Keys TxOut)}

/-! ## Lock times -/

/-- The lock times of the refunds. -/
def refundLockTimes (inputs : List (InputDetail Keys TxOut)) : List Nat :=
  inputs.filterMap fun input => match input.inputType with
    | .refund lockTime => some lockTime
    | .claim _ => none

theorem mem_refundLockTimes {lockTime : Nat} :
    lockTime ∈ refundLockTimes inputs ↔
      ∃ input ∈ inputs, input.inputType = .refund lockTime := by
  unfold refundLockTimes
  rw [List.mem_filterMap]
  refine exists_congr fun input => and_congr_right fun _ => ?_
  cases input.inputType <;> simp

theorem lockTime_eq_ok {time : Nat} (h : lockTime inputs = .ok time) :
    (∀ lockTime ∈ refundLockTimes inputs, lockTime ≤ time) ∧
      (refundLockTimes inputs ≠ [] → time ∈ refundLockTimes inputs ∧ time < 500000000) ∧
      (refundLockTimes inputs = [] → time = 0) := by
  unfold lockTime at h
  split at h
  · rename_i highest hmax
    split at h
    · rename_i hheight
      cases h
      obtain ⟨hmem, hle⟩ := List.max?_eq_some_iff.mp hmax
      have hmem : time ∈ refundLockTimes inputs := hmem
      exact ⟨hle, fun _ => ⟨hmem, hheight⟩, fun hnil => absurd (hnil ▸ hmem) List.not_mem_nil⟩
    · cases h
  · rename_i hmax
    cases h
    have hnil : refundLockTimes inputs = [] := List.max?_eq_none_iff.mp hmax
    refine ⟨fun lockTime hmem => ?_, fun hne => absurd hnil hne, fun _ => rfl⟩
    rw [hnil] at hmem
    cases hmem

/-- Only times that are no heights are refused. -/
theorem lockTime_eq_error {e : TxError} (h : lockTime inputs = .error e) :
    e = .lockTime ∧ ∃ lockTime ∈ refundLockTimes inputs, 500000000 ≤ lockTime := by
  unfold lockTime at h
  split at h
  · rename_i highest hmax
    split at h
    · cases h
    · rename_i hheight
      cases h
      exact ⟨rfl, highest, (List.max?_eq_some_iff.mp hmax).1, Nat.le_of_not_lt hheight⟩
  · cases h

/-! ## Signatures -/

section

variable {tx : Transaction TxOut} {prevouts : List TxOut} {i : Nat}

theorem signInput_keeps {input : InputDetail Keys TxOut} {txIn signed : TxIn}
    (h : signInput sha256 signing tx prevouts i input txIn = .ok signed) :
    signed.previousOutput = txIn.previousOutput ∧ signed.sequence = txIn.sequence := by
  obtain ⟨script, -, h⟩ := bind_eq_ok.mp h
  obtain ⟨stack, -, h⟩ := bind_eq_ok.mp h
  cases h
  exact ⟨rfl, rfl⟩

/-- The loop signs the input at an index with the input at this index. -/
theorem getElem?_signInputs {signed : List TxIn}
    (h : signInputs sha256 signing tx prevouts i inputs (unsignedInputs inputs) = .ok signed) :
    signed.length = inputs.length ∧ ∀ j input, inputs[j]? = some input →
      ∃ txIn, signed[j]? = some txIn ∧
        signInput sha256 signing tx prevouts (i + j) input { previousOutput := input.outpoint } =
          .ok txIn := by
  induction inputs generalizing i signed with
  | nil =>
    cases h
    exact ⟨rfl, fun j input hinput => by simp at hinput⟩
  | cons first inputs ih =>
    rw [unsignedInputs, List.map_cons, signInputs] at h
    obtain ⟨txIn, hsign, h⟩ := bind_eq_ok.mp h
    obtain ⟨rest, hrest, h⟩ := bind_eq_ok.mp h
    cases h
    obtain ⟨hlength, hget⟩ := ih hrest
    refine ⟨by rw [List.length_cons, List.length_cons, hlength], fun j input hinput => ?_⟩
    cases j with
    | zero =>
      cases hinput
      exact ⟨txIn, rfl, hsign⟩
    | succ j =>
      obtain ⟨found, hfound, hsigned⟩ := hget j input hinput
      exact ⟨found, hfound, by rw [← Nat.add_assoc, Nat.add_right_comm]; exact hsigned⟩

/-- The loop fails only at an input that cannot be signed. -/
theorem signInputs_eq_error {e : TxError}
    (h : signInputs sha256 signing tx prevouts i inputs (unsignedInputs inputs) = .error e) :
    ∃ j input, inputs[j]? = some input ∧
      signInput sha256 signing tx prevouts (i + j) input { previousOutput := input.outpoint } =
        .error e := by
  induction inputs generalizing i with
  | nil => cases h
  | cons first inputs ih =>
    rw [unsignedInputs, List.map_cons, signInputs] at h
    rcases bind_eq_error.mp h with h | ⟨txIn, -, h⟩
    · exact ⟨0, first, rfl, h⟩
    rcases bind_eq_error.mp h with h | ⟨rest, -, h⟩
    · obtain ⟨j, input, hinput, hsign⟩ := ih h
      exact ⟨j + 1, input, hinput, by rw [← Nat.add_assoc, Nat.add_right_comm]; exact hsign⟩
    · cases h

end

/-- What signatures are over. -/
def Transaction.unsigned (tx : Transaction TxOut) : Transaction TxOut :=
  { tx with input := tx.input.map fun txIn => { txIn with scriptSig := [], witness := [] } }

/-- The inputs of a transaction are signed with its sorted inputs. -/
structure SignedWith (sha256 : Bytes → FixedBytes 32) (signing : Signing Keys TxOut)
    (sorted : List (InputDetail Keys TxOut)) (tx : Transaction TxOut) : Prop where
  length : tx.input.length = sorted.length
  lockTime : Core.lockTime sorted = .ok tx.lockTime
  /-- the script data at an index is made for the input at this index -/
  input : ∀ i input, sorted[i]? = some input → ∃ txIn, tx.input[i]? = some txIn ∧
    signInput sha256 signing tx.unsigned (sorted.map fun input => input.txOut) i input
      { previousOutput := input.outpoint } = .ok txIn

/-- The part of both builders behind the outputs. -/
theorem signedWith_of_signInputs {time : Nat} {output : List TxOut} {signed : List TxIn}
    (htime : lockTime inputs = .ok time)
    (h : signInputs sha256 signing { lockTime := time, input := unsignedInputs inputs, output }
      (inputs.map fun input => input.txOut) 0 inputs (unsignedInputs inputs) = .ok signed) :
    SignedWith sha256 signing inputs { lockTime := time, input := signed, output } := by
  obtain ⟨hlength, hget⟩ := getElem?_signInputs h
  have hinput : signed.map (fun txIn => { txIn with scriptSig := [], witness := [] }) =
      unsignedInputs inputs := by
    apply List.ext_getElem?
    intro j
    rw [List.getElem?_map, unsignedInputs, List.getElem?_map]
    cases hj : inputs[j]? with
    | none =>
      have hnone : signed[j]? = none := by
        rw [List.getElem?_eq_none_iff] at hj ⊢
        omega
      rw [hnone]
      rfl
    | some input =>
      obtain ⟨txIn, htxIn, hsign⟩ := hget j input hj
      obtain ⟨hprevious, hsequence⟩ := signInput_keeps hsign
      rw [htxIn]
      obtain ⟨previousOutput, scriptSig, sequence, witness⟩ := txIn
      simp only [Option.map_some, Option.some.injEq] at hprevious hsequence ⊢
      rw [hprevious, hsequence]
  refine ⟨hlength, htime, fun i input hi => ?_⟩
  obtain ⟨txIn, htxIn, hsign⟩ := hget i input hi
  rw [Nat.zero_add] at hsign
  refine ⟨txIn, htxIn, ?_⟩
  rw [Transaction.unsigned, hinput]
  exact hsign

end Boltz.Core

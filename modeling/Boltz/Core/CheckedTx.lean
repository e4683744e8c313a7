import Boltz.Core.FeeTargets
import Boltz.Core.Words

/-!
# Panics of the Bitcoin builder (`boltz-core/src/bitcoin/tx.rs`)

The amounts of the builder are 64 bits wide. `+` and `-` of two amounts panic when the result is no
amount. `sum` adds machine words, which panics in a build with overflow checks and wraps otherwise.
-/

namespace Boltz.Core.Bitcoin.Checked

inductive Failure where
  | panic
  | error (e : TxError)
  deriving DecidableEq, Repr

/-- An error of a step without amounts. -/
def liftTx {α : Type} : Except TxError α → Except Failure α
  | .ok a => .ok a
  | .error e => .error (.error e)

/-! ## Amounts -/

namespace Amount

def add (a b : Nat) : Except Failure Nat :=
  if a + b < u64Size then .ok (a + b) else .error .panic

def sub (a b : Nat) : Except Failure Nat := if b ≤ a then .ok (a - b) else .error .panic

def sum (overflowChecks : Bool) (amounts : List Nat) : Except Failure Nat :=
  if overflowChecks && decide (u64Size ≤ amounts.sum) then .error .panic
  else .ok (Word.sum u64Size amounts)

theorem sub_of_le {a b : Nat} (h : b ≤ a) : sub a b = .ok (a - b) := if_pos h

end Amount

/-! ## The builder -/

/-- The outputs that were asked for, and the rest for the last address. -/
def requestedOutputs (rest : Nat) : Destination Address → List TxOut
  | .single address => [{ value := rest, scriptPubkey := address.scriptPubkey }]
  | .multiple destination =>
    destination.outputs.map (fun output =>
      { value := output.2, scriptPubkey := output.1.scriptPubkey }) ++
    [{ value := rest, scriptPubkey := destination.change.scriptPubkey }]

def outputs (overflowChecks : Bool) (inputSum fee : Nat) :
    Destination Address → Except Failure (List TxOut)
  | .single address =>
    match Word.checkedSub inputSum fee with
    | some value => .ok (requestedOutputs value (.single address))
    | none => .error (.error .feeExceedsInputs)
  | .multiple destination => do
    let outputSum ← Amount.sum overflowChecks (destination.outputs.map (·.2))
    let total ← Amount.add outputSum fee
    if total > inputSum then .error (.error .outputsExceedInputs)
    else
      let value ← Amount.sub (← Amount.sub inputSum fee) outputSum
      .ok ((requestedOutputs value (.multiple destination)).insertionSort outputLe)

section

variable {Keys Rate : Type} (sha256 : Bytes → FixedBytes 32) (library : Library Keys Rate)

/-- The part without amounts. -/
def assemble (inputs : List (InputDetail Keys TxOut)) (output : List TxOut) :
    Except TxError (Transaction TxOut) := do
  let tx : Transaction TxOut :=
    { lockTime := ← lockTime inputs, input := unsignedInputs inputs, output }
  let prevouts := inputs.map fun input => input.txOut
  let input ← signInputs sha256 library.signing tx prevouts 0 inputs tx.input
  return { tx with input }

def constructRaw (overflowChecks : Bool) (inputs : List (InputDetail Keys TxOut))
    (destination : Destination Address) (fee : Nat) : Except Failure (Transaction TxOut) := do
  let inputSum ← Amount.sum overflowChecks (inputs.map fun input => input.txOut.value)
  let output ← outputs overflowChecks inputSum fee destination
  liftTx (assemble sha256 library inputs output)

def constructTx (overflowChecks : Bool) (inputs : List (InputDetail Keys TxOut))
    (destination : Destination Address) (fee : FeeTarget Rate) :
    Except Failure (Transaction TxOut × Nat) :=
  let inputs := sortInputs (·.outpoint) inputs
  targetFeeOf library.rates (fun tx => library.vsize tx + tx.input.length)
    (.error .invalidFeeRate)
    (fun fee _ => constructRaw sha256 library overflowChecks inputs destination fee) fee

end

end Boltz.Core.Bitcoin.Checked

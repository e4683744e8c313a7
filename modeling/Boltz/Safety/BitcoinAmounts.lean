import Boltz.Core.CheckedTx
import Boltz.Core.SignedInputs
import Boltz.Core.Sorting

/-!
# Amounts of Bitcoin transactions

The builder rejects a request that exceeds its inputs, and pays it otherwise, unless a sum of
amounts is no amount: then it panics, or, without overflow checks, compares remainders.
-/

namespace Boltz.Core.Bitcoin.Checked

/-! ## What is asked for -/

section

variable {Keys : Type}

def totalInputs (inputs : List (InputDetail Keys TxOut)) : Nat :=
  (inputs.map fun input => input.txOut.value).sum

/-- The sum of the outputs with an amount. -/
def outputSum : Destination Address → Nat
  | .single _ => 0
  | .multiple destination => (destination.outputs.map (·.2)).sum

def Exceeds (inputs : List (InputDetail Keys TxOut)) (destination : Destination Address)
    (fee : Nat) : Prop :=
  totalInputs inputs < outputSum destination + fee

/-- A transaction that pays what was asked for, and the rest of the inputs. -/
structure Paid (sha256 : Bytes → FixedBytes 32) (signing : Signing Keys TxOut)
    (inputs : List (InputDetail Keys TxOut)) (destination : Destination Address)
    (tx : Transaction TxOut) (fee : Nat) : Prop where
  affordable : ¬ Exceeds inputs destination fee
  spent : ∃ sorted, sorted.Perm inputs ∧
    sorted.Pairwise (fun a b => bip69Le a.outpoint b.outpoint) ∧ SignedWith sha256 signing sorted tx
  outputs : ∃ rest, tx.output.Perm (requestedOutputs rest destination)
  sorted : tx.output.Pairwise outputLe
  fee : totalInputs inputs = (tx.output.map (·.value)).sum + fee
  lockTime : ∀ lockTime ∈ refundLockTimes inputs, lockTime ≤ tx.lockTime
  lockTime_mem : refundLockTimes inputs ≠ [] → tx.lockTime ∈ refundLockTimes inputs
  lockTime_zero : refundLockTimes inputs = [] → tx.lockTime = 0

/-- The builder does not panic, rejects a request that cannot be paid, and pays it otherwise. -/
structure Conserves (sha256 : Bytes → FixedBytes 32) (signing : Signing Keys TxOut)
    (inputs : List (InputDetail Keys TxOut)) (destination : Destination Address) (fee : Nat)
    (result : Except Failure (Transaction TxOut × Nat)) : Prop where
  noPanic : result ≠ .error .panic
  rejected : ∀ e, result = .error (.error e) → e.isAmount = true → Exceeds inputs destination fee
  paid : ∀ tx charged, result = .ok (tx, charged) →
    charged = fee ∧ Paid sha256 signing inputs destination tx charged

/-- A transaction is returned, an error about amounts, or nothing at all. -/
def Decided {α : Type} (result : Except Failure α) : Prop :=
  ∀ e, result = .error (.error e) → e.isAmount = true

/-! ## What the builder makes of a fee -/

variable (overflowChecks : Bool) (inputs : List (InputDetail Keys TxOut))
variable (destination : Destination Address)

def verdict (fee : Nat) : Verdict :=
  if overflowChecks && decide (u64Size ≤ totalInputs inputs) then .panics
  else
    match destination with
    | .single _ => if fee ≤ totalInputs inputs % u64Size then .accepts else .rejects
    | .multiple _ =>
      if overflowChecks && decide (u64Size ≤ outputSum destination) then .panics
      else if u64Size ≤ outputSum destination % u64Size + fee then .panics
      else if totalInputs inputs % u64Size < outputSum destination % u64Size + fee then .rejects
      else .accepts

/-- What is left for the last address. -/
def remaining (fee : Nat) : Nat :=
  totalInputs inputs % u64Size - fee - outputSum destination % u64Size

def exceedsError : Destination Address → TxError
  | .single _ => .feeExceedsInputs
  | .multiple _ => .outputsExceedInputs

/-- No sum overflows; in a build without checks remainders may also compare like the sums. -/
def Covers (fee : Nat) : Prop :=
  let total := outputSum destination + fee
  match destination with
  | .single _ => totalInputs inputs < u64Size
  | .multiple _ =>
    if overflowChecks then totalInputs inputs < u64Size ∧ total < u64Size
    else outputSum destination % u64Size + fee < u64Size ∧
      if total ≤ totalInputs inputs then
        outputSum destination % u64Size + fee ≤ totalInputs inputs % u64Size ∧
          totalInputs inputs - totalInputs inputs % u64Size =
            outputSum destination - outputSum destination % u64Size
      else totalInputs inputs % u64Size < outputSum destination % u64Size + fee

/-- With a rate the fee of one with which the size is estimated matters, too. -/
def CoversTarget {Rate : Type} (rates : FeeRates Rate) (size : Nat) : FeeTarget Rate → Prop
  | .absolute fee => Covers overflowChecks inputs destination fee
  | .relative rate =>
    match verdict overflowChecks inputs destination 1 with
    | .accepts => Covers overflowChecks inputs destination (rates.fee rate size)
    | .rejects => Exceeds inputs destination (rates.fee rate size)
    | .panics => False

/-- What an accepted transaction pays is the sum of the inputs. -/
def Sums (fee : Nat) : Prop :=
  outputSum destination + remaining inputs destination fee + fee = totalInputs inputs

variable {overflowChecks inputs destination}

theorem covers_iff_verdict {fee : Nat} (hfee : fee < u64Size) :
    (match verdict overflowChecks inputs destination fee with
      | .accepts => Sums inputs destination fee
      | .rejects => Exceeds inputs destination fee
      | .panics => False) ↔ Covers overflowChecks inputs destination fee := by
  unfold verdict Covers Sums Exceeds remaining
  generalize totalInputs inputs = s
  unfold u64Size at hfee ⊢
  cases destination with
  | single address =>
    simp only [outputSum]
    by_cases hpanics : (overflowChecks && decide (2 ^ 64 ≤ s)) = true
    · simp only [hpanics, if_true, false_iff]
      simp only [Bool.and_eq_true, decide_eq_true_eq] at hpanics
      omega
    · rw [if_neg hpanics]
      by_cases haccepts : fee ≤ s % 2 ^ 64
      · simp only [haccepts, if_true]
        omega
      · simp only [haccepts, if_false]
        omega
  | multiple outputs =>
    generalize outputSum (.multiple outputs) = o
    cases overflowChecks with
    | false =>
      simp only [Bool.false_and, Bool.false_eq_true, if_false]
      by_cases hpanics : 2 ^ 64 ≤ o % 2 ^ 64 + fee
      · simp only [hpanics, if_true, false_iff]
        exact fun h => absurd h.1 (Nat.not_lt_of_le hpanics)
      · have hsum : o % 2 ^ 64 + fee < 2 ^ 64 := Nat.lt_of_not_le hpanics
        simp only [hpanics, hsum, if_false, true_and]
        by_cases hrejects : s % 2 ^ 64 < o % 2 ^ 64 + fee
        · simp only [hrejects, if_true]
          by_cases htotal : o + fee ≤ s
          · simp only [htotal, if_true]
            omega
          · simp only [htotal, if_false, iff_true]
            omega
        · simp only [hrejects, if_false]
          by_cases htotal : o + fee ≤ s
          · simp only [htotal, if_true]
            omega
          · simp only [htotal, if_false, iff_false]
            omega
    | true =>
      simp only [Bool.true_and, decide_eq_true_eq, if_true]
      by_cases hinputs : 2 ^ 64 ≤ s
      · simp only [hinputs, if_true, false_iff]
        omega
      have hs : s % 2 ^ 64 = s := Nat.mod_eq_of_lt (Nat.lt_of_not_le hinputs)
      by_cases houtputs : 2 ^ 64 ≤ o
      · simp only [hinputs, houtputs, if_true, if_false, false_iff]
        omega
      have ho : o % 2 ^ 64 = o := Nat.mod_eq_of_lt (Nat.lt_of_not_le houtputs)
      simp only [hinputs, houtputs, if_false, hs, ho]
      by_cases hpanics : 2 ^ 64 ≤ o + fee
      · simp only [hpanics, if_true, false_iff]
        omega
      · by_cases hrejects : s < o + fee
        · simp only [hpanics, hrejects, if_true, if_false, true_iff]
          omega
        · simp only [hpanics, hrejects, if_false]
          omega

/-! ## What is built -/

theorem sum_amounts {amounts : List Nat} :
    Amount.sum overflowChecks amounts =
      if overflowChecks && decide (u64Size ≤ amounts.sum) then .error .panic
      else .ok (amounts.sum % u64Size) := by
  rw [Amount.sum, Word.sum_eq]

variable (overflowChecks inputs destination) in
/-- The steps of the builder with amounts. -/
def pay (fee : Nat) : Except Failure (List TxOut) := do
  let inputSum ← Amount.sum overflowChecks (inputs.map fun input => input.txOut.value)
  outputs overflowChecks inputSum fee destination

theorem pay_eq (fee : Nat) : pay overflowChecks inputs destination fee =
    match verdict overflowChecks inputs destination fee with
    | .accepts =>
      .ok ((requestedOutputs (remaining inputs destination fee) destination).insertionSort outputLe)
    | .rejects => .error (.error (exceedsError destination))
    | .panics => .error .panic := by
  have hinputs : Amount.sum overflowChecks (inputs.map fun input => input.txOut.value) =
      if overflowChecks && decide (u64Size ≤ totalInputs inputs) then .error .panic
      else .ok (totalInputs inputs % u64Size) := sum_amounts
  unfold pay verdict
  rw [hinputs]
  by_cases hpanics : (overflowChecks && decide (u64Size ≤ totalInputs inputs)) = true
  · rw [if_pos hpanics, if_pos hpanics]
    rfl
  rw [if_neg hpanics, if_neg hpanics]
  cases destination with
  | single address =>
    simp only [bind, Except.bind, outputs, Word.checkedSub]
    by_cases haccepts : fee ≤ totalInputs inputs % u64Size
    · rw [if_pos haccepts, if_pos haccepts]
      rfl
    · rw [if_neg haccepts, if_neg haccepts]
      rfl
  | multiple destination =>
    have houtputs : Amount.sum overflowChecks (destination.outputs.map (·.2)) =
        if overflowChecks && decide (u64Size ≤ outputSum (.multiple destination)) then .error .panic
        else .ok (outputSum (.multiple destination) % u64Size) := sum_amounts
    simp only [bind, Except.bind, outputs, houtputs]
    by_cases hsum : (overflowChecks && decide (u64Size ≤ outputSum (.multiple destination))) = true
    · rw [if_pos hsum, if_pos hsum]
    rw [if_neg hsum, if_neg hsum]
    simp only [Amount.add]
    by_cases hadd : u64Size ≤ outputSum (.multiple destination) % u64Size + fee
    · rw [if_neg (Nat.not_lt_of_le hadd), if_pos hadd]
    rw [if_pos (Nat.lt_of_not_le hadd), if_neg hadd]
    simp only
    by_cases hrejects :
        totalInputs inputs % u64Size < outputSum (.multiple destination) % u64Size + fee
    · rw [if_pos hrejects, if_pos hrejects]
      rfl
    · rw [if_neg hrejects, if_neg hrejects, Amount.sub_of_le (by omega)]
      simp only
      rw [Amount.sub_of_le (by omega)]
      rfl

theorem mem_refundLockTimes_of_perm {sorted : List (InputDetail Keys TxOut)}
    (hperm : sorted.Perm inputs) (lockTime : Nat) :
    lockTime ∈ refundLockTimes sorted ↔ lockTime ∈ refundLockTimes inputs :=
  (hperm.filterMap _).mem_iff

section

variable {Rate : Type} {sha256 : Bytes → FixedBytes 32} {library : Library Keys Rate}

theorem assemble_ok {output : List TxOut} {tx : Transaction TxOut}
    (h : assemble sha256 library inputs output = .ok tx) :
    tx.output = output ∧ SignedWith sha256 library.signing inputs tx := by
  obtain ⟨time, htime, h⟩ := bind_eq_ok.mp h
  obtain ⟨signed, hsigned, h⟩ := bind_eq_ok.mp h
  cases h
  exact ⟨rfl, signedWith_of_signInputs htime hsigned⟩

/-- Without amounts the builder fails at the lock time or at a signature. -/
theorem assemble_error {output : List TxOut} {e : TxError}
    (h : assemble sha256 library inputs output = .error e) :
    Core.lockTime inputs = .error e ∨ ∃ tx, signInputs sha256 library.signing tx
      (inputs.map fun input => input.txOut) 0 inputs (unsignedInputs inputs) = .error e := by
  rcases bind_eq_error.mp h with h | ⟨time, -, h⟩
  · exact .inl h
  rcases bind_eq_error.mp h with h | ⟨signed, -, h⟩
  · exact .inr ⟨_, h⟩
  · cases h

theorem pairwise_outputLe (outputs : List TxOut) :
    (outputs.insertionSort outputLe).Pairwise outputLe :=
  pairwise_insertionSort (compareLex (compareOn TxOut.value) (compareOn TxOut.scriptPubkey))
    (fun _ _ => Iff.rfl) outputs

theorem pairwise_sortInputs (inputs : List (InputDetail Keys TxOut)) :
    (sortInputs (·.outpoint) inputs).Pairwise fun a b => bip69Le a.outpoint b.outpoint :=
  pairwise_insertionSort
    (compareLex (compareOn fun a : InputDetail Keys TxOut => a.outpoint.hash.reverse)
      (compareOn fun a => a.outpoint.vout)) (fun _ _ => Iff.rfl) inputs

theorem sum_requestedOutputs (rest : Nat) (destination : Destination Address) :
    ((requestedOutputs rest destination).map (·.value)).sum = outputSum destination + rest := by
  cases destination with
  | single address => simp [requestedOutputs, outputSum]
  | multiple destination => simp [requestedOutputs, outputSum, Function.comp_def]

/-! ## Requests -/

variable {fee : Nat}

theorem constructRaw_eq : constructRaw sha256 library overflowChecks inputs destination fee =
    (pay overflowChecks inputs destination fee >>= fun output =>
      liftTx (assemble sha256 library inputs output)) := by
  unfold constructRaw pay
  cases Amount.sum overflowChecks (inputs.map fun input => input.txOut.value) <;> rfl

theorem constructRaw_ok {tx : Transaction TxOut}
    (h : constructRaw sha256 library overflowChecks inputs destination fee = .ok tx) :
    verdict overflowChecks inputs destination fee = .accepts ∧
      assemble sha256 library inputs ((requestedOutputs (remaining inputs destination fee)
        destination).insertionSort outputLe) = .ok tx := by
  rw [constructRaw_eq, pay_eq] at h
  cases hverdict : verdict overflowChecks inputs destination fee with
  | accepts =>
    rw [hverdict] at h
    cases hassemble : assemble sha256 library inputs ((requestedOutputs (remaining inputs
        destination fee) destination).insertionSort outputLe) with
    | error e => simp [bind, Except.bind, hassemble, liftTx] at h
    | ok built =>
      simp only [bind, Except.bind, hassemble, liftTx] at h
      cases h
      exact ⟨rfl, rfl⟩
  | rejects => simp [hverdict, bind, Except.bind] at h
  | panics => simp [hverdict, bind, Except.bind] at h

/-- What an outcome without a transaction says about the fee. -/
theorem constructRaw_error {failure : Failure}
    (h : constructRaw sha256 library overflowChecks inputs destination fee = .error failure) :
    (failure = .panic ∧ verdict overflowChecks inputs destination fee = .panics) ∨
    (failure = .error (exceedsError destination) ∧
      verdict overflowChecks inputs destination fee = .rejects) ∨
    ∃ e output, failure = .error e ∧ assemble sha256 library inputs output = .error e := by
  rw [constructRaw_eq, pay_eq] at h
  cases hverdict : verdict overflowChecks inputs destination fee with
  | panics =>
    simp only [hverdict, bind, Except.bind, Except.error.injEq] at h
    exact .inl ⟨h.symm, rfl⟩
  | rejects =>
    simp only [hverdict, bind, Except.bind, Except.error.injEq] at h
    exact .inr (.inl ⟨h.symm, rfl⟩)
  | accepts =>
    rw [hverdict] at h
    cases hassemble : assemble sha256 library inputs ((requestedOutputs (remaining inputs
        destination fee) destination).insertionSort outputLe) with
    | error e =>
      simp only [bind, Except.bind, hassemble, liftTx, Except.error.injEq] at h
      exact .inr (.inr ⟨e, _, h.symm, hassemble⟩)
    | ok built => simp [bind, Except.bind, hassemble, liftTx] at h

theorem exceedsError_isAmount (destination : Destination Address) :
    (exceedsError destination).isAmount = true := by
  cases destination <;> rfl

theorem assemble_error_isAmount (hhonest : library.signing.Honest) {output : List TxOut}
    {e : TxError} (h : assemble sha256 library inputs output = .error e) : e.isAmount = false := by
  rcases assemble_error h with h | ⟨tx, h⟩
  · exact lockTime_error h
  · exact signInputs_error hhonest h

variable (overflowChecks inputs destination sha256 library) in
/-- The builder for sorted inputs. -/
def feeBuilder (hhonest : library.signing.Honest) : FeeBuilder (Transaction TxOut) Failure where
  construct fee _ := constructRaw sha256 library overflowChecks inputs destination fee
  verdict := verdict overflowChecks inputs destination
  verdictOf
    | .panic => some .panics
    | .error e => if e.isAmount then some .rejects else none
  accepts_of_ok fee _ tx h := (constructRaw_ok h).1
  verdict_of_error fee _ failure v h hv := by
    rcases constructRaw_error h with ⟨rfl, hverdict⟩ | ⟨rfl, hverdict⟩ | ⟨e, output, rfl, he⟩
    · cases hv
      exact ⟨Verdict.noConfusion, hverdict⟩
    · simp only [exceedsError_isAmount, if_true] at hv
      cases hv
      exact ⟨Verdict.noConfusion, hverdict⟩
    · simp only [assemble_error_isAmount hhonest he] at hv
      cases hv

variable (inputs destination sha256 library) in
def feeSpec : FeeSpec (Transaction TxOut) where
  exceeds := Exceeds inputs destination
  paid := Paid sha256 library.signing inputs destination

theorem totalInputs_sort :
    totalInputs (sortInputs (·.outpoint) inputs) = totalInputs inputs :=
  ((List.perm_insertionSort _ inputs).map _).sum_eq

theorem sums_sort :
    Sums (sortInputs (·.outpoint) inputs) destination fee ↔ Sums inputs destination fee := by
  simp only [Sums, remaining, totalInputs_sort]

theorem coversTarget_sort {rates : FeeRates Rate} {size : Nat} {target : FeeTarget Rate} :
    CoversTarget overflowChecks (sortInputs (·.outpoint) inputs) destination rates size target ↔
      CoversTarget overflowChecks inputs destination rates size target := by
  cases target <;> simp only [CoversTarget, Covers, verdict, Exceeds, totalInputs_sort]

theorem paid_iff_sums {tx : Transaction TxOut}
    (h : constructRaw sha256 library overflowChecks (sortInputs (·.outpoint) inputs) destination
      fee = .ok tx) :
    Paid sha256 library.signing inputs destination tx fee ↔ Sums inputs destination fee := by
  obtain ⟨-, hassemble⟩ := constructRaw_ok h
  obtain ⟨houtput, hsigned⟩ := assemble_ok hassemble
  have hperm : (sortInputs (·.outpoint) inputs).Perm inputs := List.perm_insertionSort _ _
  have houtputs : tx.output.Perm (requestedOutputs (remaining (sortInputs (·.outpoint) inputs)
      destination fee) destination) := by
    rw [houtput]
    exact List.perm_insertionSort _ _
  have hsum : (tx.output.map (·.value)).sum = outputSum destination +
      remaining (sortInputs (·.outpoint) inputs) destination fee := by
    rw [(houtputs.map _).sum_eq, sum_requestedOutputs]
  rw [← sums_sort]
  constructor
  · intro hpaid
    have hfee := hpaid.fee
    rw [← totalInputs_sort, hsum] at hfee
    exact hfee.symm
  · intro hsums
    obtain ⟨hle, hmem, hzero⟩ := lockTime_eq_ok hsigned.lockTime
    have hiff := mem_refundLockTimes_of_perm hperm
    have hnil : refundLockTimes (sortInputs (·.outpoint) inputs) = [] ↔
        refundLockTimes inputs = [] := by
      simp only [List.eq_nil_iff_forall_not_mem, hiff]
    unfold Sums at hsums
    refine ⟨?_, ⟨_, hperm, pairwise_sortInputs inputs, hsigned⟩, ⟨_, houtputs⟩, ?_, ?_,
      fun time htime => hle time ((hiff time).mpr htime), fun hne => (hiff _).mp
        (hmem fun hnil' => hne (hnil.mp hnil')).1, fun hnil' => hzero (hnil.mpr hnil')⟩
    · unfold Exceeds
      rw [← totalInputs_sort]
      omega
    · rw [houtput]
      exact pairwise_outputLe _
    · rw [hsum, ← totalInputs_sort]
      exact hsums.symm

theorem fitsTarget_iff (hhonest : library.signing.Honest) {spec : FeeSpec (Transaction TxOut)}
    (hexceeds : ∀ fee, spec.exceeds fee ↔ Exceeds inputs destination fee) {size : Nat}
    {target : FeeTarget Rate} (hfee : target.feeFor library.rates size < u64Size) :
    (feeBuilder overflowChecks inputs destination sha256 library hhonest).FitsTarget spec
        library.rates (Sums inputs destination) size target ↔
      CoversTarget overflowChecks inputs destination library.rates size target := by
  let builder := feeBuilder overflowChecks inputs destination sha256 library hhonest
  have hverdict : builder.verdict = verdict overflowChecks inputs destination := rfl
  have hfits : ∀ fee, fee < u64Size → (builder.Fits spec (Sums inputs destination) fee ↔
      Covers overflowChecks inputs destination fee) := by
    intro fee hfee
    rw [← covers_iff_verdict hfee]
    cases hv : verdict overflowChecks inputs destination fee with
    | accepts => exact FeeBuilder.fits_of_accepts ((congrFun hverdict fee).trans hv)
    | rejects =>
      exact (FeeBuilder.fits_of_rejects ((congrFun hverdict fee).trans hv)).trans (hexceeds fee)
    | panics =>
      exact iff_of_false (FeeBuilder.not_fits_of_panics ((congrFun hverdict fee).trans hv)) id
  cases target with
  | absolute fee => exact hfits fee hfee
  | relative rate =>
    have hstub := congrFun hverdict 1
    simp only [FeeBuilder.FitsTarget, CoversTarget]
    cases hv : verdict overflowChecks inputs destination 1 with
    | accepts =>
      rw [hstub.trans hv]
      exact hfits _ hfee
    | rejects =>
      rw [hstub.trans hv]
      exact hexceeds _
    | panics => rw [hstub.trans hv]

variable (inputs sha256 library) in
/-- Nothing but the amounts can make the builder fail. -/
structure Succeeds (target : FeeTarget Rate) : Prop where
  lockTime : ∃ time, Core.lockTime inputs = .ok time
  signInputs : ∀ tx, ∃ signed, signInputs sha256 library.signing tx
    (inputs.map fun input => input.txOut) 0 inputs (unsignedInputs inputs) = .ok signed
  rate : ∀ rate, target = .relative rate → library.rates.valid rate = true

theorem isAmount_of_succeeds {target : FeeTarget Rate} {e : TxError}
    (hsucceeds : Succeeds inputs sha256 library target)
    (h : constructRaw sha256 library overflowChecks inputs destination fee = .error (.error e)) :
    e.isAmount = true := by
  rcases constructRaw_error h with ⟨hpanic, -⟩ | ⟨herror, -⟩ | ⟨e', output, herror, he⟩
  · cases hpanic
  · cases herror
    exact exceedsError_isAmount destination
  · rcases assemble_error he with he | ⟨tx, he⟩
    · obtain ⟨time, htime⟩ := hsucceeds.lockTime
      rw [htime] at he
      cases he
    · obtain ⟨signed, hsigned⟩ := hsucceeds.signInputs tx
      rw [hsigned] at he
      cases he

end

end

/-! ## The builder -/

section

variable {Keys Rate : Type} {sha256 : Bytes → FixedBytes 32} {library : Library Keys Rate}
variable {overflowChecks : Bool} {inputs : List (InputDetail Keys TxOut)}
variable {destination : Destination Address}

theorem decided_of_succeeds {target : FeeTarget Rate}
    (hsucceeds : Succeeds (sortInputs (·.outpoint) inputs) sha256 library target) :
    Decided (constructTx sha256 library overflowChecks inputs destination target) := by
  intro e h
  unfold constructTx at h
  cases target with
  | absolute fee =>
    rcases bind_eq_error.mp h with h | ⟨tx, -, h⟩
    · exact isAmount_of_succeeds hsucceeds h
    · cases h
  | relative rate =>
    rw [targetFeeOf, if_pos (hsucceeds.rate rate rfl)] at h
    rcases bind_eq_error.mp h with h | ⟨estimated, -, h⟩
    · exact isAmount_of_succeeds hsucceeds h
    rcases bind_eq_error.mp h with h | ⟨tx, -, h⟩
    · exact isAmount_of_succeeds hsucceeds h
    · cases h

/-- The outcome of a request about amounts is right exactly when no sum overflows, or the remainders
compare like the sums. -/
theorem conserves_iff (sha256 : Bytes → FixedBytes 32) (library : Library Keys Rate)
    (overflowChecks : Bool) (inputs : List (InputDetail Keys TxOut))
    (destination : Destination Address) (fee : FeeTarget Rate) (size : Nat)
    (hhonest : library.signing.Honest)
    (hsize : ∀ tx, constructRaw sha256 library overflowChecks (sortInputs (·.outpoint) inputs)
      destination 1 = .ok tx → size = library.vsize tx + tx.input.length)
    (hfee : fee.feeFor library.rates size < u64Size) :
    (Succeeds (sortInputs (·.outpoint) inputs) sha256 library fee →
      Decided (constructTx sha256 library overflowChecks inputs destination fee)) ∧
    (Decided (constructTx sha256 library overflowChecks inputs destination fee) →
      (Conserves sha256 library.signing inputs destination (fee.feeFor library.rates size)
          (constructTx sha256 library overflowChecks inputs destination fee) ↔
        CoversTarget overflowChecks inputs destination library.rates size fee)) := by
  refine ⟨decided_of_succeeds, fun hdecided => ?_⟩
  let sorted := sortInputs (·.outpoint) inputs
  let builder := feeBuilder overflowChecks sorted destination sha256 library hhonest
  let spec := feeSpec inputs destination sha256 library
  have hsound : ∀ fee tx, builder.construct fee false = .ok tx →
      (spec.paid tx fee ↔ Sums sorted destination fee) :=
    fun fee tx h => (paid_iff_sums h).trans sums_sort.symm
  have hdecided' : builder.Decided (targetFeeOf library.rates
      (fun tx => library.vsize tx + tx.input.length) (.error .invalidFeeRate) builder.construct
      fee) := by
    intro failure h
    cases failure with
    | panic => rfl
    | error e => exact congrArg Option.isSome (if_pos (hdecided e h))
  have hexceeds : ∀ fee, spec.exceeds fee ↔ Exceeds sorted destination fee := by
    intro fee
    rw [Exceeds, totalInputs_sort]
    exact Iff.rfl
  refine Iff.trans ?_ ((FeeBuilder.correct_iff rfl hsize hsound hdecided').trans
    ((fitsTarget_iff hhonest hexceeds hfee).trans coversTarget_sort))
  constructor
  · rintro ⟨hnoPanic, hrejected, hpaid⟩
    refine ⟨fun failure h hv => ?_, fun failure h hv => ?_, fun tx charged htx =>
      (hpaid tx charged htx).2⟩
    · cases failure with
      | panic => exact hnoPanic h
      | error e =>
        simp only [builder, feeBuilder] at hv
        split at hv <;> cases hv
    · cases failure with
      | panic => cases hv
      | error e => exact hrejected e h (hdecided e h)
  · rintro ⟨hnoPanic, hrejected, hpaid⟩
    refine ⟨fun h => hnoPanic .panic h rfl, fun e h hamount => hrejected _ h (if_pos hamount),
      fun tx charged htx => ⟨?_, hpaid tx charged htx⟩⟩
    have hbuilt : targetFeeOf library.rates (fun tx => library.vsize tx + tx.input.length)
        (.error .invalidFeeRate) builder.construct fee = .ok (tx, charged) := htx
    exact (targetFeeOf_ok hbuilt).2 size hsize

end

/-! ## A claim and a refund, and an output that no amount can pay -/

def sampleLibrary : Library Unit Nat where
  signing :=
    { legacySignature := fun _ _ _ _ => .error .secp
      segwitSignature := fun _ _ _ _ _ => .error .secp
      taprootSignature := fun _ _ _ _ _ => .error .secp
      controlBlock := fun _ _ i => .error (.controlBlock i) }
  rates := { valid := fun _ => true, fee := fun rate size => rate * size }
  vsize _ := 150

theorem sampleLibrary_honest : sampleLibrary.signing.Honest :=
  ⟨fun _ _ _ _ _ h => by cases h; rfl, fun _ _ _ _ _ _ h => by cases h; rfl,
    fun _ _ _ _ _ _ h => by cases h; rfl, fun _ _ _ _ h => by cases h; rfl⟩

/-- Inputs for cooperative signatures. -/
def sampleInput (inputType : InputType) (vout value : Nat) : InputDetail Unit TxOut where
  inputType := inputType
  outputType := .taproot none
  outpoint := { hash := [], vout }
  txOut := { value, scriptPubkey := [0x51] }
  keys := ()

def sampleInputs : List (InputDetail Unit TxOut) :=
  [sampleInput (.refund 800000) 1 70000, sampleInput (.claim ⟨List.replicate 32 1, rfl⟩) 0 50000]

def paying (amount : Nat) : Destination Address :=
  .multiple { change := ⟨[0x52]⟩, outputs := [(⟨[0x51]⟩, amount)] }

theorem sample_conserved :
    Conserves noSha256 sampleLibrary.signing sampleInputs (paying 30000) 304
      (constructTx noSha256 sampleLibrary true sampleInputs (paying 30000) (.relative 2)) := by
  have hestimated : (constructRaw noSha256 sampleLibrary true
      (sortInputs (·.outpoint) sampleInputs) (paying 30000) 1 >>= fun tx =>
        Except.ok (sampleLibrary.vsize tx + tx.input.length)) = .ok 152 := by
    decide +kernel
  have hconserves := conserves_iff noSha256 sampleLibrary true sampleInputs (paying 30000)
    (.relative 2) 152 sampleLibrary_honest
    (fun tx htx => by
      rw [htx] at hestimated
      exact (Except.ok.inj hestimated).symm)
    (by decide)
  refine (hconserves.2 (hconserves.1 ⟨⟨800000, rfl⟩, fun tx => ⟨_, rfl⟩, fun _ _ => rfl⟩)).mpr ?_
  have hstub : verdict true sampleInputs (paying 30000) 1 = .accepts := by decide +kernel
  rw [CoversTarget, hstub]
  exact ⟨by decide, by decide⟩

/-- The sum of the output and the fee is no amount. -/
theorem output_panics (overflowChecks : Bool) :
    constructTx noSha256 sampleLibrary overflowChecks sampleInputs (paying (2 ^ 64 - 1))
      (.absolute 1) = .error .panic := by
  cases overflowChecks <;> decide +kernel

theorem panics_instead :
    ¬ Conserves noSha256 sampleLibrary.signing sampleInputs (paying (2 ^ 64 - 1)) 1
      (constructTx noSha256 sampleLibrary false sampleInputs (paying (2 ^ 64 - 1)) (.absolute 1)) :=
  fun h => h.noPanic (output_panics false)

end Boltz.Core.Bitcoin.Checked

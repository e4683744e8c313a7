import Boltz.Safety.FeeWaiters

/-!
# Estimated fees

A fee that mempool.space is wrong about is used only when more than half of the clients at the best
height are wrong, and not even then when it is far from what the node says.
-/

namespace Boltz.MempoolSpace

open Async

theorem roundAway_mono {x y : ℚ} (h : x ≤ y) : roundAway x ≤ roundAway y := by
  unfold roundAway
  split
  · rename_i hx
    rw [if_pos (hx.trans h)]
    exact Int.floor_le_floor (by linarith)
  · rename_i hx
    split
    · rename_i hy
      have hleft : 0 ≤ ⌊-x + 1 / 2⌋ := Int.floor_nonneg.mpr (by linarith)
      have hright : 0 ≤ ⌊y + 1 / 2⌋ := Int.floor_nonneg.mpr (by linarith)
      omega
    · exact neg_le_neg (Int.floor_le_floor (by linarith))

theorem roundTo1DecimalPlace_mono {x y : ℚ} (h : x ≤ y) :
    roundTo1DecimalPlace x ≤ roundTo1DecimalPlace y := by
  have hround : (roundAway (x * 10) : ℚ) ≤ roundAway (y * 10) :=
    Int.cast_le.mpr (roundAway_mono (by linarith))
  unfold roundTo1DecimalPlace
  linarith

section

variable {thresholds : Thresholds} {floor : ℚ} {answers : Answers}

theorem of_valueTrusted {height : Nat} {fee : ℚ} {localTip : Option Nat} {bitcoindFee : Option ℚ}
    (h : valueTrusted thresholds height fee localTip bitcoindFee = true) :
    0 ≤ fee ∧ (∀ tip ∈ localTip, tip ≤ height + thresholds.maxBlockLag) ∧
      ∀ nodeFee ∈ bitcoindFee, fee ≤ thresholds.ceiling nodeFee := by
  unfold valueTrusted at h
  split at h
  · cases h
  · rename_i hnonneg
    split at h
    · cases h
    · rename_i hlag
      refine ⟨le_of_not_gt hnonneg, fun tip htip => ?_, fun nodeFee hfee => ?_⟩
      · rw [Option.mem_def.mp htip, Option.any_some, decide_eq_true_eq] at hlag
        omega
      · rw [Option.mem_def.mp hfee, Option.any_some, Bool.not_eq_true', decide_eq_false_iff_not]
          at h
        exact le_of_not_gt h

/-- What the node says, or a fee of mempool.space that is trusted. -/
theorem estimateFeeRaw_cases (thresholds : Thresholds) (floor : ℚ) (answers : Answers) :
    estimateFeeRaw thresholds floor answers = answers.bitcoindFee.getD floor ∨
      ∃ height fee, answers.mempoolSpace = some (some (height, fee)) ∧
        valueTrusted thresholds height fee answers.localTip answers.bitcoindFee = true ∧
        estimateFeeRaw thresholds floor answers = fee := by
  unfold estimateFeeRaw
  split
  · rename_i height fee hanswer
    split
    · rename_i htrusted
      exact .inr ⟨height, fee, hanswer, htrusted, rfl⟩
    · exact .inl rfl
  · exact .inl rfl

theorem estimateFee_ge (thresholds : Thresholds) (floor : ℚ) (answers : Answers) :
    roundTo1DecimalPlace floor ≤ estimateFee thresholds floor answers :=
  roundTo1DecimalPlace_mono (le_max_right _ _)

/-- The node limits what mempool.space can make of the fee. -/
theorem estimateFee_le {nodeFee : ℚ} (h : answers.bitcoindFee = some nodeFee) :
    estimateFee thresholds floor answers ≤
      roundTo1DecimalPlace (max (max nodeFee (thresholds.ceiling nodeFee)) floor) := by
  refine roundTo1DecimalPlace_mono (max_le_max ?_ le_rfl)
  rcases estimateFeeRaw_cases thresholds floor answers with hnode | ⟨height, fee, -, htrusted, hraw⟩
  · rw [hnode, h]
    exact le_max_left _ _
  · rw [hraw]
    exact ((of_valueTrusted htrusted).2.2 nodeFee h).trans (le_max_right _ _)

end

/-- Whatever the clients of mempool.space are sent, an estimate made of the result of a call is not
below the floor, and not above the ceiling that the node sets. It is what the node says, or a fee
from a height that is not too far behind, in every interval with more than half of the fees that
different clients had kept at this height. -/
theorem estimated_fees {s : State} {maxAge : Option Nat} {clients : Nat} {ops : List Op}
    (h : runFrom step anyOp (.init maxAge clients) ops = some s) {waiter : Waiter}
    (hwaiter : waiter ∈ s.waiters) {answers : Answers} {result : Option (Nat × ℚ)}
    (hdone : waiter.stage = .done result) (hanswer : answers.mempoolSpace = some result)
    (thresholds : Thresholds) (floor : ℚ) :
    roundTo1DecimalPlace floor ≤ estimateFee thresholds floor answers ∧
      (∀ nodeFee, answers.bitcoindFee = some nodeFee →
        estimateFee thresholds floor answers ≤
          roundTo1DecimalPlace (max (max nodeFee (thresholds.ceiling nodeFee)) floor)) ∧
      (estimateFee thresholds floor answers =
          roundTo1DecimalPlace (max (answers.bitcoindFee.getD floor) floor) ∨
        ∃ readers found height fee,
          estimateFee thresholds floor answers = roundTo1DecimalPlace (max fee floor) ∧
          (∀ tip ∈ answers.localTip, tip ≤ height + thresholds.maxBlockLag) ∧
          readers.Nodup ∧ List.Forall₂ (Kept s waiter.started) readers found ∧
          median (bestFees found height) = some fee ∧
          ∀ lo hi, ((bestFees found height).length <
              2 * (bestFees found height).countP fun value => decide (lo ≤ value ∧ value ≤ hi)) →
            lo ≤ fee ∧ fee ≤ hi) := by
  refine ⟨estimateFee_ge thresholds floor answers, fun nodeFee hnode => estimateFee_le hnode, ?_⟩
  rcases estimateFeeRaw_cases thresholds floor answers with
    hnode | ⟨height, fee, hfee, htrusted, hraw⟩
  · exact .inl (by rw [estimateFee, hnode])
  · obtain rfl : result = some (height, fee) := Option.some.inj (hanswer.symm.trans hfee)
    obtain ⟨readers, found, hnodup, hfound, hbest⟩ := found_of_done h hwaiter hdone
    obtain ⟨-, -, hmedian⟩ := bestFeesAndHeight_eq_some hbest
    exact .inr ⟨readers, found, height, fee, by rw [estimateFee, hraw],
      (of_valueTrusted htrusted).2.1, hnodup, hfound, hmedian,
      fun lo hi hmajority => median_mem_of_majority hmedian hmajority⟩

def exampleThresholds : Thresholds := { maxBlockLag := 2, maxFeeMultiplier := 2, maxFeeDelta := 1 }

/-- The node answers with half of what most clients say. -/
def exampleAnswers : Answers :=
  { mempoolSpace := some (some (7, 4)), localTip := some 8, bitcoindFee := some 2 }

theorem estimated_fees_example : ∃ s : State, ∃ readers found height fee,
    runFrom step anyOp (.init (some 60) 4) exampleVotes = some s ∧
      roundTo1DecimalPlace (1 / 5) ≤ estimateFee exampleThresholds (1 / 5) exampleAnswers ∧
      estimateFee exampleThresholds (1 / 5) exampleAnswers ≤
        roundTo1DecimalPlace (max (max 2 (exampleThresholds.ceiling 2)) (1 / 5)) ∧
      estimateFee exampleThresholds (1 / 5) exampleAnswers =
        roundTo1DecimalPlace (max fee (1 / 5)) ∧
      readers.Nodup ∧ List.Forall₂ (Kept s 0) readers found ∧
      median (bestFees found height) = some fee := by
  obtain ⟨s, hrun, hwaiter⟩ : ∃ s, runFrom step anyOp (.init (some 60) 4) exampleVotes = some s ∧
      { started := 0, stage := .done (some (7, 4)) } ∈ s.waiters :=
    ⟨_, rfl, by decide +kernel⟩
  have hanswer : exampleAnswers.mempoolSpace = some (some (7, 4)) := rfl
  obtain ⟨hfloor, hceiling, hfee⟩ :=
    estimated_fees hrun hwaiter rfl hanswer exampleThresholds (1 / 5)
  rcases hfee with hnode | ⟨readers, found, height, fee, hfee, -, hnodup, hkept, hmedian, -⟩
  · exact absurd hnode (by decide +kernel)
  · exact ⟨s, readers, found, height, fee, hrun, hfloor, hceiling 2 rfl, hfee, hnodup, hkept, hmedian⟩

end Boltz.MempoolSpace

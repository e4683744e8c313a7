import Boltz.Service.CltvLimits

/-!
# The CLTV limit and the timeout onchain

The conversion to blocks of the Lightning chain rounds up, which is right for the first leg of a
reverse swap. Here it is the limit of the second leg. The locktimes of an Ark in seconds are
rounded down.
-/

namespace Boltz

namespace CltvConfig

variable {cfg : CltvConfig} {swap : SwapTimeout}

/-- The blocks of the Lightning chain that go into the rest of the timeout, as a fraction. -/
def exactBlocks (cfg : CltvConfig) (swap : SwapTimeout) : Option ℚ :=
  match cfg.remainingMinutes swap, cfg.blockTimes (lightningCurrency swap) with
  | some minutes, some blockTime => some (minutes / blockTime)
  | _, _ => none

/-- With the delta the payment ends before the timeout. -/
def WithinTimeout (cfg : CltvConfig) (swap : SwapTimeout) (cltvLimit : ℤ) : Prop :=
  ∃ minutes blockTime, cfg.remainingMinutes swap = some minutes ∧
    cfg.blockTimes (lightningCurrency swap) = some blockTime ∧
    (cltvLimit + cfg.cltvDelta) * blockTime ≤ minutes

/-- Locktimes are seconds, or too few blocks are left, or what the conversion adds is not more than
what the subtraction of the delta takes away. -/
def RoundingCovered (cfg : CltvConfig) (swap : SwapTimeout) : Prop :=
  (cfg.chainCurrency swap).client.secondsNode.isSome ∨
    ∀ blocks, cfg.exactBlocks swap = some blocks →
      blocks ≤ ⌈cfg.cltvDelta⌉ + 1 ∨ ⌈blocks⌉ - blocks ≤ ⌈cfg.cltvDelta⌉ - cfg.cltvDelta

/-! ## Both conversions -/

theorem floor_sub_eq (blocks : ℤ) (delta : ℚ) : ⌊(blocks : ℚ) - delta⌋ = blocks - ⌈delta⌉ := by
  rw [sub_eq_add_neg, Int.floor_intCast_add, Int.floor_neg, ← sub_eq_add_neg]

theorem getCltvLimit_seconds {arkNode : ArkNode}
    (hseconds : (cfg.chainCurrency swap).client.secondsNode = some arkNode) :
    cfg.getCltvLimit swap =
      (cfg.exactBlocks swap).map fun blocks => ⌊blocks⌋ - ⌈cfg.cltvDelta⌉ := by
  unfold getCltvLimit blocksLeft exactBlocks remainingMinutes
  rw [hseconds]
  cases cfg.blockTimes (lightningCurrency swap) with
  | none => rfl
  | some blockTime => simp only [Option.map_some, floor_sub_eq]

theorem getCltvLimit_blocks (hblocks : (cfg.chainCurrency swap).client.secondsNode = none) :
    cfg.getCltvLimit swap =
      (cfg.exactBlocks swap).map fun blocks => ⌈blocks⌉ - ⌈cfg.cltvDelta⌉ := by
  unfold getCltvLimit blocksLeft exactBlocks remainingMinutes TimeoutDeltaProvider.convertBlocks
  rw [hblocks]
  cases cfg.blockTimes (cfg.chainCurrency swap).symbol with
  | none => rfl
  | some chainTime =>
    cases cfg.blockTimes (lightningCurrency swap) with
    | none => rfl
    | some blockTime => simp only [Option.map_some, floor_sub_eq]

/-- In blocks of the Lightning chain instead of minutes. -/
theorem withinTimeout_iff (hpos : cfg.blockTimes.Positive) {blocks : ℚ}
    (hblocks : cfg.exactBlocks swap = some blocks) {cltvLimit : ℤ} :
    cfg.WithinTimeout swap cltvLimit ↔ cltvLimit + cfg.cltvDelta ≤ blocks := by
  unfold exactBlocks at hblocks
  unfold WithinTimeout
  split at hblocks
  · rename_i minutes blockTime hminutes htime
    obtain rfl := Option.some.inj hblocks
    rw [le_div_iff₀ (hpos _ _ htime)]
    constructor
    · rintro ⟨minutes', blockTime', hminutes', htime', hle⟩
      obtain rfl := Option.some.inj (hminutes.symm.trans hminutes')
      obtain rfl := Option.some.inj (htime.symm.trans htime')
      exact hle
    · intro hle
      exact ⟨minutes, blockTime, hminutes, htime, hle⟩
  · cases hblocks

theorem seconds_withinTimeout (hpos : cfg.blockTimes.Positive) {arkNode : ArkNode}
    (hseconds : (cfg.chainCurrency swap).client.secondsNode = some arkNode) {cltvLimit : ℤ}
    (h : cfg.getCltvLimit swap = some cltvLimit) : cfg.WithinTimeout swap cltvLimit := by
  rw [getCltvLimit_seconds hseconds, Option.map_eq_some_iff] at h
  obtain ⟨blocks, hblocks, rfl⟩ := h
  rw [withinTimeout_iff hpos hblocks]
  have hfloor := Int.floor_le blocks
  have hceil := Int.le_ceil cfg.cltvDelta
  push_cast
  linarith

/-- What the conversion adds against what the delta takes away. -/
theorem blocks_withinTimeout_iff (hpos : cfg.blockTimes.Positive) {blocks : ℚ}
    (hblocks : cfg.exactBlocks swap = some blocks) :
    cfg.WithinTimeout swap (⌈blocks⌉ - ⌈cfg.cltvDelta⌉) ↔
      ⌈blocks⌉ - blocks ≤ ⌈cfg.cltvDelta⌉ - cfg.cltvDelta := by
  rw [withinTimeout_iff hpos hblocks]
  push_cast
  constructor
  · intro h
    linarith
  · intro h
    linarith

theorem accepts_blocks_iff (blocks delta : ℚ) :
    acceptsCltvLimit (⌈blocks⌉ - ⌈delta⌉) = true ↔ ¬blocks ≤ ⌈delta⌉ + 1 := by
  have hcast : blocks ≤ ⌈delta⌉ + 1 ↔ ⌈blocks⌉ ≤ ⌈delta⌉ + 1 := by
    rw [Int.ceil_le]
    push_cast
    exact Iff.rfl
  simp only [acceptsCltvLimit, Bool.not_eq_true', decide_eq_false_iff_not, hcast]
  omega

theorem cltv_limit_fits_iff (cfg : CltvConfig) (swap : SwapTimeout)
    (hpos : cfg.blockTimes.Positive) :
    (∀ cltvLimit, cfg.getCltvLimit swap = some cltvLimit →
        acceptsCltvLimit cltvLimit = true → cfg.WithinTimeout swap cltvLimit) ↔
      cfg.RoundingCovered swap := by
  unfold RoundingCovered
  cases hclient : (cfg.chainCurrency swap).client.secondsNode with
  | some arkNode =>
    exact ⟨fun _ => .inl rfl, fun _ cltvLimit h _ => seconds_withinTimeout hpos hclient h⟩
  | none =>
    rw [getCltvLimit_blocks hclient]
    simp only [Option.isSome_none, Bool.false_eq_true, false_or, Option.map_eq_some_iff]
    constructor
    · intro hwithin blocks hblocks
      by_cases hfew : blocks ≤ ⌈cfg.cltvDelta⌉ + 1
      · exact .inl hfew
      · have haccepts := (accepts_blocks_iff blocks cfg.cltvDelta).mpr hfew
        exact .inr ((blocks_withinTimeout_iff hpos hblocks).mp
          (hwithin _ ⟨blocks, hblocks, rfl⟩ haccepts))
    · rintro hcovered _ ⟨blocks, hblocks, rfl⟩ haccepts
      rcases hcovered blocks hblocks with hfew | hcovered
      · exact absurd hfew ((accepts_blocks_iff blocks cfg.cltvDelta).mp haccepts)
      · exact (blocks_withinTimeout_iff hpos hblocks).mpr hcovered

end CltvConfig

/-! ## A lockup on Liquid for an invoice on Bitcoin -/

/-- The delta of the tests. -/
def liquidConfig (blocks : ℤ) : CltvConfig where
  blockTimes := blockTimes
  currencies := fun symbol => ⟨symbol, .liquid blocks⟩
  cltvDelta := 20

def liquidSwap (timeoutBlockHeight : ℤ) : SwapTimeout :=
  ⟨⟨"L-BTC", "BTC"⟩, .sell, timeoutBlockHeight⟩

theorem whole_blocks_fit :
    (liquidConfig 200).blockTimes.Positive ∧
      ∀ cltvLimit, (liquidConfig 200).getCltvLimit (liquidSwap 2500) = some cltvLimit →
        acceptsCltvLimit cltvLimit = true →
          (liquidConfig 200).WithinTimeout (liquidSwap 2500) cltvLimit :=
  ⟨blockTimes_positive,
    (CltvConfig.cltv_limit_fits_iff (liquidConfig 200) (liquidSwap 2500) blockTimes_positive).mpr
      (.inr (by
        intro blocks hblocks
        have hwhole : (liquidConfig 200).exactBlocks (liquidSwap 2500) = some 230 := by
          decide +kernel
        obtain rfl : 230 = blocks := Option.some.inj (hwhole.symm.trans hblocks)
        exact .inr (by decide +kernel)))⟩

/-- 2301 minutes are left, 211 and 20 Lightning blocks are ten minutes each. -/
theorem rounded_limit_late :
    (liquidConfig 199).getCltvLimit (liquidSwap 2500) = some 211 ∧
      acceptsCltvLimit 211 = true ∧ ¬(liquidConfig 199).WithinTimeout (liquidSwap 2500) 211 := by
  refine ⟨by decide +kernel, by decide, ?_⟩
  have hblocks : (liquidConfig 199).exactBlocks (liquidSwap 2500) = some (2301 / 10) := by
    decide +kernel
  rw [CltvConfig.withinTimeout_iff blockTimes_positive hblocks]
  decide +kernel

end Boltz

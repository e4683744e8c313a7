import Mathlib.Algebra.Order.Field.Basic
import Mathlib.Tactic.Ring

/-!
# Amounts within a factor of each other

An error that is bounded by a factor is the same for a price and for its inverse, and factors
multiply where prices are multiplied or divided.
-/

namespace Boltz.Core

variable {F : Type} [Field F] [LinearOrder F] [IsStrictOrderedRing F] {c d x y z w : F}

/-- Neither amount is more than the factor times the other one. -/
def WithinFactor (c x y : F) : Prop := x ≤ c * y ∧ y ≤ c * x

instance (c x y : F) : Decidable (WithinFactor c x y) := inferInstanceAs (Decidable (_ ∧ _))

namespace WithinFactor

theorem iff_mem (hc : 0 < c) : WithinFactor c x y ↔ x / c ≤ y ∧ y ≤ c * x := by
  rw [WithinFactor, div_le_iff₀' hc]

theorem pos (hc : 0 < c) (hx : 0 < x) (h : WithinFactor c x y) : 0 < y :=
  pos_of_mul_pos_right (hx.trans_le h.1) hc.le

theorem mul (hc : 0 < c) (hx : 0 < x) (hz : 0 < z) (hd : 0 < d) (hxy : WithinFactor c x y)
    (hzw : WithinFactor d z w) : WithinFactor (c * d) (x * z) (y * w) := by
  have hy := hxy.pos hc hx
  have hw := hzw.pos hd hz
  constructor
  · calc x * z ≤ (c * y) * (d * w) := mul_le_mul hxy.1 hzw.1 hz.le (mul_pos hc hy).le
      _ = c * d * (y * w) := by ring
  · calc y * w ≤ (c * x) * (d * z) := mul_le_mul hxy.2 hzw.2 hw.le (mul_pos hc hx).le
      _ = c * d * (x * z) := by ring

theorem one_div (hc : 0 < c) (hx : 0 < x) (h : WithinFactor c x y) :
    WithinFactor c (1 / x) (1 / y) := by
  have hy := h.pos hc hx
  constructor
  · rw [mul_one_div, div_le_div_iff₀ hx hy, one_mul]
    exact h.2
  · rw [mul_one_div, div_le_div_iff₀ hy hx, one_mul]
    exact h.1

theorem div (hc : 0 < c) (hx : 0 < x) (hz : 0 < z) (hd : 0 < d) (hxy : WithinFactor c x y)
    (hzw : WithinFactor d z w) : WithinFactor (c * d) (x / z) (y / w) := by
  have h := hxy.mul hc hx (one_div_pos.mpr hz) hd (hzw.one_div hd hz)
  rwa [mul_one_div, mul_one_div] at h

end WithinFactor

end Boltz.Core

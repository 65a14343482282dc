import Mathlib.Algebra.Order.Group.Abs
import Mathlib.Algebra.Order.Group.MinMax

/-! # Saturation

A value limited to an interval.
-/

namespace BuranBrew.Saturation

section Order

variable {α : Type} [LinearOrder α] {value value' low high start : α}

def clamp (value low high : α) : α :=
  max low (min high value)

theorem low_le_clamp : low ≤ clamp value low high :=
  le_max_left _ _

theorem clamp_le_high (proper : low ≤ high) : clamp value low high ≤ high :=
  max_le proper (min_le_left _ _)

theorem clamp_mono (increased : value ≤ value') :
    clamp value low high ≤ clamp value' low high :=
  max_le_max (le_refl low) (min_le_min (le_refl high) increased)

theorem le_clamp (below : start ≤ high) (increased : start ≤ value) :
    start ≤ clamp value low high :=
  le_max_of_le_right (le_min below increased)

theorem clamp_le (above : low ≤ start) (decreased : value ≤ start) :
    clamp value low high ≤ start :=
  max_le above (min_le_of_right_le decreased)

/-- Where an increase shows through the limits. -/
theorem clamp_lt_clamp_iff (proper : low < high) :
    clamp value low high < clamp value' low high ↔
      value < value' ∧ low < value' ∧ value < high := by
  constructor
  · intro increased
    constructor
    · exact lt_of_not_ge fun decreased => (clamp_mono decreased).not_gt increased
    · constructor
      · apply lt_of_not_ge
        intro lowest
        exact ((clamp_le (le_refl low) lowest).trans low_le_clamp).not_gt increased
      · apply lt_of_not_ge
        intro highest
        exact ((clamp_le_high proper.le).trans (le_clamp (le_refl high) highest)).not_gt increased
  · intro given
    rcases given with ⟨increased, lowBelow, belowHigh⟩
    calc clamp value low high ≤ max low value := max_le_max (le_refl low) (min_le_right _ _)
      _ < min high value' := max_lt (lt_min proper lowBelow) (lt_min belowHigh increased)
      _ ≤ clamp value' low high := le_max_right _ _

end Order

section Group

variable {α : Type} [AddCommGroup α] [LinearOrder α] [IsOrderedAddMonoid α]
  {value value' low high limit start : α}

theorem abs_clamp_sub_le (above : low ≤ start) (below : start ≤ high) :
    |clamp value low high - start| ≤ |value - start| := by
  rcases le_total start value with increased | decreased
  · rw [abs_of_nonneg (sub_nonneg.mpr (le_clamp below increased)),
      abs_of_nonneg (sub_nonneg.mpr increased)]
    exact sub_le_sub_right (clamp_le (above.trans increased) (le_refl value)) start
  · rw [abs_of_nonpos (sub_nonpos.mpr (clamp_le above decreased)),
      abs_of_nonpos (sub_nonpos.mpr decreased)]
    exact neg_le_neg (sub_le_sub_right (le_clamp (decreased.trans below) (le_refl value)) start)

theorem abs_clamp_sub_clamp_le :
    |clamp value low high - clamp value' low high| ≤ |value - value'| := by
  unfold clamp
  rw [max_comm low, max_comm low, min_comm high, min_comm high]
  calc |max (min value high) low - max (min value' high) low|
      ≤ |min value high - min value' high| := abs_max_sub_max_le_abs _ _ _
    _ ≤ max |value - value'| |high - high| := abs_min_sub_min_le_max _ _ _ _
    _ = |value - value'| := by rw [sub_self, abs_zero, max_eq_left (abs_nonneg _)]

theorem abs_clamp_le (proper : 0 ≤ limit) : |clamp value (-limit) limit| ≤ limit :=
  abs_le.mpr ⟨low_le_clamp, clamp_le_high (neg_le_self proper)⟩

theorem abs_clamp (proper : 0 ≤ limit) : |clamp value (-limit) limit| = min limit |value| := by
  rcases le_total 0 value with positive | negative
  · have above : -limit ≤ min limit value :=
      (neg_nonpos.mpr proper).trans (le_min proper positive)
    rw [clamp, max_eq_right above, abs_of_nonneg (le_min proper positive),
      abs_of_nonneg positive]
  · have below : min limit value = value := min_eq_right (negative.trans proper)
    rw [clamp, below, abs_of_nonpos (max_le (neg_nonpos.mpr proper) negative),
      abs_of_nonpos negative, ← min_neg_neg, neg_neg]

theorem clamp_neg (proper : 0 ≤ limit) :
    clamp (-value) (-limit) limit = -clamp value (-limit) limit := by
  have inner : min limit (-value) = -max (-limit) value := by
    rw [← min_neg_neg, neg_neg]
  have lowest : min limit (-limit) = -limit := min_eq_right (neg_le_self proper)
  rw [clamp, clamp, inner, max_neg_neg, min_max_distrib_left, lowest]

end Group

end BuranBrew.Saturation

import BuranBrew.Foundation.FloatingPoint

/-! # Whole periods in floating point

How many whole periods have passed since a start, and when the last of them ended, with
every result rounded.
-/

namespace BuranBrew.FloatingPoint

namespace Format

variable (format : Format)

def wholePeriods (period start now : ℚ) : ℤ :=
  ⌊format.round (format.round (now - start) / period)⌋

def lastPeriodEnd (period start now : ℚ) : ℚ :=
  format.round (start + format.round (format.wholePeriods period start now * period))

variable {format} {period start now size : ℚ}

theorem unitRoundoff_mul_le {value factor : ℚ} (le : value ≤ factor * size) :
    format.unitRoundoff * value ≤ factor * (format.unitRoundoff * size) := by
  calc format.unitRoundoff * value ≤ format.unitRoundoff * (factor * size) :=
        mul_le_mul_of_nonneg_left le unitRoundoff_pos.le
    _ = factor * (format.unitRoundoff * size) := by ring

section Errors

variable (positive : 0 < period) (elapsed : period ≤ format.round (now - start))

include positive elapsed

theorem lt_of_elapsed : start < now := by
  by_contra early
  have none := format.round_nonpos (sub_nonpos.mpr (not_lt.mp early))
  linarith

theorem one_le_quotient : 1 ≤ format.round (now - start) / period := by
  rwa [le_div_iff₀ positive, one_mul]

theorem elapsed_error (startMember : format.Member start) (nowMember : format.Member now) :
    |format.round (now - start) - (now - start)| ≤ format.unitRoundoff * (now - start) := by
  have error := (nowMember.onGrid.sub startMember.onGrid).abs_round_sub_le
  rwa [abs_of_pos (sub_pos.mpr (lt_of_elapsed positive elapsed))] at error

variable (fine : format.Fine)

include fine

theorem one_le_wholePeriods : 1 ≤ format.wholePeriods period start now := by
  apply Int.le_floor.mpr
  rw [Int.cast_one]
  exact fine.member.le_round (one_le_quotient positive elapsed)

theorem periods_nonneg : 0 ≤ format.round (format.wholePeriods period start now * period) := by
  have passed := one_le_wholePeriods positive elapsed fine
  exact format.round_nonneg
    (mul_nonneg (by exact_mod_cast zero_le_one.trans passed) positive.le)

theorem le_lastPeriodEnd (startMember : format.Member start) :
    start ≤ format.lastPeriodEnd period start now :=
  startMember.le_round (le_add_of_nonneg_right (periods_nonneg positive elapsed fine))

theorem quotient_error :
    |format.round (format.round (now - start) / period) - format.round (now - start) / period| ≤
      format.unitRoundoff * (format.round (now - start) / period) := by
  have large := one_le_quotient positive elapsed
  have size := abs_of_nonneg (zero_le_one.trans large)
  have normal : format.Normal (format.round (now - start) / period) := by
    have unit := fine.normal
    rw [Format.Normal, abs_one] at unit
    rw [Format.Normal, size]
    exact unit.trans large
  have error := normal.abs_round_sub_le
  rwa [size] at error

variable (startMember : format.Member start) (nowMember : format.Member now)

include startMember nowMember

theorem quotient_mul_near :
    |format.round (format.round (now - start) / period) * period - (now - start)| ≤
      201 / 100 * (format.unitRoundoff * (now - start)) := by
  have early := abs_le.mp (elapsed_error positive elapsed startMember nowMember)
  have quotient := quotient_error positive elapsed fine
  generalize format.round (now - start) = rounded at early quotient ⊢
  have scaled : |format.round (rounded / period) * period - rounded| ≤
      format.unitRoundoff * rounded := by
    have same : format.round (rounded / period) * period - rounded =
        (format.round (rounded / period) - rounded / period) * period := by
      rw [sub_mul, div_mul_cancel₀ _ positive.ne']
    rw [same, abs_mul, abs_of_pos positive]
    calc |format.round (rounded / period) - rounded / period| * period
        ≤ format.unitRoundoff * (rounded / period) * period :=
          mul_le_mul_of_nonneg_right quotient positive.le
      _ = format.unitRoundoff * rounded := by rw [mul_assoc, div_mul_cancel₀ _ positive.ne']
  have span : 0 ≤ format.unitRoundoff * (now - start) :=
    mul_nonneg unitRoundoff_pos.le (sub_pos.mpr (lt_of_elapsed positive elapsed)).le
  have tiny := mul_le_mul_of_nonneg_right fine.precise
    (sub_pos.mpr (lt_of_elapsed positive elapsed)).le
  have bounded : format.unitRoundoff * rounded ≤
      101 / 100 * (format.unitRoundoff * (now - start)) :=
    unitRoundoff_mul_le (by linarith)
  rw [abs_le] at scaled ⊢
  constructor <;> linarith

variable (periodMember : format.Member period)

include periodMember

/-- The whole periods end at most one period before the instant, and not after it. -/
theorem periods_near :
    now - start - period - 31 / 10 * (format.unitRoundoff * (now - start)) <
        format.round (format.wholePeriods period start now * period) ∧
      format.round (format.wholePeriods period start now * period) ≤
        now - start + 31 / 10 * (format.unitRoundoff * (now - start)) ∧
      |format.round (format.wholePeriods period start now * period) -
          format.wholePeriods period start now * period| ≤
        11 / 10 * (format.unitRoundoff * (now - start)) := by
  have near := abs_le.mp (quotient_mul_near positive elapsed fine startMember nowMember)
  have passed := one_le_wholePeriods positive elapsed fine
  have product := (periodMember.onGrid.intCast_mul
    (format.wholePeriods period start now)).abs_round_sub_le
  have below : (format.wholePeriods period start now : ℚ) * period ≤
      format.round (format.round (now - start) / period) * period :=
    mul_le_mul_of_nonneg_right (Int.floor_le _) positive.le
  have above : format.round (format.round (now - start) / period) * period <
      (format.wholePeriods period start now + 1) * period :=
    mul_lt_mul_of_pos_right (Int.lt_floor_add_one _) positive
  rw [add_mul, one_mul] at above
  have forward : 0 ≤ (format.wholePeriods period start now : ℚ) * period :=
    mul_nonneg (by exact_mod_cast zero_le_one.trans passed) positive.le
  rw [abs_of_nonneg forward] at product
  generalize (format.wholePeriods period start now : ℚ) * period = whole at *
  have span : 0 ≤ format.unitRoundoff * (now - start) :=
    mul_nonneg unitRoundoff_pos.le (sub_pos.mpr (lt_of_elapsed positive elapsed)).le
  have tiny := mul_le_mul_of_nonneg_right fine.precise
    (sub_pos.mpr (lt_of_elapsed positive elapsed)).le
  have bounded : format.unitRoundoff * whole ≤
      103 / 100 * (format.unitRoundoff * (now - start)) :=
    unitRoundoff_mul_le (by linarith)
  have last := abs_le.mp product
  exact ⟨by linarith, by linarith, product.trans (by linarith)⟩

variable (startSize : |start| ≤ size) (nowSize : |now| ≤ size)

include startSize nowSize

theorem lastPeriodEnd_near :
    format.lastPeriodEnd period start now ≤ now + 8 * (format.unitRoundoff * size) ∧
      now < format.lastPeriodEnd period start now + period +
        8 * (format.unitRoundoff * size) ∧
      |format.lastPeriodEnd period start now -
          (start + format.wholePeriods period start now * period)| ≤
        4 * (format.unitRoundoff * size) := by
  rcases periods_near positive elapsed fine startMember nowMember periodMember with
    ⟨above, below, product⟩
  have sum := (startMember.onGrid.add (format.member_round
    (format.wholePeriods period start now * period)).onGrid).abs_round_sub_le
  have positiveSize := (abs_nonneg start).trans startSize
  have unit : 0 ≤ format.unitRoundoff * size :=
    mul_nonneg unitRoundoff_pos.le positiveSize
  have small := mul_le_mul_of_nonneg_right fine.precise positiveSize
  have span : format.unitRoundoff * (now - start) ≤ 2 * (format.unitRoundoff * size) :=
    unitRoundoff_mul_le (by linarith [abs_le.mp startSize, abs_le.mp nowSize])
  have forward := periods_nonneg positive elapsed fine
  unfold lastPeriodEnd
  generalize format.round (format.wholePeriods period start now * period) = whole at *
  have reach : |start + whole| ≤ 107 / 100 * size := by
    rw [abs_le]
    constructor <;> linarith [abs_le.mp startSize, abs_le.mp nowSize]
  have rounding : format.unitRoundoff * |start + whole| ≤
      107 / 100 * (format.unitRoundoff * size) := unitRoundoff_mul_le reach
  have last := abs_le.mp sum
  have product := abs_le.mp product
  refine ⟨by linarith, by linarith, abs_le.mpr ⟨by linarith, by linarith⟩⟩

/-- Less than a period has passed since then, unless the instant is too close to the end of
a period to tell. -/
theorem elapsed_lastPeriodEnd (clear : ∀ periods : ℤ, 2 ≤ periods →
      16 * (format.unitRoundoff * size) < |now - (start + periods * period)|) :
    format.round (now - format.lastPeriodEnd period start now) < period := by
  by_contra late
  rw [not_lt] at late
  rcases lastPeriodEnd_near positive elapsed fine startMember nowMember periodMember startSize
    nowSize with ⟨_, below, whole⟩
  have passed := one_le_wholePeriods positive elapsed fine
  have away := clear (format.wholePeriods period start now + 1) (by omega)
  have member : format.Member (format.lastPeriodEnd period start now) := format.member_round _
  have again := abs_le.mp (elapsed_error positive late member nowMember)
  have first := abs_le.mp (elapsed_error positive elapsed startMember nowMember)
  have positiveSize := (abs_nonneg start).trans startSize
  have small := mul_le_mul_of_nonneg_right fine.precise positiveSize
  have span : format.unitRoundoff * (now - start) ≤ 2 * (format.unitRoundoff * size) :=
    unitRoundoff_mul_le (by linarith [abs_le.mp startSize, abs_le.mp nowSize])
  generalize format.lastPeriodEnd period start now = last at *
  have rest : format.unitRoundoff * (now - last) ≤ 3 * (format.unitRoundoff * size) :=
    unitRoundoff_mul_le (by linarith [abs_le.mp startSize, abs_le.mp nowSize])
  push_cast at away
  rw [add_mul, one_mul] at away
  have whole := abs_le.mp whole
  apply away.not_ge
  rw [abs_le]
  constructor <;> linarith

end Errors

end Format

end BuranBrew.FloatingPoint

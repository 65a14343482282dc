import Mathlib.Algebra.Order.Field.Power
import Mathlib.Data.Int.Log
import Mathlib.Data.Rat.Floor
import Mathlib.Tactic.FieldSimp
import Mathlib.Tactic.Linarith
import Mathlib.Tactic.Positivity
import Mathlib.Tactic.Ring

/-! # Floating point

Rationals with so many binary digits, which are multiples of a least unit, and rounding to
the nearest of them, ties to even. There is no greatest one: overflow is left out.
-/

namespace BuranBrew.FloatingPoint

/-! ## Rounding to integers -/

/-- To the nearest integer, ties to the even one. -/
def roundEven (value : ℚ) : ℤ :=
  let below := ⌊value⌋
  if value - below < 1 / 2 then below
  else if value - below > 1 / 2 then below + 1
  else if below % 2 = 0 then below else below + 1

theorem floor_le_roundEven (value : ℚ) : ⌊value⌋ ≤ roundEven value := by
  unfold roundEven
  dsimp only
  split_ifs <;> omega

theorem roundEven_le_floor_add_one (value : ℚ) : roundEven value ≤ ⌊value⌋ + 1 := by
  unfold roundEven
  dsimp only
  split_ifs <;> omega

@[simp] theorem roundEven_intCast (integer : ℤ) : roundEven integer = integer := by
  simp [roundEven]

theorem abs_roundEven_sub_le (value : ℚ) : |(roundEven value : ℚ) - value| ≤ 1 / 2 := by
  have above := Int.floor_le value
  have below := Int.lt_floor_add_one value
  unfold roundEven
  dsimp only
  split_ifs with less more even
  · rw [abs_le]
    constructor <;> linarith
  · push_cast
    rw [abs_le]
    constructor <;> linarith
  · rw [abs_le]
    constructor <;> linarith
  · push_cast
    rw [abs_le]
    constructor <;> linarith

theorem roundEven_mono {lesser greater : ℚ} (le : lesser ≤ greater) :
    roundEven lesser ≤ roundEven greater := by
  rcases Int.lt_or_eq_of_le (Int.floor_mono le) with earlier | same
  · have upper := roundEven_le_floor_add_one lesser
    have lower := floor_le_roundEven greater
    omega
  · unfold roundEven
    dsimp only
    rw [← same]
    split_ifs <;> first | omega | (exfalso; linarith)

theorem roundEven_neg (value : ℚ) : roundEven (-value) = -roundEven value := by
  by_cases integral : (⌊value⌋ : ℚ) = value
  · rw [← integral, ← Int.cast_neg, roundEven_intCast, roundEven_intCast]
  · have above := (Int.floor_le value).lt_of_ne integral
    have below := Int.lt_floor_add_one value
    have floor : ⌊-value⌋ = -⌊value⌋ - 1 := by
      rw [Int.floor_eq_iff]
      push_cast
      constructor <;> linarith
    unfold roundEven
    dsimp only
    rw [floor]
    push_cast
    split_ifs <;> first | omega | (exfalso; linarith)

/-! ## Formats -/

structure Format where
  precision : ℕ
  /-- The least unit is two to this power. -/
  minExponent : ℤ
  precision_pos : 0 < precision

def binary64 : Format := ⟨53, -1074, by decide⟩

namespace Format

variable (format : Format)

/-- The exponent of the last digit of a number of this size. -/
def exponent (value : ℚ) : ℤ :=
  max (Int.log 2 |value| - (format.precision - 1)) format.minExponent

def ulp (value : ℚ) : ℚ := 2 ^ format.exponent value

def round (value : ℚ) : ℚ := roundEven (value / format.ulp value) * format.ulp value

def Member (value : ℚ) : Prop :=
  ∃ digits exponent : ℤ, format.minExponent ≤ exponent ∧ |digits| < 2 ^ format.precision ∧
    value = digits * 2 ^ exponent

def OnGrid (value : ℚ) : Prop := ∃ units : ℤ, value = units * 2 ^ format.minExponent

/-- Half a unit of the last digit of one. -/
def unitRoundoff : ℚ := 2 ^ (-(format.precision : ℤ))

variable {format} {value lesser greater : ℚ}

theorem ulp_pos (value : ℚ) : 0 < format.ulp value := zpow_pos two_pos _

theorem unitRoundoff_pos : 0 < format.unitRoundoff := zpow_pos two_pos _

theorem unitRoundoff_le_half : format.unitRoundoff ≤ 1 / 2 := by
  have positive := format.precision_pos
  calc format.unitRoundoff ≤ 2 ^ (-1 : ℤ) :=
        zpow_le_zpow_right₀ one_le_two (by omega)
    _ = 1 / 2 := by norm_num

theorem zpow_eq_mul {lower upper : ℤ} (le : lower ≤ upper) :
    ∃ factor : ℤ, (2 : ℚ) ^ upper = factor * 2 ^ lower := by
  refine ⟨2 ^ (upper - lower).toNat, ?_⟩
  push_cast
  rw [← zpow_natCast, ← zpow_add₀ two_ne_zero]
  congr 1
  omega

theorem exponent_neg (value : ℚ) : format.exponent (-value) = format.exponent value := by
  rw [exponent, exponent, abs_neg]

theorem round_neg (value : ℚ) : format.round (-value) = -format.round value := by
  rw [round, round, ulp, ulp, exponent_neg, neg_div, roundEven_neg]
  push_cast
  ring

@[simp] theorem round_zero : format.round 0 = 0 := by simp [round, roundEven]

theorem round_le_of_multiple {bound : ℚ} (units : ℤ)
    (multiple : bound = units * format.ulp value) (le : value ≤ bound) :
    format.round value ≤ bound := by
  have positive := format.ulp_pos value
  have quotient : value / format.ulp value ≤ (units : ℚ) := by
    rwa [div_le_iff₀ positive, ← multiple]
  have rounded := roundEven_mono quotient
  rw [roundEven_intCast] at rounded
  rw [round, multiple]
  exact mul_le_mul_of_nonneg_right (by exact_mod_cast rounded) positive.le

theorem le_round_of_multiple {bound : ℚ} (units : ℤ)
    (multiple : bound = units * format.ulp value) (le : bound ≤ value) :
    bound ≤ format.round value := by
  have opposite : format.round (-value) ≤ -bound := by
    apply round_le_of_multiple (-units)
    · rw [ulp, exponent_neg, multiple, ulp]
      push_cast
      ring
    · exact neg_le_neg le
  rw [round_neg] at opposite
  exact neg_le_neg_iff.mp opposite

theorem round_nonneg (nonneg : 0 ≤ value) : 0 ≤ format.round value :=
  le_round_of_multiple 0 (by simp) nonneg

theorem round_nonpos (nonpos : value ≤ 0) : format.round value ≤ 0 :=
  round_le_of_multiple 0 (by simp) nonpos

theorem exponent_le_exponent (positive : 0 < lesser) (le : lesser ≤ greater) :
    format.exponent lesser ≤ format.exponent greater := by
  rw [exponent, exponent, abs_of_pos positive, abs_of_pos (positive.trans_le le)]
  exact max_le_max_right _ (sub_le_sub_right (Int.log_mono_right positive le) _)

theorem round_le_round_of_pos (positive : 0 < lesser) (le : lesser ≤ greater) :
    format.round lesser ≤ format.round greater := by
  rcases (format.exponent_le_exponent positive le).eq_or_lt with same | less
  · rw [round, round, ulp, ulp, same]
    have units := zpow_pos (two_pos : (0 : ℚ) < 2) (format.exponent greater)
    apply mul_le_mul_of_nonneg_right _ units.le
    exact_mod_cast roundEven_mono (div_le_div_of_nonneg_right le units.le)
  · -- Between the two lies a power of two, which is a multiple of both units.
    have precise := format.precision_pos
    have below : lesser < 2 ^ (Int.log 2 lesser + 1) :=
      Int.lt_zpow_succ_log_self Nat.one_lt_two lesser
    have above : (2 : ℚ) ^ Int.log 2 greater ≤ greater :=
      Int.zpow_log_le_self Nat.one_lt_two (positive.trans_le le)
    rw [exponent, exponent, abs_of_pos positive, abs_of_pos (positive.trans_le le)] at less
    have between : lesser ≤ 2 ^ Int.log 2 greater :=
      below.le.trans (zpow_le_zpow_right₀ one_le_two (by omega))
    have lowerUnit : format.exponent lesser ≤ Int.log 2 greater := by
      rw [exponent, abs_of_pos positive]
      omega
    have upperUnit : format.exponent greater ≤ Int.log 2 greater := by
      rw [exponent, abs_of_pos (positive.trans_le le)]
      omega
    rcases zpow_eq_mul lowerUnit with ⟨lowerFactor, lowerMultiple⟩
    rcases zpow_eq_mul upperUnit with ⟨upperFactor, upperMultiple⟩
    exact (round_le_of_multiple _ lowerMultiple between).trans
      (le_round_of_multiple _ upperMultiple above)

theorem round_mono : Monotone format.round := by
  intro lesser greater le
  rcases lt_or_ge 0 lesser with positive | nonpos
  · exact round_le_round_of_pos positive le
  · rcases lt_or_ge greater 0 with negative | nonneg
    · have opposite := format.round_le_round_of_pos (neg_pos.mpr negative) (neg_le_neg le)
      rw [round_neg, round_neg] at opposite
      exact neg_le_neg_iff.mp opposite
    · exact (round_nonpos nonpos).trans (round_nonneg nonneg)

/-! ## Numbers of the format -/

theorem Member.neg (member : format.Member value) : format.Member (-value) := by
  rcases member with ⟨digits, exponent, least, few, rfl⟩
  refine ⟨-digits, exponent, least, by rwa [abs_neg], ?_⟩
  push_cast
  ring

theorem Member.onGrid (member : format.Member value) : format.OnGrid value := by
  rcases member with ⟨digits, exponent, least, -, rfl⟩
  rcases zpow_eq_mul least with ⟨factor, multiple⟩
  refine ⟨digits * factor, ?_⟩
  rw [multiple]
  push_cast
  ring

theorem Member.multiple (member : format.Member value) :
    ∃ units : ℤ, value = units * format.ulp value := by
  rcases member with ⟨digits, exponent, least, few, same⟩
  by_cases zero : value = 0
  · exact ⟨0, by simp [zero]⟩
  · have size : |value| < 2 ^ (format.precision + exponent) := by
      rw [same, abs_mul, abs_of_pos (zpow_pos two_pos exponent : (0 : ℚ) < _),
        zpow_add₀ two_ne_zero, zpow_natCast]
      apply mul_lt_mul_of_pos_right _ (zpow_pos two_pos _)
      exact_mod_cast few
    have log : Int.log 2 |value| < format.precision + exponent :=
      (Int.lt_zpow_iff_log_lt Nat.one_lt_two (abs_pos.mpr zero)).mp (by exact_mod_cast size)
    have unit : format.exponent value ≤ exponent := by
      rw [Format.exponent]
      omega
    rcases zpow_eq_mul unit with ⟨factor, multiple⟩
    refine ⟨digits * factor, ?_⟩
    rw [ulp]
    nth_rewrite 1 [same]
    rw [multiple]
    push_cast
    ring

theorem Member.round (member : format.Member value) : format.round value = value := by
  rcases member.multiple with ⟨units, multiple⟩
  have quotient : value / format.ulp value = units := by
    rw [div_eq_iff (format.ulp_pos value).ne', ← multiple]
  rw [Format.round, quotient, roundEven_intCast, ← multiple]

theorem Member.round_le (member : format.Member greater) (le : value ≤ greater) :
    format.round value ≤ greater := by
  have rounded := format.round_mono le
  rwa [member.round] at rounded

theorem Member.le_round (member : format.Member lesser) (le : lesser ≤ value) :
    lesser ≤ format.round value := by
  have rounded := format.round_mono le
  rwa [member.round] at rounded

theorem abs_div_ulp_lt (value : ℚ) : |value / format.ulp value| < 2 ^ format.precision := by
  have positive := format.ulp_pos value
  rw [abs_div, abs_of_pos positive, div_lt_iff₀ positive, ulp, ← zpow_natCast,
    ← zpow_add₀ two_ne_zero]
  apply (Int.lt_zpow_succ_log_self Nat.one_lt_two |value|).trans_le
  apply zpow_le_zpow_right₀ one_le_two
  rw [exponent]
  omega

theorem member_of_units {units exponent : ℤ} (least : format.minExponent ≤ exponent)
    (few : |units| ≤ 2 ^ format.precision) : format.Member (units * 2 ^ exponent) := by
  rcases few.lt_or_eq with fewer | all
  · exact ⟨units, exponent, least, fewer, rfl⟩
  · -- All digits are used up: one less is needed for twice the unit.
    have positive := format.precision_pos
    rcases Nat.exists_eq_add_of_lt positive with ⟨rest, precise⟩
    rw [precise, zero_add, pow_succ] at all
    have fewer : |(2 : ℤ) ^ rest| < 2 ^ format.precision := by
      rw [abs_of_pos (pow_pos two_pos rest), precise]
      exact pow_lt_pow_right₀ one_lt_two (by omega)
    have twice : (2 : ℚ) ^ (exponent + 1) = 2 ^ exponent * 2 := zpow_add_one₀ two_ne_zero _
    rcases abs_eq (by positivity) |>.mp all with same | same
    · refine ⟨2 ^ rest, exponent + 1, by omega, fewer, ?_⟩
      rw [same, twice]
      push_cast
      ring
    · refine ⟨-2 ^ rest, exponent + 1, by omega, by rwa [abs_neg], ?_⟩
      rw [same, twice]
      push_cast
      ring

theorem member_round (value : ℚ) : format.Member (format.round value) := by
  apply member_of_units (le_max_right _ _)
  have bounds := abs_lt.mp (format.abs_div_ulp_lt value)
  have upper := roundEven_mono bounds.2.le
  have lower := roundEven_mono bounds.1.le
  have integral : (2 : ℚ) ^ format.precision = ((2 ^ format.precision : ℤ) : ℚ) := by
    push_cast
    rfl
  rw [integral] at upper lower
  rw [← Int.cast_neg, roundEven_intCast] at lower
  rw [roundEven_intCast] at upper
  exact abs_le.mpr ⟨lower, upper⟩

theorem member_iff : format.Member value ↔ format.round value = value := by
  constructor
  · exact Member.round
  · intro same
    rw [← same]
    exact format.member_round value

instance decidableMember (value : ℚ) : Decidable (format.Member value) :=
  decidable_of_iff (format.round value = value) member_iff.symm

/-! ## Errors -/

theorem abs_round_sub_le (value : ℚ) :
    |format.round value - value| ≤ format.ulp value / 2 := by
  have positive := format.ulp_pos value
  have error : format.round value - value =
      (roundEven (value / format.ulp value) - value / format.ulp value) *
        format.ulp value := by
    rw [round, sub_mul, div_mul_cancel₀ _ positive.ne']
  rw [error, abs_mul, abs_of_pos positive]
  calc |roundEven (value / format.ulp value) - value / format.ulp value| * format.ulp value
      ≤ 1 / 2 * format.ulp value :=
        mul_le_mul_of_nonneg_right (abs_roundEven_sub_le _) positive.le
    _ = format.ulp value / 2 := by ring

def Normal (format : Format) (value : ℚ) : Prop :=
  (2 : ℚ) ^ (format.minExponent + (format.precision - 1)) ≤ |value|

theorem Normal.ne_zero (normal : format.Normal value) : value ≠ 0 :=
  abs_pos.mp ((zpow_pos two_pos _).trans_le normal)

theorem Normal.exponent (normal : format.Normal value) :
    format.exponent value = Int.log 2 |value| - (format.precision - 1) := by
  have log := Int.log_mono_right (b := 2) (zpow_pos two_pos _) normal
  have known := Int.log_zpow (R := ℚ) Nat.one_lt_two
    (format.minExponent + (format.precision - 1))
  rw [Nat.cast_ofNat] at known
  rw [known] at log
  rw [Format.exponent, max_eq_left]
  omega

theorem Normal.ulp_le (normal : format.Normal value) :
    format.ulp value ≤ 2 * format.unitRoundoff * |value| := by
  have log := Int.zpow_log_le_self Nat.one_lt_two (abs_pos.mpr normal.ne_zero)
  have size : (2 : ℚ) ^ Int.log 2 |value| ≤ |value| := by exact_mod_cast log
  have unit : format.ulp value =
      2 * format.unitRoundoff * 2 ^ Int.log 2 |value| := by
    rw [ulp, normal.exponent, unitRoundoff, ← zpow_one_add₀ two_ne_zero,
      ← zpow_add₀ two_ne_zero]
    congr 1
    omega
  rw [unit]
  exact mul_le_mul_of_nonneg_left size (mul_pos two_pos unitRoundoff_pos).le

theorem Normal.abs_round_sub_le_of_le (normal : format.Normal greater)
    (le : |value| ≤ |greater|) :
    |format.round value - value| ≤ format.unitRoundoff * |greater| := by
  by_cases zero : value = 0
  · rw [zero, round_zero, sub_self, abs_zero]
    exact mul_nonneg unitRoundoff_pos.le (abs_nonneg greater)
  · have exponents := format.exponent_le_exponent (abs_pos.mpr zero) le
    rw [Format.exponent, Format.exponent, abs_abs, abs_abs] at exponents
    have units : format.ulp value ≤ format.ulp greater :=
      zpow_le_zpow_right₀ one_le_two exponents
    have error := format.abs_round_sub_le value
    have unit := normal.ulp_le
    linarith

theorem Normal.abs_round_sub_le (normal : format.Normal value) :
    |format.round value - value| ≤ format.unitRoundoff * |value| :=
  normal.abs_round_sub_le_of_le le_rfl

theorem OnGrid.sub (first : format.OnGrid lesser) (second : format.OnGrid greater) :
    format.OnGrid (lesser - greater) := by
  rcases first with ⟨units, rfl⟩
  rcases second with ⟨others, rfl⟩
  exact ⟨units - others, by push_cast; ring⟩

theorem OnGrid.add (first : format.OnGrid lesser) (second : format.OnGrid greater) :
    format.OnGrid (lesser + greater) := by
  rcases first with ⟨units, rfl⟩
  rcases second with ⟨others, rfl⟩
  exact ⟨units + others, by push_cast; ring⟩

theorem OnGrid.intCast_mul (factor : ℤ) (onGrid : format.OnGrid value) :
    format.OnGrid (factor * value) := by
  rcases onGrid with ⟨units, rfl⟩
  exact ⟨factor * units, by push_cast; ring⟩

/-- On the grid only numbers that have all their digits are rounded at all. -/
theorem OnGrid.normal_or_member (onGrid : format.OnGrid value) :
    format.Normal value ∨ format.Member value := by
  by_cases normal : format.Normal value
  · exact .inl normal
  · right
    rcases onGrid with ⟨units, rfl⟩
    have small := not_le.mp normal
    have unit : (0 : ℚ) < 2 ^ format.minExponent := zpow_pos two_pos _
    rw [abs_mul, abs_of_pos unit, add_comm, zpow_add₀ two_ne_zero,
      mul_lt_mul_iff_left₀ unit] at small
    apply member_of_units le_rfl
    have few : |(units : ℚ)| < 2 ^ (format.precision : ℤ) :=
      small.trans_le (zpow_le_zpow_right₀ one_le_two (by omega))
    rw [zpow_natCast] at few
    exact_mod_cast few.le

theorem OnGrid.abs_round_sub_le (onGrid : format.OnGrid value) :
    |format.round value - value| ≤ format.unitRoundoff * |value| := by
  rcases onGrid.normal_or_member with normal | member
  · exact normal.abs_round_sub_le
  · rw [member.round, sub_self, abs_zero]
    exact mul_nonneg unitRoundoff_pos.le (abs_nonneg value)

/-- One has all its digits, and there are more than a few of them. -/
structure Fine (format : Format) : Prop where
  member : format.Member 1
  normal : format.Normal 1
  precise : format.unitRoundoff ≤ 1 / 100

theorem binary64_fine : binary64.Fine where
  member := ⟨1, 0, by decide, by decide, by norm_num⟩
  normal := by
    rw [Normal, abs_one]
    exact zpow_le_one_of_nonpos₀ one_le_two (by decide)
  precise := by norm_num [unitRoundoff, binary64]

end Format

end BuranBrew.FloatingPoint

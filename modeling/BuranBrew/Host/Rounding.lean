import BuranBrew.Foundation.FloatingPoint

/-! # Rounding

Python floats are rationals here, and what rounds the results of the operations on them is
a parameter. Overflow is left out, and so are infinities, NaN and the sign of zero.
-/

namespace BuranBrew.Host

class Rounding where
  /-- The float to which an exact result is rounded. -/
  fl : ℚ → ℚ
  fl_zero : fl 0 = 0
  fl_mono : Monotone fl

export Rounding (fl fl_zero fl_mono)

attribute [simp] fl_zero

namespace Exact

/-- Nothing is lost. -/
scoped instance rounding : Rounding where
  fl value := value
  fl_zero := rfl
  fl_mono := monotone_id

@[simp] theorem fl_eq (value : ℚ) : fl value = value := rfl

end Exact

namespace Binary64

/-- What Python's floats do. -/
scoped instance rounding : Rounding where
  fl := FloatingPoint.binary64.round
  fl_zero := FloatingPoint.Format.round_zero
  fl_mono := FloatingPoint.binary64.round_mono

end Binary64

end BuranBrew.Host

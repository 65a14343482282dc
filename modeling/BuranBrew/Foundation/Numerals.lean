import Mathlib.Algebra.Group.Nat.Defs
import Mathlib.Tactic.Common

/-! # Decimal numerals

Numbers written out in decimal digits, with a fixed number of decimals.
-/

namespace BuranBrew.Numerals

variable (negative : Bool) (decimals units : Nat)

def signed (unsigned : List Char) : List Char :=
  if negative then '-' :: unsigned else unsigned

/-- The digits before the point of so many units of `10 ^ -decimals`. -/
def whole : List Char := Nat.toDigits 10 (units / 10 ^ decimals)

def fraction : List Char :=
  List.leftpad decimals '0' (Nat.toDigits 10 (units % 10 ^ decimals))

def fixedPoint : List Char := whole decimals units ++ '.' :: fraction decimals units

theorem isDigit_of_mem_whole :
    ∀ char ∈ whole decimals units, char.isDigit = true :=
  fun _ among => Nat.isDigit_of_mem_toDigits (by decide) (by decide) among

theorem isDigit_of_mem_fraction :
    ∀ char ∈ fraction decimals units, char.isDigit = true := by
  intro char among
  rcases List.mem_append.mp among with padding | digit
  · rw [List.eq_of_mem_replicate padding]
    rfl
  · exact Nat.isDigit_of_mem_toDigits (by decide) (by decide) digit

theorem mem_fixedPoint :
    ∀ char ∈ fixedPoint decimals units, char.isDigit = true ∨ char = '.' := by
  intro char among
  rcases List.mem_append.mp among with before | after
  · exact .inl (isDigit_of_mem_whole decimals units char before)
  · rcases List.mem_cons.mp after with point | after
    · exact .inr point
    · exact .inl (isDigit_of_mem_fraction decimals units char after)

theorem point_mem_fixedPoint : '.' ∈ fixedPoint decimals units :=
  List.mem_append_right _ List.mem_cons_self

theorem not_mem_of_plain {chars : List Char}
    (plain : ∀ char ∈ chars, char.isDigit = true ∨ char = '.') {char : Char}
    (notDigit : char.isDigit = false) (notPoint : char ≠ '.') : char ∉ chars := by
  intro among
  rcases plain char among with isDigit | point
  · rw [notDigit] at isDigit
    cases isDigit
  · exact notPoint point

theorem not_mem_signed {unsigned : List Char}
    (plain : ∀ char ∈ unsigned, char.isDigit = true ∨ char = '.') (negative : Bool)
    {char : Char} (notDigit : char.isDigit = false) (notPoint : char ≠ '.')
    (notMinus : char ≠ '-') : char ∉ signed negative unsigned := by
  have absent := not_mem_of_plain plain notDigit notPoint
  cases negative with
  | false => exact absent
  | true =>
      intro among
      rcases List.mem_cons.mp among with minus | among
      · exact notMinus minus
      · exact absent among

theorem whole_ne_nil : whole decimals units ≠ [] := Nat.toDigits_ne_nil

variable {decimals}

theorem length_fraction (positive : 0 < decimals) :
    (fraction decimals units).length = decimals := by
  have fits : (Nat.toDigits 10 (units % 10 ^ decimals)).length ≤ decimals :=
    (Nat.length_toDigits_le_iff (by decide) positive).mpr
      (Nat.mod_lt _ (Nat.pow_pos (by decide)))
  rw [fraction, List.length_leftpad, Nat.max_eq_left fits]

theorem ofDigitChars_fixedPoint (positive : 0 < decimals) :
    Nat.ofDigitChars 10 (fraction decimals units)
      (Nat.ofDigitChars 10 (whole decimals units) 0) = units := by
  have length := length_fraction units positive
  rw [Nat.ofDigitChars_eq_ofDigitChars_zero, length, whole, Nat.ofDigitChars_ten_toDigits,
    fraction, List.leftpad, Nat.ofDigitChars_append, Nat.ofDigitChars_replicate_zero,
    Nat.mul_zero, Nat.ofDigitChars_ten_toDigits]
  exact Nat.div_add_mod units (10 ^ decimals)

end BuranBrew.Numerals

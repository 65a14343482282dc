import BuranBrew.Telemetry.Strconv

/-! # Reading decimal fractions back

What `ParseFloat` makes of a number with a fixed number of decimals.
-/

namespace BuranBrew.Telemetry.Strconv

open Numerals

theorem readMantissa_digits {chars : List Char}
    (digits : ∀ char ∈ chars, char.isDigit = true) (mantissa : Mantissa)
    (rest : List Char) :
    readMantissa false mantissa (chars ++ rest) =
      readMantissa false
        { mantissa with
          value := Nat.ofDigitChars 10 chars mantissa.value
          fractionDigits :=
            mantissa.fractionDigits + if mantissa.sawDot then chars.length else 0
          sawDigits := mantissa.sawDigits || !chars.isEmpty } rest := by
  induction chars generalizing mantissa with
  | nil => simp
  | cons char chars induction =>
      have isDigit := digits char List.mem_cons_self
      have notUnderscore : char ≠ '_' := by
        intro same
        simp [same] at isDigit
      have notDot : char ≠ '.' := by
        intro same
        simp [same] at isDigit
      rw [List.cons_append, readMantissa, if_neg notUnderscore, if_neg notDot]
      simp only [digitIn, Bool.false_eq_true, if_false, digit_of_isDigit isDigit]
      rw [induction fun other among => digits other (List.mem_cons_of_mem _ among)]
      cases dot : mantissa.sawDot with
      | false => simp [Mantissa.push, dot, Nat.ofDigitChars_cons, Nat.mul_comm]
      | true =>
          simp [Mantissa.push, dot, Nat.ofDigitChars_cons, Nat.mul_comm, Nat.add_assoc,
            Nat.add_comm 1]

variable {decimals : Nat} (units : Nat)

theorem readMantissa_fixedPoint (positive : 0 < decimals) :
    readMantissa false {} (fixedPoint decimals units) =
      (⟨units, decimals, true, true⟩, []) := by
  have whole := readMantissa_digits (isDigit_of_mem_whole decimals units) {}
    ('.' :: fraction decimals units)
  have fraction := fun mantissa => readMantissa_digits
    (isDigit_of_mem_fraction decimals units) mantissa []
  rw [fixedPoint, whole, readMantissa, if_neg (by decide), if_pos rfl, if_neg (by simp),
    ← List.append_nil (Numerals.fraction decimals units), fraction, readMantissa]
  simp [ofDigitChars_fixedPoint units positive, length_fraction units positive,
    whole_ne_nil]

/-! Neither a sign nor a base is found in front, and the point is in no special name. -/

theorem sign_fixedPoint :
    sign (fixedPoint decimals units) = (false, fixedPoint decimals units) := by
  have plain := mem_fixedPoint decimals units
  apply sign_of_not_mem
  · exact not_mem_of_plain plain (by decide) (by decide)
  · exact not_mem_of_plain plain (by decide) (by decide)

theorem toLower_of_isDigit {char : Char} (isDigit : char.isDigit = true) :
    char.toLower = char := by
  have atMostNine := (Char.isDigit_iff_toNat.mp isDigit).2
  have notUpper : ¬(char.val ≥ 'A'.val ∧ char.val ≤ 'Z'.val) := by
    intro upper
    have atLeastA : 'A'.toNat ≤ char.toNat := upper.1
    exact absurd (atLeastA.trans atMostNine) (by decide)
  exact dif_neg notUpper

theorem hexPrefix_fixedPoint :
    hexPrefix (fixedPoint decimals units) = (false, fixedPoint decimals units) := by
  have plain := mem_fixedPoint decimals units
  unfold hexPrefix
  split
  · rename_i base next rest same
    rw [same] at plain
    have notX : base.toLower ≠ 'x' := by
      rcases plain base (by simp) with isDigit | point
      · rw [toLower_of_isDigit isDigit]
        intro isX
        simp [isX] at isDigit
      · rw [point]
        decide
    rw [if_neg notX, same]
  · rfl

theorem special_signed_fixedPoint (negative : Bool) :
    special (signed negative (fixedPoint decimals units)) = none := by
  have point : '.' ∈ (fixedPoint decimals units).map Char.toLower :=
    List.mem_map_of_mem (point_mem_fixedPoint decimals units)
  have notInf : ¬inf (fixedPoint decimals units) = true := by
    intro named
    rcases List.mem_cons.mp (of_decide_eq_true named) with short | long
    · rw [short] at point
      exact absurd point (by decide)
    · rw [List.mem_singleton.mp long] at point
      exact absurd point (by decide)
  have notNan : (signed negative (fixedPoint decimals units)).map Char.toLower ≠
      "nan".toList := by
    intro same
    have point : '.' ∈ (signed negative (fixedPoint decimals units)).map Char.toLower := by
      cases negative with
      | false => exact point
      | true => exact List.mem_cons_of_mem _ point
    rw [same] at point
    exact absurd point (by decide)
  rw [special, sign_signed (sign_fixedPoint units)]
  dsimp only
  rw [if_neg notInf, if_neg notNan]

theorem readFloat_signed (positive : 0 < decimals) (negative : Bool) :
    readFloat (signed negative (fixedPoint decimals units)) =
      some ((if negative then -(units : ℚ) else units) / 10 ^ decimals) := by
  have absent : '_' ∉ signed negative (fixedPoint decimals units) :=
    not_mem_signed (mem_fixedPoint decimals units) negative (by decide) (by decide) (by decide)
  rw [readFloat, sign_signed (sign_fixedPoint units)]
  dsimp only
  rw [hexPrefix_fixedPoint]
  dsimp only
  rw [readMantissa_fixedPoint units positive]
  cases negative with
  | false => simp [absent, scaled, div_eq_mul_inv]
  | true => simp [absent, scaled, div_eq_mul_inv]

/-- `ParseFloat` reads back every decimal fraction in the range of floats. -/
theorem parseFloat_signed (positive : 0 < decimals) (negative : Bool)
    (inRange : |(if negative then -(units : ℚ) else units) / 10 ^ decimals| < overflow) :
    parseFloat (String.ofList (signed negative (fixedPoint decimals units))) =
      (.finite ((if negative then -(units : ℚ) else units) / 10 ^ decimals), none) := by
  rw [parseFloat, String.toList_ofList, special_signed_fixedPoint,
    readFloat_signed units positive]
  dsimp only
  rw [if_neg (not_le.mpr inRange)]

end BuranBrew.Telemetry.Strconv

import BuranBrew.Foundation.Numerals
import Mathlib.Data.Rat.Floor

/-! # Go's `strconv`

A Go string is a sequence of bytes; here each of them is one character. Like the
Go functions, the parsers return a value beside the error, and callers may use
the value of a failed parse. Finite floats are exact: rounding to binary64 shows
only in what is out of range.
-/

namespace BuranBrew.Telemetry

inductive NumError
  | errSyntax
  | errRange
  deriving DecidableEq, Repr

inductive Float64
  | finite (value : ℚ)
  | infinite (negative : Bool)
  | nan
  deriving DecidableEq, Repr

namespace Strconv

open Numerals

def digit (char : Char) : Option Nat :=
  if char.isDigit then some (char.toNat - '0'.toNat) else none

def sign : List Char → Bool × List Char
  | '-' :: rest => (true, rest)
  | '+' :: rest => (false, rest)
  | chars => (false, chars)

/-! ## Integers -/

def maxUint64 : Nat := 2 ^ 64 - 1

/-- The loop of `ParseUint` in base 10, which gives up at the first byte that is
no digit or makes the value too large. -/
def parseDigits (value : Nat) : List Char → Nat × Option NumError
  | [] => (value, none)
  | char :: rest =>
      match digit char with
      | none => (0, some .errSyntax)
      | some digit =>
          if 10 * value + digit ≤ maxUint64 then parseDigits (10 * value + digit) rest
          else (maxUint64, some .errRange)

def parseUint (chars : List Char) : Nat × Option NumError :=
  if chars.isEmpty then (0, some .errSyntax) else parseDigits 0 chars

def cutoff : Nat := 2 ^ 63

def parseInt (s : String) : Int × Option NumError :=
  match sign s.toList with
  | (negative, digits) =>
      match parseUint digits with
      | (_, some .errSyntax) => (0, some .errSyntax)
      | (value, _) =>
          if negative then
            if value > cutoff then (-cutoff, some .errRange) else (-value, none)
          else
            if value ≥ cutoff then (cutoff - 1, some .errRange) else (value, none)

/-- `Atoi`, on a platform whose `int` has 64 bits. -/
def atoi : String → Int × Option NumError := parseInt

/-! ## Floats -/

structure Mantissa where
  value : Nat := 0
  fractionDigits : Nat := 0
  sawDot : Bool := false
  sawDigits : Bool := false
  deriving DecidableEq, Repr

def hexDigit (char : Char) : Option Nat :=
  if char.isDigit then some (char.toNat - '0'.toNat)
  else if 'a' ≤ char.toLower ∧ char.toLower ≤ 'f' then
    some (char.toLower.toNat - 'a'.toNat + 10)
  else none

def digitIn (hex : Bool) : Char → Option Nat :=
  if hex then hexDigit else digit

def Mantissa.push (hex : Bool) (mantissa : Mantissa) (digit : Nat) : Mantissa :=
  { mantissa with
    value := mantissa.value * (if hex then 16 else 10) + digit
    fractionDigits := mantissa.fractionDigits + if mantissa.sawDot then 1 else 0
    sawDigits := true }

/-- Digits with at most one dot; underscores are skipped here. -/
def readMantissa (hex : Bool) (mantissa : Mantissa) : List Char → Mantissa × List Char
  | [] => (mantissa, [])
  | char :: rest =>
      if char = '_' then readMantissa hex mantissa rest
      else if char = '.' then
        if mantissa.sawDot then (mantissa, char :: rest)
        else readMantissa hex { mantissa with sawDot := true } rest
      else
        match digitIn hex char with
        | some digit => readMantissa hex (mantissa.push hex digit) rest
        | none => (mantissa, char :: rest)

/-- The digits of an exponent; once it has reached 10000, more are ignored. -/
def readExponentDigits (exponent : Nat) : List Char → Nat × List Char
  | [] => (exponent, [])
  | char :: rest =>
      if char = '_' then readExponentDigits exponent rest
      else
        match digit char with
        | some digit =>
            readExponentDigits (if exponent < 10000 then exponent * 10 + digit else exponent)
              rest
        | none => (exponent, char :: rest)

def readExponent (chars : List Char) : Option Int :=
  match sign chars with
  | (_, []) => none
  | (negative, first :: rest) =>
      if first.isDigit then
        match readExponentDigits 0 (first :: rest) with
        | (exponent, []) => some (if negative then -exponent else exponent)
        | _ => none
      else none

/-- Scan of `underscoreOK`; `previous` is `'0'` after a digit, `'_'` after an
underscore and another character otherwise. -/
def underscoresSeparate (hex : Bool) (previous : Char) : List Char → Bool
  | [] => previous != '_'
  | char :: rest =>
      if (digitIn hex char).isSome then underscoresSeparate hex '0' rest
      else if char = '_' then previous == '0' && underscoresSeparate hex '_' rest
      else previous != '_' && underscoresSeparate hex '!' rest

/-- Underscores must separate digits, but one may follow the base prefix. -/
def underscoreOK (chars : List Char) : Bool :=
  match (sign chars).2 with
  | '0' :: base :: rest =>
      if base.toLower ∈ ['b', 'o', 'x'] then
        underscoresSeparate (base.toLower = 'x') '0' rest
      else underscoresSeparate false '^' ('0' :: base :: rest)
  | unsigned => underscoresSeparate false '^' unsigned

def inf : List Char → Bool := fun chars =>
  chars.map Char.toLower ∈ ["inf".toList, "infinity".toList]

/-- `special`, for a string that it consumes entirely. -/
def special (chars : List Char) : Option Float64 :=
  match sign chars with
  | (negative, unsigned) =>
      if inf unsigned then some (.infinite negative)
      else if chars.map Char.toLower = "nan".toList then some .nan
      else none

/-- The base prefix of a hexadecimal float, which more must follow. -/
def hexPrefix : List Char → Bool × List Char
  | '0' :: base :: next :: rest =>
      if base.toLower = 'x' then (true, next :: rest)
      else (false, '0' :: base :: next :: rest)
  | chars => (false, chars)

def scaled (hex : Bool) (mantissa : Mantissa) (exponent : Int) : ℚ :=
  if hex then mantissa.value * 2 ^ (exponent - 4 * mantissa.fractionDigits)
  else mantissa.value * 10 ^ (exponent - mantissa.fractionDigits)

/-- `readFloat`, for a string that it consumes entirely. -/
def readFloat (chars : List Char) : Option ℚ :=
  match sign chars with
  | (negative, unsigned) =>
      match hexPrefix unsigned with
      | (hex, digits) =>
          match readMantissa hex {} digits with
          | (mantissa, rest) =>
              if !mantissa.sawDigits || ('_' ∈ chars && !underscoreOK chars) then none
              else
                let value : Int → ℚ := fun exponent =>
                  if negative then -scaled hex mantissa exponent
                  else scaled hex mantissa exponent
                match rest with
                -- A hexadecimal float must have an exponent.
                | [] => if hex then none else some (value 0)
                | char :: exponent =>
                    if char.toLower = (if hex then 'p' else 'e') then
                      (readExponent exponent).map value
                    else none

/-- Halfway between the largest float and what would come after it; from here on
rounding overflows. -/
def overflow : ℚ := 2 ^ 1024 - 2 ^ 970

def parseFloat (s : String) : Float64 × Option NumError :=
  match special s.toList with
  | some value => (value, none)
  | none =>
      match readFloat s.toList with
      | none => (.finite 0, some .errSyntax)
      | some value =>
          if overflow ≤ |value| then (.infinite (value < 0), some .errRange)
          else (.finite value, none)

/-! ## Decimal numerals -/

/-- `strings.IndexByte`, with none for -1. -/
def indexByte (s : String) (byte : Char) : Option Nat :=
  s.toList.findIdx? (· = byte)

theorem digit_of_isDigit {char : Char} (isDigit : char.isDigit = true) :
    digit char = some (char.toNat - '0'.toNat) := if_pos isDigit

theorem parseDigits_of_isDigit {chars : List Char}
    (digits : ∀ char ∈ chars, char.isDigit = true) (value : Nat)
    (fits : Nat.ofDigitChars 10 chars value ≤ maxUint64) :
    parseDigits value chars = (Nat.ofDigitChars 10 chars value, none) := by
  induction chars generalizing value with
  | nil => rw [Nat.ofDigitChars_nil]; rfl
  | cons char chars induction =>
      rw [Nat.ofDigitChars_cons] at fits ⊢
      have grows : 10 * value + (char.toNat - '0'.toNat) ≤
          Nat.ofDigitChars 10 chars (10 * value + (char.toNat - '0'.toNat)) := by
        rw [Nat.ofDigitChars_eq_ofDigitChars_zero]
        exact (Nat.le_mul_of_pos_left _ (by positivity)).trans (Nat.le_add_right _ _)
      rw [parseDigits, digit_of_isDigit (digits char List.mem_cons_self)]
      dsimp only
      rw [if_pos (grows.trans fits)]
      exact induction (fun other among => digits other (List.mem_cons_of_mem _ among)) _ fits

theorem sign_of_not_mem {chars : List Char} (noMinus : '-' ∉ chars) (noPlus : '+' ∉ chars) :
    sign chars = (false, chars) := by
  unfold sign
  split
  · exact absurd List.mem_cons_self noMinus
  · exact absurd List.mem_cons_self noPlus
  · rfl

theorem sign_of_isDigit {chars : List Char}
    (digits : ∀ char ∈ chars, char.isDigit = true) : sign chars = (false, chars) := by
  apply sign_of_not_mem
  · intro among
    exact absurd (digits _ among) (by decide)
  · intro among
    exact absurd (digits _ among) (by decide)

theorem sign_signed {unsigned : List Char} (plain : sign unsigned = (false, unsigned))
    (negative : Bool) : sign (signed negative unsigned) = (negative, unsigned) := by
  cases negative with
  | false => exact plain
  | true => rfl

theorem isDigit_of_mem_decimal {value : Nat} :
    ∀ char ∈ Nat.toDigits 10 value, char.isDigit = true :=
  fun _ among => Nat.isDigit_of_mem_toDigits (by decide) (by decide) among

theorem parseUint_decimal {value : Nat} (fits : value ≤ maxUint64) :
    parseUint (Nat.toDigits 10 value) = (value, none) := by
  have bound : Nat.ofDigitChars 10 (Nat.toDigits 10 value) 0 ≤ maxUint64 := by
    rw [Nat.ofDigitChars_ten_toDigits]
    exact fits
  rw [parseUint, if_neg (by simp), parseDigits_of_isDigit isDigit_of_mem_decimal 0 bound,
    Nat.ofDigitChars_ten_toDigits]

/-- `ParseInt` reads back every integer that `int64` has with both signs. -/
theorem parseInt_signed (negative : Bool) {value : Nat} (fits : value < 2 ^ 63) :
    parseInt (String.ofList (signed negative (Nat.toDigits 10 value))) =
      (if negative then -(value : Int) else value, none) := by
  have read : parseUint (Nat.toDigits 10 value) = (value, none) := by
    apply parseUint_decimal
    unfold maxUint64
    omega
  have notAbove : ¬value > cutoff := by
    unfold cutoff
    omega
  have below : ¬value ≥ cutoff := by
    unfold cutoff
    omega
  rw [parseInt, String.toList_ofList, sign_signed (sign_of_isDigit isDigit_of_mem_decimal)]
  cases negative with
  | false => simp [read, below]
  | true => simp [read, notAbove]

theorem parseInt_decimal {value : Nat} (fits : value < 2 ^ 63) :
    parseInt (String.ofList (Nat.toDigits 10 value)) = ((value : Int), none) :=
  parseInt_signed false fits

end Strconv

end BuranBrew.Telemetry

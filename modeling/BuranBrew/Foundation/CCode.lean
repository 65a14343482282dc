import BuranBrew.Foundation.Execution
import Mathlib.Algebra.Order.Field.Basic
import Mathlib.Data.Rat.Cast.Order
import Mathlib.Tactic.FieldSimp
import Mathlib.Tactic.Linarith
import Mathlib.Tactic.NormNum

/-! # C code

Code that reads objects made of bytes and computes with `int`s of 32 bits. Reading
outside of an object and leaving the range of an `int` are undefined, so that code
which returns has done neither.
-/

namespace BuranBrew.CCode

open Execution

inductive Undefined
  | outOfBounds (index : Nat)
  | overflow (value : Int)
  deriving DecidableEq, Repr

/-- Code that writes to objects of the type `σ`. -/
abbrev C (σ : Type) := EStateM Undefined σ

/-! ## Expressions -/

section Expressions

variable {σ : Type}

def load (object : List UInt8) (index : Nat) : C σ UInt8 :=
  match object[index]? with
  | some byte => return byte
  | none => throw (.outOfBounds index)

def int (value : Int) : C σ Int :=
  if -2 ^ 31 ≤ value ∧ value < 2 ^ 31 then return value else throw (.overflow value)

def loads (object : List UInt8) (index : Nat) : Nat → C σ (List UInt8)
  | 0 => return []
  | count + 1 => do
      let byte ← load object index
      return byte :: (← loads object (index + 1) count)

def difference : List UInt8 → List UInt8 → Int
  | left :: lefts, right :: rights =>
      if left = right then difference lefts rights else left.toNat - right.toNat
  | _, _ => 0

/-- `memcmp`, which may read `count` bytes of both objects whatever they are. -/
def memcmp (left right : List UInt8) (count : Nat) : C σ Int := do
  let lefts ← loads left 0 count
  let rights ← loads right 0 count
  return difference lefts rights

variable {object left right : List UInt8} {index count : Nat} (state : σ)

theorem load_run (inside : index < object.length) :
    (load object index).run state = .ok (object.getD index 0) state := by
  rw [load, List.getD_eq_getElem?_getD, List.getElem?_eq_getElem inside]
  rfl

theorem int_run {value : Int} (above : -2 ^ 31 ≤ value) (below : value < 2 ^ 31) :
    (int value).run state = .ok value state := by
  rw [int, if_pos ⟨above, below⟩]
  rfl

theorem loads_run (inside : index + count ≤ object.length) :
    (loads object index count).run state = .ok ((object.drop index).take count) state := by
  induction count generalizing index with
  | zero => rfl
  | succ count induction =>
      have here : index < object.length := by omega
      have rest : (loads object (index + 1) count).run state =
          .ok ((object.drop (index + 1)).take count) state :=
        induction (by omega)
      rw [loads, run_bind_of_ok (load_run state here), run_bind_of_ok rest, EStateM.run_pure,
        List.drop_eq_getElem_cons here, List.take_succ_cons, List.getD_eq_getElem?_getD,
        List.getElem?_eq_getElem here, Option.getD_some]

theorem difference_eq_zero_iff (same : left.length = right.length) :
    difference left right = 0 ↔ left = right := by
  induction left generalizing right with
  | nil =>
      rw [List.length_nil] at same
      simp [difference, List.length_eq_zero_iff.mp same.symm]
  | cons first lefts induction =>
      cases right with
      | nil => cases same
      | cons second rights =>
          rw [difference]
          split
          · rename_i equal
            rw [induction (Nat.succ.inj same), equal]
            simp
          · rename_i different
            constructor
            · intro zero
              exact absurd (UInt8.toNat.inj (by omega)) different
            · intro equal
              exact absurd (List.cons.inj equal).1 different

theorem memcmp_run (inLeft : count ≤ left.length) (inRight : count ≤ right.length) :
    ∃ result, (memcmp left right count).run state = .ok result state ∧
      (result = 0 ↔ left.take count = right.take count) := by
  have lefts : (loads left 0 count).run state = .ok (left.take count) state :=
    loads_run state ((Nat.zero_add count).trans_le inLeft)
  have rights : (loads right 0 count).run state = .ok (right.take count) state :=
    loads_run state ((Nat.zero_add count).trans_le inRight)
  have same : (left.take count).length = (right.take count).length := by
    rw [List.length_take_of_le inLeft, List.length_take_of_le inRight]
  refine ⟨difference (left.take count) (right.take count), ?_, difference_eq_zero_iff same⟩
  rw [memcmp, run_bind_of_ok lefts, run_bind_of_ok rights, EStateM.run_pure]

end Expressions

/-! ## Numbers -/

def bigEndian (object : List UInt8) (index : Nat) : Nat :=
  256 * (object.getD index 0).toNat + (object.getD (index + 1) 0).toNat

theorem bigEndian_lt (object : List UInt8) (index : Nat) : bigEndian object index < 2 ^ 16 := by
  have high := (object.getD index 0).toNat_lt
  have low := (object.getD (index + 1) 0).toNat_lt
  unfold bigEndian
  omega

theorem shift_or (object : List UInt8) (index : Nat) :
    (object.getD index 0).toNat <<< 8 ||| (object.getD (index + 1) 0).toNat =
      bigEndian object index := by
  rw [← Nat.shiftLeft_add_eq_or_of_lt (UInt8.toNat_lt _), Nat.shiftLeft_eq, bigEndian,
    Nat.mul_comm]

theorem bigEndian_take {object : List UInt8} {index count : Nat} (inside : index + 1 < count) :
    bigEndian (object.take count) index = bigEndian object index := by
  simp only [bigEndian, List.getD_eq_getElem?_getD, List.getElem?_take_of_lt inside,
    List.getElem?_take_of_lt (Nat.lt_of_succ_lt inside)]

theorem abs_tdiv_sub_lt (value : Int) {divisor : Int} (positive : 0 < divisor) :
    |((value.tdiv divisor : Int) : ℚ) - value / divisor| < 1 := by
  have scale : (0 : ℚ) < divisor := by exact_mod_cast positive
  have exactly : (divisor : ℚ) * (value.tdiv divisor : Int) + (value.tmod divisor : Int) =
      value := by
    exact_mod_cast Int.mul_tdiv_add_tmod value divisor
  have below : ((value.tmod divisor : Int) : ℚ) < divisor := by
    exact_mod_cast Int.tmod_lt_of_pos value positive
  have above : -(divisor : ℚ) < (value.tmod divisor : Int) := by
    exact_mod_cast Int.lt_tmod_of_pos value positive
  have split : ((value.tdiv divisor : Int) : ℚ) - value / divisor =
      -(value.tmod divisor : Int) / divisor := by
    field_simp
    linarith
  rw [split, abs_lt]
  constructor
  · rw [lt_div_iff₀ scale]
    linarith
  · rw [div_lt_one scale]
    linarith

end BuranBrew.CCode

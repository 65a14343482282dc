import BuranBrew.Foundation.Numerals
import BuranBrew.Host.ControlLoop
import BuranBrew.Telemetry.Redis
import Mathlib.Algebra.Order.Field.Basic
import Mathlib.Tactic.Linarith
import Mathlib.Tactic.NormNum

/-! # The emitter

The fields of the stream entries that `Emitter` adds, with Python's formatting of
the numbers in them. What becomes of an entry is up to Redis and the archiver.
-/

namespace BuranBrew.Host

open Numerals BuranBrew.Telemetry

/-! ## Formatting -/

/-- `str(value)`. -/
def formatInt (value : Int) : String :=
  String.ofList (signed (value < 0) (Nat.toDigits 10 value.natAbs))

def units (decimals : Nat) (value : ℚ) : Int :=
  ControlLoop.round (value * 10 ^ decimals)

/-- `f"{value:.4f}"` with 4 decimals, and at least one. What is rounded to zero
keeps its sign. -/
def formatFixed (decimals : Nat) (value : ℚ) : String :=
  String.ofList (signed (value < 0) (fixedPoint decimals (units decimals value).natAbs))

example : formatFixed 4 (-999996 / 100000) = "-10.0000" := by decide +kernel

def IsFinite (value : ℚ) : Prop := |value| ≤ 2 ^ 1024 - 2 ^ 971

instance (value : ℚ) : Decidable (IsFinite value) := inferInstanceAs (Decidable (_ ≤ _))

def Action.text : Action → String
  | .heat => "HEAT"
  | .cool => "COOL"
  | .idle => "IDLE"

/-! ## Entries -/

/-- Attributes of `Emitter`; all that matters of the client is whether there is one. -/
structure Emitter where
  node : Int
  connected : Bool
  deriving DecidableEq, Repr

namespace Emitter

variable (emitter : Emitter) (timeNs : Int64)

/-- `_now_ms`, when the system clock reads `timeNs`. -/
def nowMs : Int := timeNs.toInt / 1000000

def xAdd (stream : StreamName) (fields : Fields) : Option (StreamName × Fields) :=
  if emitter.connected then some (stream, fields) else none

def sensor (metric : String) (value : ℚ) : Option (StreamName × Fields) :=
  emitter.xAdd .sensor
    [("ts_ms", formatInt (nowMs timeNs)),
      ("node", formatInt emitter.node),
      ("metric", metric),
      ("value", formatFixed 4 value)]

def control (action : String) (diffCenti : Int) (effort dutyCycle activeS windowS : ℚ)
    (reason : String) : Option (StreamName × Fields) :=
  emitter.xAdd .control
    [("ts_ms", formatInt (nowMs timeNs)),
      ("action", action),
      ("diff_centi", formatInt diffCenti),
      ("source", "model"),
      ("effort", formatFixed 4 effort),
      ("duty_cycle", formatFixed 4 dutyCycle),
      ("active_s", formatFixed 1 activeS),
      ("window_s", formatFixed 1 windowS),
      ("reason", reason)]

theorem xAdd_eq_some {stream other : StreamName} {fields given : Fields}
    (added : emitter.xAdd other given = some (stream, fields)) :
    stream = other ∧ fields = given := by
  unfold xAdd at added
  split at added
  · cases added
    exact ⟨rfl, rfl⟩
  · cases added

/-- What a record becomes; the state goes into a hash and not into a stream. -/
def send : Telemetry → Option (StreamName × Fields)
  | .control action diffCenti effort dutyCycle activeS windowS reason =>
      emitter.control timeNs action.text diffCenti effort dutyCycle activeS windowS reason.text
  | .sensor metric value => emitter.sensor timeNs metric value
  | .state .. => none

end Emitter

/-! ## Rounding -/

section Rounding

variable (decimals : Nat) (value : ℚ)

theorem abs_round_sub_le : |(ControlLoop.round value : ℚ) - value| ≤ 1 / 2 := by
  have below := Int.floor_le value
  have above := Int.lt_floor_add_one value
  unfold ControlLoop.round
  rw [abs_le]
  dsimp only
  split_ifs
  all_goals
    push_cast
    constructor
    · linarith
    · linarith

theorem round_intCast (value : Int) : ControlLoop.round value = value := by
  simp [ControlLoop.round]

variable {value}

theorem round_nonneg (nonneg : 0 ≤ value) : 0 ≤ ControlLoop.round value := by
  have near := (abs_le.mp (abs_round_sub_le value)).1
  have more : (-1 : ℚ) < ControlLoop.round value := by linarith
  have more : -1 < ControlLoop.round value := by exact_mod_cast more
  omega

theorem round_nonpos (nonpos : value ≤ 0) : ControlLoop.round value ≤ 0 := by
  have near := (abs_le.mp (abs_round_sub_le value)).2
  have less : (ControlLoop.round value : ℚ) < 1 := by linarith
  have less : ControlLoop.round value < 1 := by exact_mod_cast less
  omega

variable (value)

def rounded : ℚ := units decimals value / 10 ^ decimals

theorem abs_rounded_sub_le : |rounded decimals value - value| ≤ 1 / 2 / 10 ^ decimals := by
  have scale : (0 : ℚ) < 10 ^ decimals := by positivity
  have near := abs_round_sub_le (value * 10 ^ decimals)
  have split : rounded decimals value - value =
      (units decimals value - value * 10 ^ decimals) / 10 ^ decimals := by
    rw [rounded, sub_div, mul_div_cancel_right₀ _ scale.ne']
  rw [split, abs_div, abs_of_pos scale]
  exact div_le_div_of_nonneg_right near scale.le

theorem rounded_units (units : Int) :
    rounded decimals (units / 10 ^ decimals) = units / 10 ^ decimals := by
  have scale : (10 : ℚ) ^ decimals ≠ 0 := by positivity
  rw [rounded, Host.units, div_mul_cancel₀ _ scale, round_intCast]

theorem units_eq :
    units decimals value =
      if value < 0 then -((units decimals value).natAbs : Int)
      else (units decimals value).natAbs := by
  have scale : (0 : ℚ) ≤ 10 ^ decimals := by positivity
  split
  · rename_i negative
    have nonpos : units decimals value ≤ 0 :=
      round_nonpos (mul_nonpos_of_nonpos_of_nonneg negative.le scale)
    omega
  · rename_i nonneg
    have nonneg : 0 ≤ units decimals value :=
      round_nonneg (mul_nonneg (not_lt.mp nonneg) scale)
    omega

end Rounding

end BuranBrew.Host

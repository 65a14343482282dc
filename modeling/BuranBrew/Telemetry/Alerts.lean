import BuranBrew.Foundation.Queries
import BuranBrew.Telemetry.Archiver

/-! # The alert rules

The conditions of the provisioned rules, before their hold times, and the predicates of
`alert-test` for the same rules. `NULL` is `none`, and a comparison with it does not hold.
The details that the script prints are left out.
-/

namespace BuranBrew.Telemetry

open Queries

/-! ## Rows and values -/

namespace Row

def metric : Row .sensor → String
  | .sensor _ _ metric _ _ => metric

def value : Row .sensor → Float64
  | .sensor _ _ _ value _ => value

def action : Row .control → String
  | .control _ action _ _ _ => action

end Row

namespace Float64

/-- PostgreSQL's order on `double precision`, with `NaN` after everything else. -/
def rank : Float64 → Nat ×ₗ ℚ
  | .infinite true => toLex (0, 0)
  | .finite value => toLex (1, value)
  | .infinite false => toLex (2, 0)
  | .nan => toLex (3, 0)

theorem rank_injective : Function.Injective rank := by
  intro value other same
  rcases value with value | ⟨_ | _⟩ | _ <;> rcases other with other | ⟨_ | _⟩ | _ <;>
    simp_all [rank]

instance : LinearOrder Float64 := .lift' rank rank_injective

theorem lt_iff_rank {value other : Float64} : value < other ↔ rank value < rank other :=
  Iff.rfl

def absSub : Float64 → Float64 → Float64
  | .finite value, .finite other => .finite |value - other|
  | .nan, _ | _, .nan => .nan
  | .infinite sign, .infinite other => if sign = other then .nan else .infinite false
  | .infinite _, .finite _ | .finite _, .infinite _ => .infinite false

/-- Grafana's `gt`. -/
def Exceeds (limit : ℚ) : Float64 → Prop
  | .finite value => value > limit
  | .infinite sign => sign = false
  | .nan => False

/-- Grafana's `lt`. -/
def FallsBelow (limit : ℚ) : Float64 → Prop
  | .finite value => value < limit
  | .infinite sign => sign = true
  | .nan => False

instance (limit : ℚ) : DecidablePred (Exceeds limit)
  | .finite value => inferInstanceAs (Decidable (value > limit))
  | .infinite sign => inferInstanceAs (Decidable (sign = false))
  | .nan => inferInstanceAs (Decidable False)

instance (limit : ℚ) : DecidablePred (FallsBelow limit)
  | .finite value => inferInstanceAs (Decidable (value < limit))
  | .infinite sign => inferInstanceAs (Decidable (sign = true))
  | .nan => inferInstanceAs (Decidable False)

end Float64

namespace Time

def seconds (count : Int) : Time := count * 1000000000

def minutes (count : Int) : Time := seconds (count * 60)

def hours (count : Int) : Time := minutes (count * 60)

theorem hours_eq (count : Int) : hours count = (3600000000000 * count : Int) := by
  simp only [hours, minutes, seconds, Time]
  ring

theorem minutes_eq (count : Int) : minutes count = (60000000000 * count : Int) := by
  simp only [minutes, seconds, Time]
  ring

/-- `extract(epoch FROM now() - ts)`. -/
def epochSince (now ts : Time) : ℚ := (now - ts : Int) / 1000000000

end Time

open Time

abbrev Tables := (stream : StreamName) → List (Row stream)

/-- What the tables can hold at a time. -/
structure Contents (now : Time) where
  tables : Tables
  distinct : ∀ stream, ((tables stream).map Row.ts).Nodup
  past : ∀ stream, ∀ row ∈ tables stream, row.ts ≤ now
  actions : ∀ row ∈ tables .control, row.action ∈ ["HEAT", "IDLE", "COOL"]

/-! ## Queries of both -/

section Shared

variable (tables : Tables)

/-- `SELECT … FROM control_events ORDER BY ts DESC LIMIT 1`. -/
def latestControl : Option (Row .control) := latest Row.ts (tables .control)

def ofMetric (metric : String) : List (Row .sensor) :=
  (tables .sensor).filter fun row => row.metric = metric

/-- `last_two_gravity` of the script and `last_two` of the rule, with `rn`. -/
def lastTwoGravity : List (Row .sensor × Nat) :=
  ((orderByDesc Row.ts (ofMetric tables "gravity")).zipIdx 1).take 2

structure GravityPair where
  currentSg : Option Float64
  previousSg : Option Float64
  currentTs : Option Time
  previousTs : Option Time

/-- `gravity_pair` of the script and `pair` of the rule. -/
def gravityPair : GravityPair :=
  let numbered (rn : Nat) := (lastTwoGravity tables).filter fun row => row.2 = rn
  { currentSg := ((numbered 1).map fun row => row.1.value).max?
    previousSg := ((numbered 2).map fun row => row.1.value).max?
    currentTs := ((numbered 1).map fun row => row.1.ts).max?
    previousTs := ((numbered 2).map fun row => row.1.ts).max? }

def GravityPair.jump (pair : GravityPair) : Option Float64 :=
  Option.map₂ Float64.absSub pair.currentSg pair.previousSg

end Shared

def isActive (row : Row .control) : Prop := row.action ∈ ["HEAT", "COOL"]

instance (row : Row .control) : Decidable (isActive row) :=
  inferInstanceAs (Decidable (row.action ∈ _))

inductive Rule
  | ambientStale
  | internalStale
  | gravityStale
  | controlStale
  | dangerTemp
  | sgJump
  | controllerIneffective
  deriving DecidableEq, Repr

/-! ## `run_alert_case` -/

namespace AlertTest

variable (now : Time) (tables : Tables)

/-- The rows do not depend on the order of the metrics, which is left out. -/
def latestSensor : List (Row .sensor) :=
  distinctOn Row.metric (orderByDesc Row.ts
    ((tables .sensor).filter fun row => row.metric ∈ ["ambient", "internal", "gravity"]))

/-- `SELECT ts FROM latest_sensor WHERE metric = …`. -/
def latestTs (metric : String) : Option Time :=
  ((latestSensor tables).find? fun row => row.metric = metric).map Row.ts

/-- `coalesce(extract(epoch FROM now() - ts), 1000000000)`. -/
def ageS (ts : Option Time) : ℚ := (ts.map (epochSince now)).getD 1000000000

def sensorStale (metric : String) : Prop :=
  ageS now (latestTs tables metric) > 180

def controlStale : Prop :=
  ageS now ((latestControl tables).map Row.ts) > 180

def dangerTemp : Prop :=
  ∃ row ∈ latestSensor tables, row.metric = "internal" ∧ row.ts > now - minutes 3 ∧
    (row.value < .finite 5 ∨ row.value > .finite 30)

def sgJump : Prop :=
  let pair := gravityPair tables
  (∃ ts ∈ pair.currentTs, ts > now - minutes 3) ∧
    (∃ ts ∈ pair.previousTs, ts > now - hours 1) ∧
    ∃ jump ∈ pair.jump, jump > .finite (5 / 1000)

/-- The first time in the last three hours at which the controller acted. -/
def activeSince : Option Time :=
  (((tables .control).filter fun row =>
    isActive row ∧ row.ts > now - hours 3).map Row.ts).min?

def controllerIneffective : Prop :=
  ∃ current ∈ latestControl tables,
    isActive current ∧ current.ts > now - minutes 3 ∧
    (¬∃ row ∈ tables .control,
      row.action = "IDLE" ∧ row.ts > now - hours 2 ∧ row.ts ≤ current.ts) ∧
    epochSince now ((activeSince now tables).getD current.ts) > 7200

def actualAlert : Rule → Prop
  | .ambientStale => sensorStale now tables "ambient"
  | .internalStale => sensorStale now tables "internal"
  | .gravityStale => sensorStale now tables "gravity"
  | .controlStale => controlStale now tables
  | .dangerTemp => dangerTemp now tables
  | .sgJump => sgJump now tables
  | .controllerIneffective => controllerIneffective now tables

instance : DecidablePred (actualAlert now tables)
  | .ambientStale | .internalStale | .gravityStale | .controlStale =>
      inferInstanceAs (Decidable (_ > _))
  | .dangerTemp => inferInstanceAs (Decidable (∃ _ ∈ latestSensor tables, _))
  | .sgJump => inferInstanceAs (Decidable (_ ∧ _))
  | .controllerIneffective => inferInstanceAs (Decidable (∃ _ ∈ latestControl tables, _))

end AlertTest

/-! ## `rules.yaml` -/

namespace AlertRules

variable (now : Time) (tables : Tables)

/-- `coalesce(extract(epoch FROM now() - ts) / 60.0, 1000000000)`. -/
def ageMin (ts : Option Time) : ℚ :=
  (ts.map fun ts => epochSince now ts / 60).getD 1000000000

def sensorAgeMin (metric : String) : ℚ :=
  ageMin now ((latest Row.ts (ofMetric tables metric)).map Row.ts)

def controlAgeMin : ℚ := ageMin now ((latestControl tables).map Row.ts)

def temperatureC : Float64 :=
  ((latest Row.ts (ofMetric tables "internal")).map fun row =>
    if row.ts > now - minutes 3 then row.value else .finite 20).getD (.finite 20)

def jumpSg : Option Float64 :=
  let pair := gravityPair tables
  if (∃ ts ∈ pair.currentTs, ts > now - minutes 3) ∧
      ∃ ts ∈ pair.previousTs, ts > now - hours 1 then
    pair.jump
  else some (.finite 0)

def idleTs : Option Time :=
  (((tables .control).filter fun row =>
    row.action = "IDLE" ∧ ∃ current ∈ latestControl tables, row.ts ≤ current.ts).map
      Row.ts).max?

/-- When the run of `HEAT` and `COOL` that contains the latest decision began. -/
def activeSince (current : Row .control) : Option Time :=
  (((tables .control).filter fun row =>
    isActive row ∧ row.ts ≤ current.ts ∧ ∀ idle ∈ idleTs tables, row.ts > idle).map
      Row.ts).min?

def activeRunS : ℚ :=
  match latestControl tables with
  | some current =>
      if isActive current ∧ current.ts > now - minutes 3 then
        epochSince now ((activeSince tables current).getD current.ts)
      else 0
  | none => 0

/-- Condition `C`, a threshold on the last value of the query. -/
def fires : Rule → Prop
  | .ambientStale => (Float64.finite (sensorAgeMin now tables "ambient")).Exceeds 3
  | .internalStale => (Float64.finite (sensorAgeMin now tables "internal")).Exceeds 3
  | .gravityStale => (Float64.finite (sensorAgeMin now tables "gravity")).Exceeds 3
  | .controlStale => (Float64.finite (controlAgeMin now tables)).Exceeds 3
  | .dangerTemp =>
      (temperatureC now tables).FallsBelow 5 ∨ (temperatureC now tables).Exceeds 30
  | .sgJump => ∃ jump ∈ jumpSg now tables, jump.Exceeds (5 / 1000)
  | .controllerIneffective => (Float64.finite (activeRunS now tables)).Exceeds 7200

instance : DecidablePred (fires now tables)
  | .ambientStale | .internalStale | .gravityStale =>
      inferInstanceAs (Decidable ((Float64.finite (sensorAgeMin now tables _)).Exceeds 3))
  | .controlStale =>
      inferInstanceAs (Decidable ((Float64.finite (controlAgeMin now tables)).Exceeds 3))
  | .controllerIneffective =>
      inferInstanceAs (Decidable ((Float64.finite (activeRunS now tables)).Exceeds 7200))
  | .dangerTemp => inferInstanceAs (Decidable (_ ∨ _))
  | .sgJump => inferInstanceAs (Decidable (∃ _ ∈ jumpSg now tables, _))

end AlertRules

end BuranBrew.Telemetry

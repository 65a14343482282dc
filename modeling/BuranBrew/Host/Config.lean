import Mathlib.Data.Rat.Init
import Mathlib.Algebra.Order.Ring.Rat
import Mathlib.Tactic.NormNum

/-! # Configuration of the host model

Python floats are rationals here (Rounding). A `RawConfig` is the document that
`yaml.safe_load` returns, with each scalar already converted by `float` or
`int`; entries that `Config.load` reads with a default are optional.
-/

namespace BuranBrew.Host

structure ControlTuning where
  kp : ℚ
  kiPerHour : ℚ
  kff : ℚ
  integralLimit : ℚ
  integralDtMaxS : ℚ
  ambientFilterAlpha : ℚ
  internalFilterAlpha : ℚ
  windowS : ℚ
  effortDeadband : ℚ
  actuatorTickS : ℚ
  heatMinOnS : ℚ
  coolMinOnS : ℚ
  reverseIdleS : ℚ
  commandStaleTimeoutS : ℚ
  deriving DecidableEq, Repr

/-- `if rejected: raise ValueError(message)`. -/
def raiseIf (rejected : Prop) [Decidable rejected] (message : String) :
    Except String Unit :=
  if rejected then .error message else .ok ()

@[simp] theorem raiseIf_bind_eq_ok (rejected : Prop) [Decidable rejected]
    (message : String) (next : Unit → Except String α) (value : α) :
    (raiseIf rejected message >>= next) = .ok value ↔
      ¬rejected ∧ next () = .ok value := by
  by_cases holds : rejected <;> simp [raiseIf, holds, bind, Except.bind]

@[simp] theorem raiseIf_eq_ok (rejected : Prop) [Decidable rejected]
    (message : String) (value : Unit) :
    raiseIf rejected message = .ok value ↔ ¬rejected := by
  by_cases holds : rejected <;> simp [raiseIf, holds]

def ControlTuning.validate (tuning : ControlTuning) (periodS : ℚ) :
    Except String Unit := do
  raiseIf (tuning.integralLimit < 0) "control.integral_limit must be >= 0"
  raiseIf (tuning.integralDtMaxS ≤ 0) "control.integral_dt_max_s must be > 0"
  let alphaIn (name : String) (alpha : ℚ) : Except String Unit :=
    raiseIf (¬(0 < alpha ∧ alpha ≤ 1)) s!"control.{name} must be in (0, 1]"
  alphaIn "ambient_filter_alpha" tuning.ambientFilterAlpha
  alphaIn "internal_filter_alpha" tuning.internalFilterAlpha
  raiseIf (tuning.windowS ≤ 0) "control.window_s must be > 0"
  raiseIf (tuning.actuatorTickS ≤ 0) "control.actuator_tick_s must be > 0"
  raiseIf (¬(0 ≤ tuning.effortDeadband ∧ tuning.effortDeadband < 1))
    "control.effort_deadband must be in [0, 1)"
  let nonnegative (name : String) (value : ℚ) : Except String Unit :=
    raiseIf (value < 0) s!"control.{name} must be >= 0"
  nonnegative "heat_min_on_s" tuning.heatMinOnS
  nonnegative "cool_min_on_s" tuning.coolMinOnS
  nonnegative "reverse_idle_s" tuning.reverseIdleS
  nonnegative "command_stale_timeout_s" tuning.commandStaleTimeoutS
  raiseIf (tuning.heatMinOnS > tuning.windowS)
    "control.heat_min_on_s must be <= control.window_s"
  raiseIf (tuning.coolMinOnS > tuning.windowS)
    "control.cool_min_on_s must be <= control.window_s"
  raiseIf (tuning.commandStaleTimeoutS < periodS)
    "control.command_stale_timeout_s must be >= period_s"

/-- What `validate` has established about a tuning it lets through. -/
structure ControlTuning.Valid (tuning : ControlTuning) (periodS : ℚ) : Prop where
  integralLimit_nonneg : 0 ≤ tuning.integralLimit
  integralDtMaxS_pos : 0 < tuning.integralDtMaxS
  ambientFilterAlpha_pos : 0 < tuning.ambientFilterAlpha
  ambientFilterAlpha_le : tuning.ambientFilterAlpha ≤ 1
  internalFilterAlpha_pos : 0 < tuning.internalFilterAlpha
  internalFilterAlpha_le : tuning.internalFilterAlpha ≤ 1
  windowS_pos : 0 < tuning.windowS
  actuatorTickS_pos : 0 < tuning.actuatorTickS
  effortDeadband_nonneg : 0 ≤ tuning.effortDeadband
  effortDeadband_lt : tuning.effortDeadband < 1
  heatMinOnS_nonneg : 0 ≤ tuning.heatMinOnS
  coolMinOnS_nonneg : 0 ≤ tuning.coolMinOnS
  reverseIdleS_nonneg : 0 ≤ tuning.reverseIdleS
  commandStaleTimeoutS_nonneg : 0 ≤ tuning.commandStaleTimeoutS
  heatMinOnS_le : tuning.heatMinOnS ≤ tuning.windowS
  coolMinOnS_le : tuning.coolMinOnS ≤ tuning.windowS
  periodS_le : periodS ≤ tuning.commandStaleTimeoutS

theorem ControlTuning.validate_eq_ok_iff (tuning : ControlTuning) (periodS : ℚ) :
    tuning.validate periodS = .ok () ↔ tuning.Valid periodS := by
  simp only [validate, raiseIf_bind_eq_ok, raiseIf_eq_ok, not_lt, not_le, not_not,
    gt_iff_lt]
  constructor
  · rintro ⟨limit, dtMax, ambient, internal, window, tick, deadband, heat, cool,
      reverse, stale, heatWindow, coolWindow, period⟩
    exact ⟨limit, dtMax, ambient.1, ambient.2, internal.1, internal.2, window, tick,
      deadband.1, deadband.2, heat, cool, reverse, stale, heatWindow, coolWindow,
      period⟩
  · intro valid
    exact ⟨valid.integralLimit_nonneg, valid.integralDtMaxS_pos,
      ⟨valid.ambientFilterAlpha_pos, valid.ambientFilterAlpha_le⟩,
      ⟨valid.internalFilterAlpha_pos, valid.internalFilterAlpha_le⟩,
      valid.windowS_pos, valid.actuatorTickS_pos,
      ⟨valid.effortDeadband_nonneg, valid.effortDeadband_lt⟩,
      valid.heatMinOnS_nonneg, valid.coolMinOnS_nonneg, valid.reverseIdleS_nonneg,
      valid.commandStaleTimeoutS_nonneg, valid.heatMinOnS_le, valid.coolMinOnS_le,
      valid.periodS_le⟩

structure RawNodes where
  sensor : Int
  plugHeat : Int
  plugCool : Int

structure RawEndpoints where
  ambient : Int
  internal : Int
  gravity : Int

structure RawConfig where
  nodes : RawNodes
  endpoints : RawEndpoints
  control : ControlTuning
  setpointC : ℚ
  ambientOffsetC : Option ℚ
  internalOffsetC : Option ℚ
  sgOffset : Option ℚ
  periodS : ℚ
  chipTimeoutS : Option Int

structure Config where
  nodeSensor : Int
  nodePlugHeat : Int
  nodePlugCool : Int
  epAmbient : Int
  epInternal : Int
  epGravity : Int
  setpointC : ℚ
  ambientOffsetC : ℚ
  internalOffsetC : ℚ
  sgOffset : ℚ
  periodS : ℚ
  chipTimeoutS : Int
  control : ControlTuning
  deriving DecidableEq, Repr

def positiveEndpoint (endpoint : Int) (name : String) : Except String Int := do
  raiseIf (endpoint ≤ 0) s!"endpoints.{name} must be a positive integer"
  return endpoint

/-- `Config.load` after the document was read. -/
def Config.load (raw : RawConfig) : Except String Config := do
  raiseIf (raw.periodS ≤ 0) "period_s must be > 0"
  raw.control.validate raw.periodS
  let epAmbient ← positiveEndpoint raw.endpoints.ambient "ambient"
  let epInternal ← positiveEndpoint raw.endpoints.internal "internal"
  let epGravity ← positiveEndpoint raw.endpoints.gravity "gravity"
  return {
    nodeSensor := raw.nodes.sensor
    nodePlugHeat := raw.nodes.plugHeat
    nodePlugCool := raw.nodes.plugCool
    epAmbient, epInternal, epGravity
    setpointC := raw.setpointC
    ambientOffsetC := raw.ambientOffsetC.getD 0
    internalOffsetC := raw.internalOffsetC.getD 0
    sgOffset := raw.sgOffset.getD 0
    periodS := raw.periodS
    chipTimeoutS := raw.chipTimeoutS.getD 30
    control := raw.control }

/-- The configurations with which the control loop can be started. -/
def Config.Accepted (config : Config) : Prop :=
  ∃ raw, Config.load raw = .ok config

structure Config.Valid (config : Config) : Prop where
  periodS_pos : 0 < config.periodS
  control : config.control.Valid config.periodS
  epAmbient_pos : 0 < config.epAmbient
  epInternal_pos : 0 < config.epInternal
  epGravity_pos : 0 < config.epGravity

@[simp] theorem ControlTuning.validate_bind_eq_ok (tuning : ControlTuning)
    (periodS : ℚ) (next : Unit → Except String α) (value : α) :
    (tuning.validate periodS >>= next) = .ok value ↔
      tuning.Valid periodS ∧ next () = .ok value := by
  rw [← validate_eq_ok_iff]
  cases tuning.validate periodS <;> simp [bind, Except.bind]

@[simp] theorem positiveEndpoint_bind_eq_ok (endpoint : Int) (name : String)
    (next : Int → Except String α) (value : α) :
    (positiveEndpoint endpoint name >>= next) = .ok value ↔
      0 < endpoint ∧ next endpoint = .ok value := by
  simp only [positiveEndpoint, bind_assoc, raiseIf_bind_eq_ok, pure_bind, not_le]

theorem Config.accepted_iff_valid (config : Config) :
    config.Accepted ↔ config.Valid := by
  constructor
  · rintro ⟨raw, loaded⟩
    simp only [load, raiseIf_bind_eq_ok, not_le, ControlTuning.validate_bind_eq_ok,
      positiveEndpoint_bind_eq_ok] at loaded
    rcases loaded with ⟨periodPos, control, ambientPos, internalPos, gravityPos, same⟩
    cases same
    exact ⟨periodPos, control, ambientPos, internalPos, gravityPos⟩
  · intro valid
    refine ⟨{
      nodes := ⟨config.nodeSensor, config.nodePlugHeat, config.nodePlugCool⟩
      endpoints := ⟨config.epAmbient, config.epInternal, config.epGravity⟩
      control := config.control
      setpointC := config.setpointC
      ambientOffsetC := some config.ambientOffsetC
      internalOffsetC := some config.internalOffsetC
      sgOffset := some config.sgOffset
      periodS := config.periodS
      chipTimeoutS := some config.chipTimeoutS }, ?_⟩
    simp only [load, raiseIf_bind_eq_ok, not_le, ControlTuning.validate_bind_eq_ok,
      positiveEndpoint_bind_eq_ok]
    exact ⟨valid.periodS_pos, valid.control, valid.epAmbient_pos,
      valid.epInternal_pos, valid.epGravity_pos, rfl⟩

theorem Config.Accepted.valid {config : Config} (accepted : config.Accepted) :
    config.Valid :=
  config.accepted_iff_valid.mp accepted

/-- `config.yaml`. -/
def Config.shipped : Config where
  nodeSensor := 1
  nodePlugHeat := 11
  nodePlugCool := 12
  epAmbient := 1
  epInternal := 2
  epGravity := 3
  setpointC := 19
  ambientOffsetC := 0
  internalOffsetC := 0
  sgOffset := 0
  periodS := 60
  chipTimeoutS := 30
  control := {
    kp := 9 / 10
    kiPerHour := 8 / 100
    kff := 4 / 100
    integralLimit := 1 / 2
    integralDtMaxS := 300
    ambientFilterAlpha := 1 / 4
    internalFilterAlpha := 1 / 4
    windowS := 1800
    effortDeadband := 34 / 100
    actuatorTickS := 1
    heatMinOnS := 600
    coolMinOnS := 600
    reverseIdleS := 10
    commandStaleTimeoutS := 180 }

theorem Config.shipped_accepted : shipped.Accepted := by
  rw [accepted_iff_valid]
  have control : shipped.control.Valid shipped.periodS := by
    constructor <;> norm_num [shipped]
  exact ⟨by norm_num [shipped], control, by decide, by decide, by decide⟩

end BuranBrew.Host

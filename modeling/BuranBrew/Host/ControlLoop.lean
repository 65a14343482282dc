import BuranBrew.Host.Actuator

/-! # `PIController` and `ControlLoop`

Read sensors periodically while actuator timing advances independently. Log
messages are left out: no method reads them back.
-/

namespace BuranBrew.Host

variable [Rounding] (config : Config) (environment : Environment)

structure ControlDecision where
  effort : ℚ
  errorC : ℚ
  pTerm : ℚ
  iTerm : ℚ
  feedforwardTerm : ℚ
  deriving DecidableEq, Repr

namespace PIController

def clamp (value low high : ℚ) : ℚ :=
  max low (min high value)

def dtS (now : ℚ) (self : Controller) : ℚ :=
  match self.lastUpdate with
  | none => config.periodS
  | some last => clamp (fl (now - last)) 0 config.control.integralDtMaxS

def integrate (internalC ambientC dtS : ℚ) (self : Controller) : ℚ :=
  let tuning := config.control
  let error := fl (config.setpointC - internalC)
  let p := fl (tuning.kp * error)
  let ff := fl (tuning.kff * fl (config.setpointC - ambientC))
  let growth := fl (fl (tuning.kiPerHour * error) * fl (dtS / 3600))
  let candidateI := clamp (fl (self.integral + growth))
    (-tuning.integralLimit) tuning.integralLimit
  let candidateRaw := fl (fl (p + candidateI) + ff)
  let drivingFartherIntoSaturation :=
    (candidateRaw > 1 ∧ error > 0) ∨ (candidateRaw < -1 ∧ error < 0)
  if drivingFartherIntoSaturation then self.integral else candidateI

def decide (internalC ambientC : ℚ) (self : Controller) : ControlDecision :=
  let tuning := config.control
  let error := fl (config.setpointC - internalC)
  let p := fl (tuning.kp * error)
  let ff := fl (tuning.kff * fl (config.setpointC - ambientC))
  { effort := clamp (fl (fl (p + self.integral) + ff)) (-1) 1
    errorC := error
    pTerm := p
    iTerm := self.integral
    feedforwardTerm := ff }

def assign (update : Controller → Controller) : Py Unit := do
  point environment
  modify fun world => { world with controller := update world.controller }

def update (internalC ambientC now : ℚ) : Py ControlDecision := do
  let dtS := dtS config now (← get).controller
  assign environment fun self => { self with lastUpdate := some now }
  assign environment fun self =>
    { self with integral := integrate config internalC ambientC dtS self }
  return decide config internalC ambientC (← get).controller

end PIController

namespace ControlLoop

-- `connected` tells whether `Emitter` has a Redis client.
variable (connected : Bool)

def ema (previous : Option ℚ) (sample alpha : ℚ) : ℚ :=
  match previous with
  | none => sample
  | some previous => fl (previous + fl (alpha * fl (sample - previous)))

/-- Python's `round`: to the nearest integer, ties to the even one. -/
def round (value : ℚ) : Int :=
  let below := ⌊value⌋
  if value - below < 1 / 2 then below
  else if value - below > 1 / 2 then below + 1
  else if below % 2 = 0 then below else below + 1

def assign (update : LoopState → LoopState) : Py Unit := do
  point environment
  modify fun world => { world with loop := update world.loop }

def readGravity : Py (Option ℚ) :=
  tryCatch
    (do
      let milli ← readGravityMilli environment config.nodeSensor config.epGravity
      return some (fl (fl (fl milli / 1000) + config.sgOffset)))
    fun exception =>
      if exception.isCommandFailure then return none else throw exception

def emitTransition : Option ActuatorTransition → Py Unit
  | none => return ()
  | some transition => do
      let plan := transition.plan
      emit environment connected (.control transition.action
        (← get).loop.lastDiffCenti plan.effort plan.dutyCycle plan.activeS plan.windowS
        plan.reason)

def emitControlHeartbeat (plan : ActuatorPlan) : Py Unit := do
  let world ← get
  emit environment connected (.control world.actuator.action world.loop.lastDiffCenti
    plan.effort plan.dutyCycle plan.activeS plan.windowS .heartbeat)

/-- The two reads of `_control_update`, `none` when the update is given up. -/
def readTemperatures : Py (Option (ℚ × ℚ)) :=
  tryCatch
    (do
      let ambient ← readTempCenti environment config.nodeSensor config.epAmbient
      let internal ← readTempCenti environment config.nodeSensor config.epInternal
      return some (fl (fl (fl ambient / 100) + config.ambientOffsetC),
        fl (fl (fl internal / 100) + config.internalOffsetC)))
    fun exception =>
      if exception.isCommandFailure then return none else throw exception

/-- `_control_update` up to the first `tick`. -/
def steer (ambientC internalC : ℚ) : Py ControlDecision := do
  let now ← monotonic environment
  let tuning := config.control
  assign environment fun self => { self with
    ambientFiltered := some (ema self.ambientFiltered ambientC tuning.ambientFilterAlpha) }
  assign environment fun self => { self with
    internalFiltered :=
      some (ema self.internalFiltered internalC tuning.internalFilterAlpha) }
  let filtered := (← get).loop
  let decision ← PIController.update config environment
    (filtered.internalFiltered.getD internalC) (filtered.ambientFiltered.getD ambientC) now
  assign environment fun self => { self with
    lastDiffCenti := round (fl (fl (internalC - config.setpointC) * 100)) }
  TimeProportionalActuator.setEffort config environment decision.effort now
  let transition ← TimeProportionalActuator.tick config environment now
  emitTransition environment connected transition
  return decision

/-- `_control_update` from the gravity read on. -/
def report (ambientC internalC : ℚ) (decision : ControlDecision) : Py Unit := do
  let sg ← readGravity config environment
  let now ← monotonic environment
  let transition ← TimeProportionalActuator.tick config environment now
  emitTransition environment connected transition
  let plan ← TimeProportionalActuator.plan config environment now
  emitControlHeartbeat environment connected plan
  emit environment connected (.sensor "ambient" ambientC)
  emit environment connected (.sensor "internal" internalC)
  if let some sg := sg then
    emit environment connected (.sensor "gravity" sg)
  let action := (← get).actuator.action
  emit environment connected (.state ambientC internalC sg action decision.effort)

/-- The argument of `_control_update` is sampled again before its first use. -/
def controlUpdate : Py Unit := do
  match ← readTemperatures config environment with
  | none => return ()
  | some (ambientC, internalC) => do
      let decision ← steer config environment connected ambientC internalC
      report config environment connected ambientC internalC decision

/-- One round of the `while` loop; takes and returns `next_sensor_update`. -/
def iteration (nextSensorUpdate : ℚ) : Py ℚ := do
  let now ← monotonic environment
  let transition ← TimeProportionalActuator.tick config environment now
  emitTransition environment connected transition
  let nextSensorUpdate ←
    if now ≥ nextSensorUpdate then do
      controlUpdate config environment connected
      let now ← monotonic environment
      pure (fl (now + config.periodS))
    else
      pure nextSensorUpdate
  sleep environment config.control.actuatorTickS
  return nextSensorUpdate

/-- The first rounds of the `while` loop, which has no other exit than an
exception. -/
def loop : Nat → ℚ → Py ℚ
  | 0, nextSensorUpdate => return nextSensorUpdate
  | rounds + 1, nextSensorUpdate => do
      let nextSensorUpdate ← iteration config environment connected nextSensorUpdate
      loop rounds nextSensorUpdate

/-- `run` up to the `try`. -/
def start : Py ℚ := do
  let now ← monotonic environment
  let transition ← TimeProportionalActuator.initializeActuator config environment now
  emitTransition environment connected (some transition)
  return now

/-- The `finally` block of `run`. -/
def finish : Py Unit := do
  let now ← monotonic environment
  let transition ← TimeProportionalActuator.forceIdle config environment now .shutdown
  emitTransition environment connected transition

/-- `run`, cut off after some rounds if no exception ends it earlier. -/
def run (rounds : Nat) : Py Unit := do
  let nextSensorUpdate ← start config environment connected
  tryCatch (discard (loop config environment connected rounds nextSensorUpdate))
    fun exception => do
      finish config environment connected
      throw exception

end ControlLoop

end BuranBrew.Host

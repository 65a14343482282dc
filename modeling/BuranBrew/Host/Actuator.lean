import BuranBrew.Host.Rounding
import BuranBrew.Host.World
import Mathlib.Data.Rat.Floor
import Mathlib.Algebra.Order.Group.Unbundled.Abs

/-! # `TimeProportionalActuator`

Converts the effort of the controller into non-blocking HEAT and COOL time.
-/

namespace BuranBrew.Host

/-- `action in ("HEAT", "COOL")`. -/
def Action.isActive : Action → Bool
  | .idle => false
  | _ => true

def Config.wantedNodes (config : Config) : Action → List Int
  | .heat => [config.nodePlugHeat]
  | .cool => [config.nodePlugCool]
  | .idle => []

def ControlTuning.minOnS (tuning : ControlTuning) (direction : Action) : ℚ :=
  if direction = .heat then tuning.heatMinOnS else tuning.coolMinOnS

namespace Actuator

variable [Rounding]

def advanceWindow (windowS now : ℚ) (self : Actuator) : Actuator :=
  match self.windowStart with
  | none => { self with windowStart := some now }
  | some start =>
      let elapsed := fl (now - start)
      if elapsed ≥ windowS then
        let windows := ⌊fl (elapsed / windowS)⌋
        { self with windowStart := some (fl (start + fl (windows * windowS))) }
      else
        self

def wasStale (tuning : ControlTuning) (now : ℚ) (self : Actuator) : Bool :=
  match self.lastEffortUpdate with
  | none => true
  | some last => decide (fl (now - last) > tuning.commandStaleTimeoutS)

/-- The two lockout tests of `plan` for a HEAT or COOL request. -/
def reverseLocked (tuning : ControlTuning) (now : ℚ) (self : Actuator)
    (requested : Action) : Bool :=
  if self.action.isActive ∧ requested ≠ self.action then
    true
  else
    match self.lastActiveDirection, self.idleSince with
    | some last, some since =>
        decide (requested ≠ last ∧ fl (now - since) < tuning.reverseIdleS)
    | _, _ => false

/-- `plan` after the window was advanced. -/
def plan (tuning : ControlTuning) (now : ℚ) (self : Actuator) :
    Except Exn ActuatorPlan :=
  match self.lastEffortUpdate with
  | none => .ok ⟨.idle, 0, 0, 0, tuning.windowS, .noCommand⟩
  | some last =>
      if fl (now - last) > tuning.commandStaleTimeoutS then
        .ok ⟨.idle, self.effort, 0, 0, tuning.windowS, .staleCommand⟩
      else
        let magnitude := |self.effort|
        if magnitude ≤ tuning.effortDeadband then
          .ok ⟨.idle, self.effort, 0, 0, tuning.windowS, .deadband⟩
        else
          let direction := if self.effort > 0 then Action.heat else Action.cool
          let activeS := fl (magnitude * tuning.windowS)
          if activeS < tuning.minOnS direction then
            .ok ⟨.idle, self.effort, magnitude, activeS, tuning.windowS,
              .belowMinPulse⟩
          else
            match self.windowStart with
            | none => .error .assertionError
            | some start =>
                let requested := if fl (now - start) < activeS then direction else .idle
                let reason :=
                  if requested ≠ .idle then Reason.dutyOn else Reason.dutyOff
                if requested.isActive ∧ self.reverseLocked tuning now requested then
                  .ok ⟨.idle, self.effort, magnitude, activeS, tuning.windowS,
                    .reverseLockout⟩
                else
                  .ok ⟨requested, self.effort, magnitude, activeS, tuning.windowS,
                    reason⟩

end Actuator

namespace TimeProportionalActuator

variable [Rounding] (config : Config) (environment : Environment)

/-- One command under `except (RuntimeError, subprocess.TimeoutExpired)`; tells
whether it failed. -/
def fails (command : Py Unit) : Py Bool :=
  tryCatch (do command; return false) fun exception =>
    if exception.isCommandFailure then return true else throw exception

/-- The OFF loop of `_switch`; tells whether any command failed. -/
def switchOff (wanted : List Int) : List Int → Py Bool
  | [] => return false
  | node :: nodes =>
      if node ∈ wanted then
        switchOff wanted nodes
      else do
        let offFailed ← fails (setPlug environment node false)
        let laterFailed ← switchOff wanted nodes
        return offFailed || laterFailed

/-- The ON loop of `_switch`; tells whether every command succeeded. -/
def switchOn : List Int → Py Bool
  | [] => return true
  | node :: nodes => do
      if ← fails (setPlug environment node true) then
        return false
      switchOn nodes

def switch (action : Action) : Py Bool := do
  let wanted := config.wantedNodes action
  if ← switchOff environment wanted [config.nodePlugHeat, config.nodePlugCool] then
    return false
  switchOn environment wanted

def initializeActuator (now : ℚ) : Py ActuatorTransition := do
  if !(← switch config environment .idle) then
    throw .runtimeError
  assign environment fun self => { self with windowStart := some now }
  assign environment fun self => { self with idleSince := some now }
  return ⟨.idle, ⟨.idle, 0, 0, 0, config.control.windowS, .startup⟩⟩

def setEffort (effort now : ℚ) : Py Unit := do
  let effort := max (-1) (min 1 effort)
  let wasStale := (← get).actuator.wasStale config.control now
  if wasStale then
    -- A recovered controller begins a fresh proportional-output window.
    assign environment fun self => { self with windowStart := some now }
  assign environment fun self => { self with effort }
  assign environment fun self => { self with lastEffortUpdate := some now }
  record (.setEffort effort wasStale)

def plan (now : ℚ) : Py ActuatorPlan := do
  assign environment (Actuator.advanceWindow config.control.windowS now)
  let self := (← get).actuator
  match self.plan config.control now with
  | .error exception => throw exception
  | .ok plan => do
      record (.planned plan)
      return plan

def become (action : Action) : Py Unit := do
  assign environment fun self => { self with action }
  record (.became action)

/-- The bookkeeping of `tick` after a successful switch. -/
def commit (wanted previous : Action) (now : ℚ) : Py Unit := do
  if previous.isActive ∧ wanted ≠ previous then
    assign environment fun self => { self with lastActiveDirection := some previous }
    assign environment fun self =>
      { self with idleSince := if wanted = .idle then some now else none }
  else if previous = .idle ∧ wanted.isActive then
    assign environment fun self => { self with idleSince := none }
  become environment wanted

def tick (now : ℚ) : Py (Option ActuatorTransition) := do
  record .ticked
  let plan ← plan config environment now
  let wanted := plan.requestedAction
  let previous := (← get).actuator.action
  if wanted = previous then
    return none
  if !(← switch config environment wanted) then
    return none
  commit environment wanted previous now
  return some ⟨wanted, plan⟩

def forceIdle (now : ℚ) (reason : Reason) : Py (Option ActuatorTransition) := do
  let previous := (← get).actuator.action
  if previous = .idle then
    return none
  if !(← switch config environment .idle) then
    return none
  assign environment fun self => { self with lastActiveDirection := some previous }
  assign environment fun self => { self with idleSince := some now }
  become environment .idle
  let self := (← get).actuator
  return some ⟨.idle, ⟨.idle, self.effort, 0, 0, config.control.windowS, reason⟩⟩

end TimeProportionalActuator

end BuranBrew.Host

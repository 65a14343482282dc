import BuranBrew.Foundation.Execution
import BuranBrew.Host.Config
import Mathlib.Logic.Function.Basic
import Mathlib.Data.List.Infix

/-! # The host process and its surroundings

Everything the control loop cannot decide by itself (command outcomes, sensor
values, clock readings, how long a call takes, asynchronous exceptions) is
answered by an `Environment`, which may look at the whole past of the run. A
`World` holds the attributes of the Python objects together with that past.
-/

namespace BuranBrew.Host

/-- Exception classes that the code or its callers distinguish. -/
inductive Exn
  | runtimeError
  | timeoutExpired
  | osError
  | assertionError
  | otherException
  | keyboardInterrupt
  | otherBaseException
  deriving DecidableEq, Repr

/-- Caught by `except (RuntimeError, subprocess.TimeoutExpired)`. -/
def Exn.isCommandFailure : Exn → Bool
  | .runtimeError | .timeoutExpired => true
  | _ => false

/-- Caught by `except Exception`. -/
def Exn.isException : Exn → Bool
  | .keyboardInterrupt | .otherBaseException => false
  | _ => true

/-! ## Attributes of the Python objects -/

inductive Action
  | heat
  | cool
  | idle
  deriving DecidableEq, Repr

inductive Reason
  | startup
  | noCommand
  | staleCommand
  | deadband
  | belowMinPulse
  | dutyOn
  | dutyOff
  | reverseLockout
  | shutdown
  | heartbeat
  deriving DecidableEq, Repr

def Reason.text : Reason → String
  | .startup => "startup"
  | .noCommand => "no-command"
  | .staleCommand => "stale-command"
  | .deadband => "deadband"
  | .belowMinPulse => "below-min-pulse"
  | .dutyOn => "duty-on"
  | .dutyOff => "duty-off"
  | .reverseLockout => "reverse-lockout"
  | .shutdown => "shutdown"
  | .heartbeat => "heartbeat"

structure ActuatorPlan where
  requestedAction : Action
  effort : ℚ
  dutyCycle : ℚ
  activeS : ℚ
  windowS : ℚ
  reason : Reason
  deriving DecidableEq, Repr

structure ActuatorTransition where
  action : Action
  plan : ActuatorPlan
  deriving DecidableEq, Repr

/-- Attributes of `TimeProportionalActuator`, as `__init__` sets them. -/
structure Actuator where
  effort : ℚ := 0
  lastEffortUpdate : Option ℚ := none
  windowStart : Option ℚ := none
  action : Action := .idle
  lastActiveDirection : Option Action := none
  idleSince : Option ℚ := none
  deriving DecidableEq, Repr

structure Controller where
  integral : ℚ := 0
  lastUpdate : Option ℚ := none
  deriving DecidableEq, Repr

structure LoopState where
  ambientFiltered : Option ℚ := none
  internalFiltered : Option ℚ := none
  lastDiffCenti : Int := 0
  deriving DecidableEq, Repr

inductive Telemetry
  | control (action : Action) (diffCenti : Int) (effort dutyCycle activeS windowS : ℚ)
      (reason : Reason)
  | sensor (metric : String) (value : ℚ)
  | state (ambient internal : ℚ) (sg : Option ℚ) (action : Action) (effort : ℚ)
  deriving DecidableEq, Repr

/-! ## The past of a run -/

/-- A `set_plug` call that raises may nevertheless have reached the plug. -/
inductive PlugOutcome
  | done
  | raised (exception : Exn) (tookEffect : Bool)
  deriving DecidableEq, Repr

def PlugOutcome.tookEffect : PlugOutcome → Bool
  | .done => true
  | .raised _ tookEffect => tookEffect

inductive EventKind
  | setPlug (node : Int) (on : Bool) (outcome : PlugOutcome)
  | read (node endpoint : Int)
  | clock (reading : ℚ)
  | slept (seconds : ℚ)
  | emitted (record : Telemetry)
  | setEffort (effort : ℚ) (restarted : Bool)
  | planned (plan : ActuatorPlan)
  | ticked
  | became (action : Action)
  deriving DecidableEq, Repr

/-- An event with its instant; a plug command is stamped with the instant at
which it reaches the plug. -/
structure Event where
  time : ℚ
  kind : EventKind
  deriving DecidableEq, Repr

def Event.apply (event : Event) (plugs : Int → Bool) : Int → Bool :=
  match event.kind with
  | .setPlug node on outcome =>
      if outcome.tookEffect then Function.update plugs node on else plugs
  | _ => plugs

def EventKind.isNeutral : EventKind → Bool
  | .setPlug .. | .became _ => false
  | _ => true

def EventKind.isFailure : EventKind → Bool
  | .setPlug _ _ (.raised _ _) => true
  | _ => false

def plugsAfter (initial : Int → Bool) : List Event → Int → Bool
  | [] => initial
  | event :: earlier => event.apply (plugsAfter initial earlier)

def lastSuccess (node : Int) : List Event → Option Bool
  | [] => none
  | ⟨_, .setPlug target on .done⟩ :: earlier =>
      if target = node then some on else lastSuccess node earlier
  | _ :: earlier => lastSuccess node earlier

structure World where
  /-- The instant up to which the run has advanced. -/
  now : ℚ
  /-- Statements executed so far. -/
  points : Nat := 0
  initialPlugs : Int → Bool
  log : List Event := []
  actuator : Actuator := {}
  controller : Controller := {}
  loop : LoopState := {}

namespace World

def plugs (world : World) : Int → Bool :=
  plugsAfter world.initialPlugs world.log

def fresh (now : ℚ) (initialPlugs : Int → Bool) : World := { now, initialPlugs }

def pointed (world : World) : World :=
  { world with points := world.points + 1 }

def logged (world : World) (kind : EventKind) : World :=
  { world with log := ⟨world.now, kind⟩ :: world.log }

@[simp] theorem logged_actuator (world : World) (kind : EventKind) :
    (world.logged kind).actuator = world.actuator := rfl

@[simp] theorem logged_log (world : World) (kind : EventKind) :
    (world.logged kind).log = ⟨world.now, kind⟩ :: world.log := rfl

def become (world : World) (action : Action) : World :=
  { world with
    actuator := { world.actuator with action }
    log := ⟨world.now, .became action⟩ :: world.log }

/-- The events that a later world has in addition, newest first. -/
def eventsSince (earlier later : World) : List Event :=
  later.log.take (later.log.length - earlier.log.length)

theorem eventsSince_eq {earlier later : World} {added : List Event}
    (log : later.log = added ++ earlier.log) : earlier.eventsSince later = added := by
  simp [eventsSince, log]

end World

/-! ## The environment -/

/-- A call takes `duration` and does its work at some instant within it. -/
structure CallTiming where
  duration : ℚ
  effectAfter : ℚ
  effectAfter_nonneg : 0 ≤ effectAfter
  effectAfter_le : effectAfter ≤ duration

theorem CallTiming.duration_nonneg (timing : CallTiming) : 0 ≤ timing.duration :=
  timing.effectAfter_nonneg.trans timing.effectAfter_le

def CallTiming.instant : CallTiming where
  duration := 0
  effectAfter := 0
  effectAfter_nonneg := le_refl 0
  effectAfter_le := le_refl 0

structure PlugReply extends CallTiming where
  outcome : PlugOutcome

structure ReadReply extends CallTiming where
  value : Except Exn Int

structure Environment where
  /-- An exception that arrives at a statement boundary. -/
  interrupt : World → Option Exn
  /-- What `time.monotonic()` returns. -/
  clock : World → ℚ
  setPlug : World → Int → Bool → PlugReply
  readTempCenti : World → Int → Int → ReadReply
  readGravityMilli : World → Int → Int → ReadReply
  redis : World → Option Exn

/-! ## Statements -/

abbrev Py := EStateM Exn World

section Statements

variable (environment : Environment)

/-- A statement boundary. -/
def point : Py Unit := do
  let world ← get
  set world.pointed
  match environment.interrupt world with
  | none => return ()
  | some exception => throw exception

/-- Observations that no code reads back. -/
def record (kind : EventKind) : Py Unit :=
  modify fun world => world.logged kind

def assign (update : Actuator → Actuator) : Py Unit := do
  point environment
  modify fun world => { world with actuator := update world.actuator }

def World.clocked (world : World) (reading : ℚ) : World :=
  { world with now := reading, log := ⟨reading, .clock reading⟩ :: world.log }

def monotonic : Py ℚ := do
  point environment
  let world ← get
  let reading := environment.clock world
  set (world.clocked reading)
  return reading

def World.slept (world : World) (seconds : ℚ) : World :=
  { world with
    now := world.now + seconds
    log := ⟨world.now, .slept seconds⟩ :: world.log }

def sleep (seconds : ℚ) : Py Unit := do
  point environment
  modify fun world => world.slept seconds

def World.commanded (world : World) (node : Int) (on : Bool) (reply : PlugReply) :
    World :=
  { world with
    now := world.now + reply.duration
    log := ⟨world.now + reply.effectAfter, .setPlug node on reply.outcome⟩ ::
      world.log }

def setPlug (node : Int) (on : Bool) : Py Unit := do
  point environment
  let world ← get
  let reply := environment.setPlug world node on
  set (world.commanded node on reply)
  match reply.outcome with
  | .done => return ()
  | .raised exception _ => throw exception

def World.answered (world : World) (node endpoint : Int) (reply : ReadReply) : World :=
  { world with
    now := world.now + reply.duration
    log := ⟨world.now + reply.effectAfter, .read node endpoint⟩ :: world.log }

/-- One read through `ChipTool._read`. -/
def readThrough (answer : World → Int → Int → ReadReply) (node endpoint : Int) :
    Py Int := do
  point environment
  let world ← get
  let reply := answer world node endpoint
  set (world.answered node endpoint reply)
  match reply.value with
  | .ok value => return value
  | .error exception => throw exception

def readTempCenti : Int → Int → Py Int :=
  readThrough environment environment.readTempCenti

def readGravityMilli : Int → Int → Py Int :=
  readThrough environment environment.readGravityMilli

/-- Telemetry is best effort: without a client nothing is sent, and any
`Exception` the client raises is dropped. -/
def emit (connected : Bool) (telemetry : Telemetry) : Py Unit := do
  point environment
  if connected then
    let world ← get
    match environment.redis world with
    | none => record (.emitted telemetry)
    | some exception => if exception.isException then return () else throw exception

end Statements

end BuranBrew.Host

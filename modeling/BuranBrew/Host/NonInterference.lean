import BuranBrew.Foundation.Lockstep
import BuranBrew.Host.LoopRules

/-! # Telemetry does not interfere

Two runs of the loop that get the same clock readings, temperatures and plug outcomes
do the same, whatever the gravity sensor and the Redis client answer.
-/

namespace BuranBrew.Host

open Execution TimeProportionalActuator

def EventKind.isTelemetry : EventKind → Bool
  | .emitted _ => true
  | _ => false

namespace World

/-- What the run has done apart from telemetry. The gravity reads are part of it, but not
what they have returned. -/
def trace (world : World) : List EventKind :=
  (world.log.map Event.kind).filter (!·.isTelemetry)

def commands (world : World) : List (Int × Bool) :=
  world.trace.filterMap fun kind =>
    match kind with
    | .setPlug node on _ => some (node, on)
    | _ => none

end World

/-- Alike but for telemetry and for how long the calls have taken. -/
structure Alike (left right : World) : Prop where
  trace : left.trace = right.trace
  actuator : left.actuator = right.actuator
  controller : left.controller = right.controller
  loop : left.loop = right.loop

theorem alike_equivalence : Equivalence Alike where
  refl _ := ⟨rfl, rfl, rfl, rfl⟩
  symm alike :=
    ⟨alike.trace.symm, alike.actuator.symm, alike.controller.symm, alike.loop.symm⟩
  trans alike next := ⟨alike.trace.trans next.trace, alike.actuator.trans next.actuator,
    alike.controller.trans next.controller, alike.loop.trans next.loop⟩

/-- Two environments answer a loop that has done the same in the same way, apart from
gravity, the Redis client and the time that calls take. -/
structure SameInputs (one other : Environment) : Prop where
  interrupts : ∀ left right, Alike left right →
    one.interrupt left = other.interrupt right
  clocks : ∀ left right, Alike left right → one.clock left = other.clock right
  plugOutcomes : ∀ left right node on, Alike left right →
    (one.setPlug left node on).outcome = (other.setPlug right node on).outcome
  temperatures : ∀ left right node endpoint, Alike left right →
    (one.readTempCenti left node endpoint).value =
      (other.readTempCenti right node endpoint).value

/-- A gravity read returns or raises `RuntimeError` or `TimeoutExpired`, and the Redis
client raises nothing but an `Exception`. -/
structure Environment.TelemetryFaults (environment : Environment) : Prop where
  gravity : ∀ world node endpoint exception,
    (environment.readGravityMilli world node endpoint).value = .error exception →
      exception.isCommandFailure = true
  redis : ∀ world exception, environment.redis world = some exception →
    exception.isException = true

variable {config : Config} {environment one other : Environment} {left right : World}

namespace Alike

theorem logged (alike : Alike left right) (kind : EventKind) (time time' now now' : ℚ) :
    Alike { left with now := now, log := ⟨time, kind⟩ :: left.log }
      { right with now := now', log := ⟨time', kind⟩ :: right.log } := by
  constructor
  · have trace := alike.trace
    unfold World.trace at trace ⊢
    simp only [List.map_cons, List.filter_cons, trace]
  · exact alike.actuator
  · exact alike.controller
  · exact alike.loop

theorem emitted (world : World) (telemetry : Telemetry) :
    Alike world (world.logged (.emitted telemetry)) :=
  ⟨by simp [World.trace, EventKind.isTelemetry], rfl, rfl, rfl⟩

theorem pointed (alike : Alike left right) : Alike left.pointed right.pointed :=
  ⟨alike.trace, alike.actuator, alike.controller, alike.loop⟩

end Alike

namespace SameInputs

variable (same : SameInputs one other)

include same

theorem interrupt_eq (alike : Alike left right) :
    one.interrupt left = one.interrupt right :=
  (same.interrupts left right alike).trans
    (same.interrupts right right (alike_equivalence.refl right)).symm

/-! ## Statements -/

theorem point : Together Alike (point one) (point other) := by
  intro left right alike
  have interrupt := same.interrupts left right alike
  simp only [Host.point, EStateM.run_bind, EStateM.run_get, EStateM.run_set, interrupt]
  cases other.interrupt right with
  | none => exact ⟨trivial, alike.pointed⟩
  | some exception => exact ⟨rfl, alike.pointed⟩

omit same in
theorem record (kind : EventKind) : Together Alike (record kind) (record kind) :=
  Lockstep.modify fun _ _ alike => alike.logged kind _ _ _ _

theorem assign (update : Actuator → Actuator) :
    Together Alike (assign one update) (assign other update) := by
  apply Together.bind same.point
  intro _
  apply Lockstep.modify
  intro left right alike
  exact ⟨alike.trace, congrArg update alike.actuator, alike.controller, alike.loop⟩

theorem monotonic : Together Alike (monotonic one) (monotonic other) := by
  apply Together.bind same.point
  intro _
  apply Lockstep.get_bind
  intro left right alike
  have reading := same.clocks left right alike
  dsimp only
  rw [reading]
  exact Together.bind (Lockstep.set (alike.logged _ _ _ _ _)) fun _ => Lockstep.pure rfl

theorem sleep (seconds : ℚ) : Together Alike (sleep one seconds) (sleep other seconds) := by
  apply Together.bind same.point
  intro _
  apply Lockstep.modify
  exact fun _ _ alike => alike.logged _ _ _ _ _

theorem setPlug (node : Int) (on : Bool) :
    Together Alike (setPlug one node on) (setPlug other node on) := by
  apply Together.bind same.point
  intro _
  apply Lockstep.get_bind
  intro left right alike
  have outcome := same.plugOutcomes left right node on alike
  dsimp only
  have commanded : Alike (left.commanded node on (one.setPlug left node on))
      (right.commanded node on (other.setPlug right node on)) := by
    unfold World.commanded
    rw [outcome]
    exact alike.logged _ _ _ _ _
  apply Together.bind (Lockstep.set commanded)
  intro _
  rw [outcome]
  cases (other.setPlug right node on).outcome with
  | done => exact Lockstep.pure rfl
  | raised exception tookEffect => exact Lockstep.throw

theorem readTempCenti (node endpoint : Int) :
    Together Alike (readTempCenti one node endpoint) (readTempCenti other node endpoint) := by
  apply Together.bind same.point
  intro _
  apply Lockstep.get_bind
  intro left right alike
  have value := same.temperatures left right node endpoint alike
  dsimp only
  rw [value]
  apply Together.bind (Lockstep.set (alike.logged _ _ _ _ _))
  intro _
  cases (other.readTempCenti right node endpoint).value with
  | ok value => exact Lockstep.pure rfl
  | error exception => exact Lockstep.throw

/-! ## The actuator -/

omit same in
theorem fails {command command' : Py Unit} (together : Together Alike command command') :
    Together Alike (fails command) (TimeProportionalActuator.fails command') := by
  apply Lockstep.tryCatch
  · exact Together.bind together fun _ => Lockstep.pure rfl
  · intro exception
    exact Lockstep.ite (fun _ => Lockstep.pure rfl) fun _ => Lockstep.throw

theorem switchOff (wanted nodes : List Int) :
    Together Alike (switchOff one wanted nodes) (switchOff other wanted nodes) := by
  induction nodes with
  | nil => exact Lockstep.pure rfl
  | cons node nodes induction =>
      apply Lockstep.ite
      · exact fun _ => induction
      · intro _
        apply Together.bind (fails (same.setPlug node false))
        intro offFailed
        apply Together.bind induction
        intro laterFailed
        exact Lockstep.pure rfl

theorem switchOn (nodes : List Int) :
    Together Alike (switchOn one nodes) (switchOn other nodes) := by
  induction nodes with
  | nil => exact Lockstep.pure rfl
  | cons node nodes induction =>
      apply Together.bind (fails (same.setPlug node true))
      intro failed
      exact Lockstep.ite (fun _ => Lockstep.pure rfl) fun _ => induction

theorem switch (action : Action) :
    Together Alike (switch config one action) (switch config other action) := by
  apply Together.bind (same.switchOff _ _)
  intro failed
  exact Lockstep.ite (fun _ => Lockstep.pure rfl) fun _ => same.switchOn _

theorem initializeActuator (now : ℚ) :
    Together Alike (initializeActuator config one now) (initializeActuator config other now) := by
  apply Together.bind (same.switch .idle)
  intro success
  cases success with
  | false =>
      exact Together.bind (Lockstep.throw : Together Alike (throw .runtimeError : Py Unit) _)
        fun _ => Together.bind (same.assign _) fun _ =>
          Together.bind (same.assign _) fun _ => Lockstep.pure rfl
  | true =>
      exact Together.bind (same.assign _) fun _ =>
        Together.bind (same.assign _) fun _ => Lockstep.pure rfl

theorem setEffort [Rounding] (effort now : ℚ) :
    Together Alike (setEffort config one effort now) (setEffort config other effort now) := by
  apply Lockstep.get_bind
  intro left right alike
  rw [alike.actuator]
  have stored (stale : Bool) : Together Alike
      (do
        Host.assign one fun self => { self with effort := max (-1) (min 1 effort) }
        Host.assign one fun self => { self with lastEffortUpdate := some now }
        Host.record (.setEffort (max (-1) (min 1 effort)) stale))
      (do
        Host.assign other fun self => { self with effort := max (-1) (min 1 effort) }
        Host.assign other fun self => { self with lastEffortUpdate := some now }
        Host.record (.setEffort (max (-1) (min 1 effort)) stale)) :=
    Together.bind (same.assign _) fun _ =>
      Together.bind (same.assign _) fun _ => record _
  dsimp only
  apply Lockstep.ite
  · exact fun _ => Together.bind (same.assign _) fun _ => stored _
  · exact fun _ => stored _

theorem plan [Rounding] (now : ℚ) :
    Together Alike (plan config one now) (plan config other now) := by
  apply Together.bind (same.assign _)
  intro _
  apply Lockstep.get_bind
  intro left right alike
  rw [alike.actuator]
  dsimp only
  cases right.actuator.plan config.control now with
  | error exception => exact Lockstep.throw
  | ok decided => exact Together.bind (record _) fun _ => Lockstep.pure rfl

theorem become (action : Action) : Together Alike (become one action) (become other action) :=
  Together.bind (same.assign _) fun _ => record _

theorem commit (wanted previous : Action) (now : ℚ) :
    Together Alike (commit one wanted previous now) (commit other wanted previous now) := by
  apply Lockstep.ite
  · exact fun _ => Together.bind (same.assign _) fun _ =>
      Together.bind (same.assign _) fun _ => same.become wanted
  · intro _
    apply Lockstep.ite
    · exact fun _ => Together.bind (same.assign _) fun _ => same.become wanted
    · exact fun _ => same.become wanted

theorem tick [Rounding] (now : ℚ) :
    Together Alike (tick config one now) (tick config other now) := by
  apply Together.bind (record _)
  intro _
  apply Together.bind (same.plan now)
  intro decided
  apply Lockstep.get_bind
  intro left right alike
  rw [alike.actuator]
  apply Lockstep.ite
  · exact fun _ => Lockstep.pure rfl
  · intro _
    apply Together.bind (same.switch _)
    intro success
    cases success with
    | false => exact Lockstep.pure rfl
    | true => exact Together.bind (same.commit _ _ _) fun _ => Lockstep.pure rfl

theorem forceIdle (now : ℚ) (reason : Reason) :
    Together Alike (forceIdle config one now reason) (forceIdle config other now reason) := by
  apply Lockstep.get_bind
  intro left right alike
  rw [alike.actuator]
  apply Lockstep.ite
  · exact fun _ => Lockstep.pure rfl
  · intro _
    apply Together.bind (same.switch .idle)
    intro success
    cases success with
    | false => exact Lockstep.pure rfl
    | true =>
        apply Together.bind (same.assign _)
        intro _
        apply Together.bind (same.assign _)
        intro _
        apply Together.bind (same.become .idle)
        intro _
        apply Lockstep.get_bind
        intro left right alike
        rw [alike.actuator]
        exact Lockstep.pure rfl

end SameInputs

/-! ## Telemetry -/

/-- Apart from asynchronous exceptions, telemetry neither raises nor leaves anything behind. -/
def Unnoticed (environment : Environment) (program : Py α) : Prop :=
  Silent Alike environment.interrupt program

theorem emit_unnoticed (faults : environment.TelemetryFaults) (connected : Bool)
    (telemetry : Telemetry) : Unnoticed environment (emit environment connected telemetry) := by
  intro world
  have pointed : Alike world world.pointed := ⟨rfl, rfl, rfl, rfl⟩
  simp only [emit, point, EStateM.run_bind, EStateM.run_get, EStateM.run_set]
  cases environment.interrupt world with
  | some exception => exact ⟨pointed, rfl⟩
  | none =>
      cases connected with
      | false => exact ⟨pointed, rfl⟩
      | true =>
          simp only [EStateM.run_pure, if_true, EStateM.run_bind, EStateM.run_get]
          cases redis : environment.redis world.pointed with
          | none => exact ⟨alike_equivalence.trans pointed (.emitted _ _), rfl⟩
          | some exception =>
              simp only [faults.redis _ _ redis, if_true]
              exact ⟨pointed, rfl⟩

namespace SameInputs

variable (same : SameInputs one other)

include same

theorem symm : SameInputs other one where
  interrupts left right alike := (same.interrupts right left (alike_equivalence.symm alike)).symm
  clocks left right alike := (same.clocks right left (alike_equivalence.symm alike)).symm
  plugOutcomes left right node on alike :=
    (same.plugOutcomes right left node on (alike_equivalence.symm alike)).symm
  temperatures left right node endpoint alike :=
    (same.temperatures right left node endpoint (alike_equivalence.symm alike)).symm

theorem then_unnoticed {program : Py α} {next : α → Py β} (first : Unnoticed one program)
    (rest : ∀ value, Unnoticed one (next value)) : Unnoticed one (program >>= next) :=
  Silent.bind alike_equivalence (fun _ _ alike => same.interrupt_eq alike) first rest

theorem unnoticed {program program' : Py Unit} (first : Unnoticed one program)
    (second : Unnoticed other program') : Together Alike program program' :=
  (Silent.lockstep alike_equivalence same.interrupts first second).weaken fun _ _ _ => rfl

variable (faults : one.TelemetryFaults) (faults' : other.TelemetryFaults)
  (connected connected' : Bool)

include faults faults'

theorem emitTransition (transition : Option ActuatorTransition) :
    Together Alike (ControlLoop.emitTransition one connected transition)
      (ControlLoop.emitTransition other connected' transition) := by
  cases transition with
  | none => exact Lockstep.pure rfl
  | some transition =>
      apply same.unnoticed
      · exact Silent.get_bind fun _ => emit_unnoticed faults connected _
      · exact Silent.get_bind fun _ => emit_unnoticed faults' connected' _

omit faults' in
theorem records_unnoticed (plan : ActuatorPlan) (ambientC internalC : ℚ)
    (decision : ControlDecision) (sg : Option ℚ) : Unnoticed one (do
      ControlLoop.emitControlHeartbeat one connected plan
      emit one connected (.sensor "ambient" ambientC)
      emit one connected (.sensor "internal" internalC)
      if let some sg := sg then
        emit one connected (.sensor "gravity" sg)
      let action := (← get).actuator.action
      emit one connected (.state ambientC internalC sg action decision.effort)) := by
  have rest (sg : Option ℚ) : Unnoticed one (do
      let action := (← get).actuator.action
      emit one connected (.state ambientC internalC sg action decision.effort)) :=
    Silent.get_bind fun _ => emit_unnoticed faults connected _
  apply same.then_unnoticed (Silent.get_bind fun _ => emit_unnoticed faults connected _)
  intro _
  apply same.then_unnoticed (emit_unnoticed faults connected _)
  intro _
  apply same.then_unnoticed (emit_unnoticed faults connected _)
  intro _
  cases sg with
  | none => exact rest none
  | some sg => exact same.then_unnoticed (emit_unnoticed faults connected _) fun _ => rest _

/-! ## The loop -/

omit faults faults' in
theorem assignLoop (update : LoopState → LoopState) :
    Together Alike (ControlLoop.assign one update) (ControlLoop.assign other update) := by
  apply Together.bind same.point
  intro _
  apply Lockstep.modify
  intro left right alike
  exact ⟨alike.trace, alike.actuator, alike.controller, congrArg update alike.loop⟩

omit faults faults' in
theorem assignController (update : Controller → Controller) :
    Together Alike (PIController.assign one update) (PIController.assign other update) := by
  apply Together.bind same.point
  intro _
  apply Lockstep.modify
  intro left right alike
  exact ⟨alike.trace, alike.actuator, congrArg update alike.controller, alike.loop⟩

theorem start :
    Together Alike (ControlLoop.start config one connected)
      (ControlLoop.start config other connected') := by
  apply Together.bind same.monotonic
  intro now
  apply Together.bind (same.initializeActuator now)
  intro transition
  exact Together.bind
    (same.emitTransition faults faults' connected connected' (some transition))
    fun _ => Lockstep.pure rfl

theorem finish :
    Together Alike (ControlLoop.finish config one connected)
      (ControlLoop.finish config other connected') := by
  apply Together.bind same.monotonic
  intro now
  apply Together.bind (same.forceIdle now .shutdown)
  intro transition
  exact same.emitTransition faults faults' connected connected' transition

variable [Rounding]

omit same faults' in
theorem readGravity_run (config : Config) {world : World} (quiet : one.interrupt world = none) :
    ∃ sg reply, (ControlLoop.readGravity config one).run world =
      .ok sg (world.pointed.answered config.nodeSensor config.epGravity reply) := by
  simp only [ControlLoop.readGravity, run_tryCatch, readGravityMilli, readThrough, Host.point,
    EStateM.run_bind, EStateM.run_get, EStateM.run_set, quiet, EStateM.run_pure]
  cases value : (one.readGravityMilli world.pointed config.nodeSensor config.epGravity).value with
  | ok milli => exact ⟨_, _, rfl⟩
  | error exception =>
      have caught := faults.gravity _ _ _ _ value
      simp only [run_throw, caught, if_true]
      exact ⟨_, _, rfl⟩

omit same faults faults' in
theorem readGravity_interrupted {world : World} {exception : Exn}
    (interrupted : one.interrupt world = some exception) :
    (ControlLoop.readGravity config one).run world =
      if exception.isCommandFailure then .ok none world.pointed
      else .error exception world.pointed := by
  simp only [ControlLoop.readGravity, run_tryCatch, readGravityMilli, readThrough, Host.point,
    EStateM.run_bind, EStateM.run_get, EStateM.run_set, interrupted, run_throw]
  split
  · rfl
  · rfl

theorem readGravity : Lockstep Alike (fun _ _ => True) (ControlLoop.readGravity config one)
    (ControlLoop.readGravity config other) := by
  intro left right alike
  have interrupt := same.interrupts left right alike
  cases arrives : other.interrupt right with
  | some exception =>
      rw [readGravity_interrupted (interrupt.trans arrives), readGravity_interrupted arrives]
      cases exception.isCommandFailure with
      | true => exact ⟨trivial, alike.pointed⟩
      | false => exact ⟨rfl, alike.pointed⟩
  | none =>
      rcases readGravity_run faults config (interrupt.trans arrives) with
        ⟨sg, reply, ran⟩
      rcases readGravity_run faults' config arrives with ⟨sg', reply', ran'⟩
      rw [ran, ran']
      exact ⟨trivial, alike.pointed.logged _ _ _ _ _⟩

omit faults faults' in
theorem readTemperatures : Together Alike (ControlLoop.readTemperatures config one)
    (ControlLoop.readTemperatures config other) := by
  apply Lockstep.tryCatch
  · apply Together.bind (same.readTempCenti _ _)
    intro ambient
    apply Together.bind (same.readTempCenti _ _)
    intro internal
    exact Lockstep.pure rfl
  · intro exception
    exact Lockstep.ite (fun _ => Lockstep.pure rfl) fun _ => Lockstep.throw

omit faults faults' in
theorem updateController (internalC ambientC now : ℚ) :
    Together Alike (PIController.update config one internalC ambientC now)
      (PIController.update config other internalC ambientC now) := by
  apply Lockstep.get_bind
  intro left right alike
  rw [alike.controller]
  apply Together.bind (same.assignController _)
  intro _
  apply Together.bind (same.assignController _)
  intro _
  apply Lockstep.get_bind
  intro left right alike
  rw [alike.controller]
  exact Lockstep.pure rfl

theorem steer (ambientC internalC : ℚ) :
    Together Alike (ControlLoop.steer config one connected ambientC internalC)
      (ControlLoop.steer config other connected' ambientC internalC) := by
  apply Together.bind same.monotonic
  intro now
  apply Together.bind (same.assignLoop _)
  intro _
  apply Together.bind (same.assignLoop _)
  intro _
  apply Lockstep.get_bind
  intro left right alike
  rw [alike.loop]
  apply Together.bind (same.updateController _ _ now)
  intro decision
  apply Together.bind (same.assignLoop _)
  intro _
  apply Together.bind (same.setEffort _ now)
  intro _
  apply Together.bind (same.tick now)
  intro transition
  exact Together.bind (same.emitTransition faults faults' connected connected' transition)
    fun _ => Lockstep.pure rfl

theorem report (ambientC internalC : ℚ) (decision : ControlDecision) :
    Together Alike (ControlLoop.report config one connected ambientC internalC decision)
      (ControlLoop.report config other connected' ambientC internalC decision) := by
  apply Lockstep.bind (same.readGravity faults faults')
  intro sg sg' _
  apply Together.bind same.monotonic
  intro now
  apply Together.bind (same.tick now)
  intro transition
  apply Together.bind (same.emitTransition faults faults' connected connected' transition)
  intro _
  apply Together.bind (same.plan now)
  intro plan
  exact same.unnoticed (same.records_unnoticed faults connected plan _ _ _ sg)
    (same.symm.records_unnoticed faults' connected' plan _ _ _ sg')

theorem controlUpdate :
    Together Alike (ControlLoop.controlUpdate config one connected)
      (ControlLoop.controlUpdate config other connected') := by
  apply Together.bind same.readTemperatures
  intro temperatures
  rcases temperatures with _ | ⟨ambientC, internalC⟩
  · exact Lockstep.pure rfl
  · apply Together.bind (same.steer faults faults' connected connected' ambientC internalC)
    intro decision
    exact same.report faults faults' connected connected' ambientC internalC decision

theorem iteration (nextSensorUpdate : ℚ) :
    Together Alike (ControlLoop.iteration config one connected nextSensorUpdate)
      (ControlLoop.iteration config other connected' nextSensorUpdate) := by
  have rest (next : ℚ) : Together Alike
      (do
        Host.sleep one config.control.actuatorTickS
        return next)
      (do
        Host.sleep other config.control.actuatorTickS
        return next) :=
    Together.bind (same.sleep _) fun _ => Lockstep.pure rfl
  apply Together.bind same.monotonic
  intro now
  apply Together.bind (same.tick now)
  intro transition
  apply Together.bind (same.emitTransition faults faults' connected connected' transition)
  intro _
  apply Lockstep.ite
  · intro _
    apply Together.bind (same.controlUpdate faults faults' connected connected')
    intro _
    apply Together.bind same.monotonic
    intro later
    rw [pure_bind, pure_bind]
    exact rest _
  · exact fun _ => rest _

theorem loop (rounds : Nat) (nextSensorUpdate : ℚ) :
    Together Alike (ControlLoop.loop config one connected rounds nextSensorUpdate)
      (ControlLoop.loop config other connected' rounds nextSensorUpdate) := by
  induction rounds generalizing nextSensorUpdate with
  | zero => exact Lockstep.pure rfl
  | succ rounds induction =>
      apply Together.bind (same.iteration faults faults' connected connected' nextSensorUpdate)
      intro next
      exact induction next

theorem run (rounds : Nat) :
    Together Alike (ControlLoop.run config one connected rounds)
      (ControlLoop.run config other connected' rounds) := by
  apply Together.bind (same.start faults faults' connected connected')
  intro next
  apply Lockstep.tryCatch
  · exact Lockstep.discard (same.loop faults faults' connected connected' rounds next)
  · intro exception
    exact Together.bind (same.finish faults faults' connected connected')
      fun _ => Lockstep.throw

end SameInputs

theorem Alike.commands (alike : Alike left right) : left.commands = right.commands := by
  unfold World.commands
  rw [alike.trace]

/-- Two runs that differ in the gravity reads and the Redis client only send the same plug
commands, leave the same state behind and end, if they do, with the same exception. -/
theorem telemetry_does_not_interfere [Rounding] (same : SameInputs one other)
    (faults : one.TelemetryFaults) (faults' : other.TelemetryFaults)
    (start : Alike left right) (connected connected' : Bool) (rounds : Nat) :
    let result := (ControlLoop.run config one connected rounds).run left
    let result' := (ControlLoop.run config other connected' rounds).run right
    exceptionOf result = exceptionOf result' ∧
      (finalState result).commands = (finalState result').commands ∧
      (finalState result).actuator = (finalState result').actuator ∧
      (finalState result).controller = (finalState result').controller ∧
      (finalState result).loop = (finalState result').loop := by
  intro result result'
  have together : Together Alike (ControlLoop.run config one connected rounds)
      (ControlLoop.run config other connected' rounds) :=
    same.run faults faults' connected connected' rounds
  rcases together.ends start with ⟨exception, alike⟩
  exact ⟨exception, alike.commands, alike.actuator, alike.controller, alike.loop⟩

/-- A clock that advances with the run, and sensors that fail for good at some time. -/
def Environment.scripted (gravity : Except Exn Int) (redis : Option Exn) : Environment where
  interrupt _ := none
  clock world := world.trace.length
  setPlug _ _ _ := { CallTiming.instant with outcome := .done }
  readTempCenti world _ _ :=
    { CallTiming.instant with
      value := if world.trace.length < 100 then .ok 1500 else .error .osError }
  readGravityMilli _ _ _ := { CallTiming.instant with value := gravity }
  redis _ := redis

theorem scripted_sameInputs (gravity gravity' : Except Exn Int) (redis redis' : Option Exn) :
    SameInputs (.scripted gravity redis) (.scripted gravity' redis') where
  interrupts _ _ _ := rfl
  clocks _ _ alike := by simp [Environment.scripted, alike.trace]
  plugOutcomes _ _ _ _ _ := rfl
  temperatures _ _ _ _ alike := by simp [Environment.scripted, alike.trace]

theorem scripted_faults {gravity : Except Exn Int} {redis : Option Exn}
    (fails : ∀ exception, gravity = .error exception → exception.isCommandFailure = true)
    (raises : ∀ exception, redis = some exception → exception.isException = true) :
    (Environment.scripted gravity redis).TelemetryFaults :=
  ⟨fun _ _ _ => fails, fun _ => raises⟩

section

open Binary64

theorem telemetry_does_not_interfere_failing :
    (finalState ((ControlLoop.run Config.shipped (.scripted (.ok 1050) none) true 3).run
      (.fresh 0 fun _ => false))).commands =
    (finalState ((ControlLoop.run Config.shipped
      (.scripted (.error .timeoutExpired) (some .otherException)) true 3).run
      (.fresh 0 fun _ => false))).commands := by
  have working : (Environment.scripted (.ok 1050) none).TelemetryFaults :=
    scripted_faults nofun nofun
  have failing : (Environment.scripted (.error .timeoutExpired)
      (some .otherException)).TelemetryFaults := by
    apply scripted_faults
    · intro exception raised
      cases raised
      rfl
    · intro exception raised
      cases raised
      rfl
  have interference := @telemetry_does_not_interfere Config.shipped _ _ _ _ _
    (scripted_sameInputs _ _ _ _) working failing
    (alike_equivalence.refl (.fresh 0 fun _ => false)) true true 3
  exact interference.2.1

end

end BuranBrew.Host

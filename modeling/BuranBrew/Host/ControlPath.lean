import BuranBrew.Host.Moves
import BuranBrew.Host.Updates

/-! # The controller and the actuator together

A run is a sequence of calls at the times that the callers pass. What is seen of a call is
its answer, what it planned and the commands it sent.
-/

namespace BuranBrew.Host

open Execution Exact TimeProportionalActuator

/-- `steer` is an update with the `set_effort` that follows it. -/
inductive ControlCall
  | initializeActuator (now : ℚ)
  | steer (call : ControllerCall)
  | actuate (call : ActuatorCall)
  deriving DecidableEq, Repr

inductive Answer
  | nothing
  | decision (decision : ControlDecision)
  | plan (plan : ActuatorPlan)
  | transition (transition : Option ActuatorTransition)
  deriving DecidableEq, Repr

structure Command where
  node : Int
  on : Bool
  succeeded : Bool
  deriving DecidableEq, Repr

structure Observation where
  answer : Except Exn Answer
  plans : List ActuatorPlan
  /-- The last command first. -/
  commands : List Command
  deriving DecidableEq

structure PathState where
  controller : Controller
  actuator : Actuator
  deriving DecidableEq, Repr

def Event.command (event : Event) : Option Command :=
  match event.kind with
  | .setPlug node on outcome => some ⟨node, on, outcome = .done⟩
  | _ => none

def Event.plan (event : Event) : Option ActuatorPlan :=
  match event.kind with
  | .planned plan => some plan
  | _ => none

def World.path (world : World) : PathState := ⟨world.controller, world.actuator⟩

section Runs

variable (config : Config) (environment : Environment)

namespace ControlCall

def now : ControlCall → ℚ
  | .initializeActuator now => now
  | .steer call => call.now
  | .actuate call => call.now

def perform : ControlCall → Py Answer
  | .initializeActuator now => do
      let transition ← TimeProportionalActuator.initializeActuator config environment now
      return .transition (some transition)
  | .steer call => do
      let decision ← call.perform config environment
      setEffort config environment decision.effort call.now
      return .decision decision
  | .actuate (.setEffort effort now) => do
      setEffort config environment effort now
      return .nothing
  | .actuate (.plan now) => do
      let plan ← plan config environment now
      return .plan plan
  | .actuate (.tick now) => do
      let transition ← tick config environment now
      return .transition transition
  | .actuate (.forceIdle now reason) => do
      let transition ← forceIdle config environment now reason
      return .transition transition

end ControlCall

def attempted (world : World) (call : ControlCall) : EStateM.Result Exn World Answer :=
  (call.perform config environment).run { world with now := call.now }

def carriedOut (world : World) (call : ControlCall) : World :=
  finalState (attempted config environment world call)

def runPath (world : World) (calls : List ControlCall) : World :=
  calls.foldl (carriedOut config environment) world

def answerOf : EStateM.Result Exn World Answer → Except Exn Answer
  | .ok answer _ => .ok answer
  | .error exception _ => .error exception

def observed (world : World) (call : ControlCall) : Observation :=
  let events := world.eventsSince (carriedOut config environment world call)
  { answer := answerOf (attempted config environment world call)
    plans := events.filterMap Event.plan
    commands := events.filterMap Event.command }

end Runs

/-! ## The calls as steps of a machine -/

inductive Switches (config : Config) : Action → List Command → Bool → Prop
  | idle (heatOff coolOff : Bool) :
      Switches config .idle
        [⟨config.nodePlugCool, false, coolOff⟩, ⟨config.nodePlugHeat, false, heatOff⟩]
        (heatOff && coolOff)
  | opposed (direction : Direction) :
      Switches config direction.action [⟨config.node direction.opposite, false, false⟩] false
  | turned (direction : Direction) (turnedOn : Bool) :
      Switches config direction.action
        [⟨config.node direction, true, turnedOn⟩,
          ⟨config.node direction.opposite, false, true⟩] turnedOn

def PathState.advanced (config : Config) (now : ℚ) (state : PathState) : PathState :=
  { state with actuator := state.actuator.advanceWindow config.control.windowS now }

def PathState.settled (wanted : Action) (now : ℚ) (state : PathState) : PathState :=
  { state with actuator := state.actuator.settled wanted now }

inductive PathStep (config : Config) (state : PathState) :
    ControlCall → Observation → PathState → Prop
  | initialized (now : ℚ) (commands : List Command) (success : Bool)
      (switches : Switches config .idle commands success) :
      PathStep config state (.initializeActuator now)
        ⟨if success then
          .ok (.transition (some ⟨.idle, ⟨.idle, 0, 0, 0, config.control.windowS, .startup⟩⟩))
        else .error .runtimeError, [], commands⟩
        (if success then
          { state with actuator := { state.actuator with
              windowStart := some now, idleSince := some now } }
        else state)
  | steered (call : ControllerCall) :
      PathStep config state (.steer call)
        ⟨.ok (.decision (state.controller.decision config call)), [], []⟩
        ⟨state.controller.updated config call, state.actuator.effortSet config.control
          (state.controller.decision config call).effort call.now⟩
  | effortSet (effort now : ℚ) :
      PathStep config state (.actuate (.setEffort effort now)) ⟨.ok .nothing, [], []⟩
        { state with actuator := state.actuator.effortSet config.control effort now }
  | planned (now : ℚ) (decided : ActuatorPlan)
      (plans : config.Plans now state.actuator decided) :
      PathStep config state (.actuate (.plan now)) ⟨.ok (.plan decided), [decided], []⟩
        (state.advanced config now)
  | unchanged (now : ℚ) (decided : ActuatorPlan)
      (plans : config.Plans now state.actuator decided)
      (same : decided.requestedAction = state.actuator.action) :
      PathStep config state (.actuate (.tick now)) ⟨.ok (.transition none), [decided], []⟩
        (state.advanced config now)
  | switched (now : ℚ) (decided : ActuatorPlan) (commands : List Command) (success : Bool)
      (plans : config.Plans now state.actuator decided)
      (different : decided.requestedAction ≠ state.actuator.action)
      (switches : Switches config decided.requestedAction commands success) :
      PathStep config state (.actuate (.tick now))
        ⟨.ok (.transition (if success then some ⟨decided.requestedAction, decided⟩ else none)),
          [decided], commands⟩
        (if success then (state.advanced config now).settled decided.requestedAction now
        else state.advanced config now)
  | alreadyIdle (now : ℚ) (reason : Reason) (idle : state.actuator.action = .idle) :
      PathStep config state (.actuate (.forceIdle now reason))
        ⟨.ok (.transition none), [], []⟩ state
  | idled (now : ℚ) (reason : Reason) (commands : List Command) (success : Bool)
      (active : state.actuator.action ≠ .idle)
      (switches : Switches config .idle commands success) :
      PathStep config state (.actuate (.forceIdle now reason))
        ⟨.ok (.transition (if success then some ⟨.idle, ⟨.idle, state.actuator.effort, 0, 0,
          config.control.windowS, reason⟩⟩ else none)), [], commands⟩
        (if success then state.settled .idle now else state)

variable {config : Config} {environment : Environment}

@[simp] theorem runPath_append (world : World) (calls : List ControlCall) (call : ControlCall) :
    runPath config environment world (calls ++ [call]) =
      carriedOut config environment (runPath config environment world calls) call :=
  List.foldl_append

theorem World.Commanded.path {world final : World}
    (commanded : world.Commanded environment final) : final.path = world.path := by
  unfold World.path
  rw [commanded.controller, commanded.actuator]

theorem switch_switches (tame : environment.Tame)
    (distinct : config.nodePlugHeat ≠ config.nodePlugCool) {action : Action}
    {world after : World} {success : Bool}
    (switching : (switch config environment action).run world = .ok success after) :
    ∃ added, after.log = added ++ world.log ∧ added.filterMap Event.plan = [] ∧
      Switches config action (added.filterMap Event.command) success := by
  rcases action.idle_or_direction with rfl | ⟨direction, rfl⟩
  · rw [switch_idle_run tame] at switching
    cases switching
    exact ⟨[_, _], rfl, rfl, .idle _ _⟩
  · rw [switch_action_run tame distinct] at switching
    dsimp only at switching
    split_ifs at switching with opposedOff
    · cases switching
      have turned : Switches config direction.action
          [⟨config.node direction, true,
              (world.sent environment (config.node direction.opposite) false).succeeds
                environment (config.node direction) true⟩,
            ⟨config.node direction.opposite, false,
              world.succeeds environment (config.node direction.opposite) false⟩]
          ((world.sent environment (config.node direction.opposite) false).succeeds
            environment (config.node direction) true) := by
        rw [opposedOff]
        exact .turned direction _
      exact ⟨[_, _], rfl, rfl, turned⟩
    · cases switching
      have opposed : Switches config direction.action
          [⟨config.node direction.opposite, false,
            world.succeeds environment (config.node direction.opposite) false⟩] false := by
        rw [Bool.eq_false_iff.mpr opposedOff]
        exact .opposed direction
      exact ⟨[_], rfl, rfl, opposed⟩

/-- The result of a call, with the events it has added, is one of the steps. -/
def Realises (config : Config) (start : World) (call : ControlCall)
    (result : EStateM.Result Exn World Answer) : Prop :=
  ∃ added, (finalState result).log = added ++ start.log ∧
    PathStep config start.path call
      ⟨answerOf result, added.filterMap Event.plan, added.filterMap Event.command⟩
      (finalState result).path

section Steps

variable (tame : environment.Tame) (distinct : config.nodePlugHeat ≠ config.nodePlugCool)
  (start : World)

include tame

theorem steer_realises (call : ControllerCall) :
    Realises config start (.steer call)
      ((ControlCall.perform config environment (.steer call)).run start) := by
  have sets (effort : ℚ) := setEffort_run config tame.quiet effort call.now
    { start.pointed.pointed with controller := start.controller.updated config call }
  rcases sets (start.controller.decision config call).effort with ⟨points, sets⟩
  simp only [ControlCall.perform, EStateM.run_bind, perform_run config tame.quiet, sets,
    EStateM.run_pure]
  exact ⟨[_], rfl, .steered call⟩

theorem setEffort_realises (effort now : ℚ) :
    Realises config start (.actuate (.setEffort effort now))
      ((ControlCall.perform config environment (.actuate (.setEffort effort now))).run start) := by
  rcases setEffort_run config tame.quiet effort now start with ⟨points, ran⟩
  simp only [ControlCall.perform, EStateM.run_bind, ran, EStateM.run_pure]
  exact ⟨[_], rfl, .effortSet effort now⟩

theorem plan_realises (now : ℚ) :
    Realises config start (.actuate (.plan now))
      ((ControlCall.perform config environment (.actuate (.plan now))).run start) := by
  rcases start.actuator.plan_advanceWindow config.control now with ⟨decided, plans⟩
  simp only [ControlCall.perform, EStateM.run_bind, plan_run tame.quiet start plans,
    EStateM.run_pure]
  exact ⟨[_], rfl, .planned now decided plans⟩

include distinct

theorem initializeActuator_realises (now : ℚ) :
    Realises config start (.initializeActuator now)
      ((ControlCall.perform config environment (.initializeActuator now)).run start) := by
  rcases switch_switches tame distinct (switch_idle_run tame start) with
      ⟨added, log, plans, switches⟩
  simp only [ControlCall.perform, EStateM.run_bind, initializeActuator_run tame]
  split_ifs with success
  · rw [success.1, success.2] at switches
    refine ⟨added, log, ?_⟩
    rw [plans]
    exact .initialized now _ true switches
  · rw [← Bool.and_eq_true, Bool.not_eq_true] at success
    rw [success] at switches
    refine ⟨added, log, ?_⟩
    rw [plans]
    exact .initialized now _ false switches

theorem switch_ticked {now : ℚ} {decided : ActuatorPlan} {after : World} {success : Bool}
    (switching : (switch config environment decided.requestedAction).run
      ((start.logged .ticked).planned config now decided) = .ok success after) :
    ∃ added, after.log = added ++ start.log ∧ added.filterMap Event.plan = [decided] ∧
      Switches config decided.requestedAction (added.filterMap Event.command) success ∧
      after.path = start.path.advanced config now := by
  rcases switch_switches tame distinct switching with ⟨added, log, noPlans, switches⟩
  have kept := (switch_commanded tame switching).path
  refine ⟨added ++ [⟨start.now, .planned decided⟩, ⟨start.now, .ticked⟩], ?_, ?_, ?_, kept⟩
  · rw [log, List.append_assoc]
    rfl
  · rw [List.filterMap_append, noPlans]
    rfl
  · rw [List.filterMap_append]
    change Switches config decided.requestedAction (added.filterMap Event.command ++ []) success
    rw [List.append_nil]
    exact switches

theorem tick_realises (now : ℚ) :
    Realises config start (.actuate (.tick now))
      ((ControlCall.perform config environment (.actuate (.tick now))).run start) := by
  have result := tick_result config tame now start
  simp only [ControlCall.perform, EStateM.run_bind]
  generalize (tick config environment now).run start = outcome at result ⊢
  cases result with
  | unchanged decided plans same => exact ⟨[_, _], rfl, .unchanged now decided plans same⟩
  | refused decided after plans different switching =>
      rcases switch_ticked tame distinct start switching with
          ⟨added, log, planned, switches, path⟩
      refine ⟨added, log, ?_⟩
      rw [planned]
      change PathStep config _ _ _ after.path
      rw [path]
      exact .switched now decided _ false plans different switches
  | switched decided after points plans different switching =>
      rcases switch_ticked tame distinct start switching with
          ⟨added, log, planned, switches, path⟩
      refine ⟨⟨after.now, .became decided.requestedAction⟩ :: added,
        congrArg (List.cons _) log, ?_⟩
      change PathStep config _ _ ⟨_, added.filterMap Event.plan, _⟩
        (after.path.settled decided.requestedAction now)
      rw [planned, path]
      exact .switched now decided _ true plans different switches

theorem forceIdle_realises (now : ℚ) (reason : Reason) :
    Realises config start (.actuate (.forceIdle now reason))
      ((ControlCall.perform config environment (.actuate (.forceIdle now reason))).run
        start) := by
  have result := forceIdle_result config tame now reason start
  have ends := forceIdle_ends config tame.quiet now reason start
  simp only [ControlCall.perform, EStateM.run_bind]
  generalize (forceIdle config environment now reason).run start = outcome at result ends ⊢
  cases result with
  | unchanged idle => exact ⟨[], rfl, .alreadyIdle now reason idle⟩
  | refused after active switching =>
      rcases switch_switches tame distinct switching with ⟨added, log, noPlans, switches⟩
      refine ⟨added, log, ?_⟩
      rw [noPlans]
      change PathStep config _ _ _ after.path
      rw [(switch_commanded tame switching).path]
      exact .idled now reason _ false active switches
  | switched after points transition active switching =>
      rcases switch_switches tame distinct switching with ⟨added, log, noPlans, switches⟩
      cases ends with
      | idled =>
          refine ⟨⟨after.now, .became .idle⟩ :: added, congrArg (List.cons _) log, ?_⟩
          change PathStep config _ _ ⟨_, added.filterMap Event.plan, _⟩
            (after.path.settled .idle now)
          rw [noPlans, (switch_commanded tame switching).path]
          exact .idled now reason _ true active switches

theorem observed_steps (world : World) (call : ControlCall) :
    PathStep config world.path call (observed config environment world call)
      (carriedOut config environment world call).path := by
  have realises : Realises config { world with now := call.now } call
      (attempted config environment world call) := by
    unfold attempted
    rcases call with now | call | call
    · exact initializeActuator_realises tame distinct _ now
    · exact steer_realises tame _ call
    · cases call with
      | setEffort effort now => exact setEffort_realises tame _ effort now
      | plan now => exact plan_realises tame _ now
      | tick now => exact tick_realises tame distinct _ now
      | forceIdle now reason => exact forceIdle_realises tame distinct _ now reason
  rcases realises with ⟨added, log, step⟩
  have events : world.eventsSince (carriedOut config environment world call) = added :=
    World.eventsSince_eq log
  unfold observed
  rw [events]
  exact step

end Steps

end BuranBrew.Host

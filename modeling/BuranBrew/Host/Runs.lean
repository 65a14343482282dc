import BuranBrew.Host.Commands

/-! # Runs of the actuator

A run is a sequence of method calls after a successful `initialize`, at the
times that the callers pass. Whatever a call raises, the next one finds the
attributes as they were left.
-/

namespace BuranBrew.Host

open Execution TimeProportionalActuator

inductive ActuatorCall
  | setEffort (effort now : ℚ)
  | plan (now : ℚ)
  | tick (now : ℚ)
  | forceIdle (now : ℚ) (reason : Reason)
  deriving DecidableEq, Repr

namespace ActuatorCall

def now : ActuatorCall → ℚ
  | .setEffort _ now | .plan now | .tick now | .forceIdle now _ => now

def perform [Rounding] (config : Config) (environment : Environment) : ActuatorCall → Py Unit
  | .setEffort effort now => TimeProportionalActuator.setEffort config environment effort now
  | .plan now => discard (TimeProportionalActuator.plan config environment now)
  | .tick now => discard (TimeProportionalActuator.tick config environment now)
  | .forceIdle now reason =>
      discard (TimeProportionalActuator.forceIdle config environment now reason)

def Nondecreasing : ℚ → List ActuatorCall → Prop
  | _, [] => True
  | start, call :: calls => start ≤ call.now ∧ Nondecreasing call.now calls

instance decidableNondecreasing :
    (start : ℚ) → (calls : List ActuatorCall) → Decidable (Nondecreasing start calls)
  | _, [] => isTrue trivial
  | start, call :: calls =>
      have := decidableNondecreasing call.now calls
      inferInstanceAs (Decidable (start ≤ call.now ∧ Nondecreasing call.now calls))

end ActuatorCall

variable (config : Config) (environment : Environment)

/-- The world when a call made at `call.now` is over. -/
def performed [Rounding] (world : World) (call : ActuatorCall) : World :=
  finalState ((call.perform config environment).run { world with now := call.now })

def runCalls [Rounding] (world : World) (calls : List ActuatorCall) : World :=
  calls.foldl (performed config environment) world

/-- `initialize` was called at `start` on a new actuator and succeeded. -/
def InitializedAt (start : ℚ) (initialPlugs : Int → Bool) (ready : World) : Prop :=
  ∃ transition, (initializeActuator config environment start).run
    (World.fresh start initialPlugs) = .ok transition ready

def readyAt (start : ℚ) (initialPlugs : Int → Bool) : World :=
  finalState ((initializeActuator config environment start).run
    (World.fresh start initialPlugs))

variable {config environment}

theorem initializedAt_readyAt (tame : environment.Tame) (start : ℚ)
    (initialPlugs : Int → Bool)
    (heatOff : (World.fresh start initialPlugs).succeeds environment
      config.nodePlugHeat false = true)
    (coolOff : ((World.fresh start initialPlugs).sent environment config.nodePlugHeat
      false).succeeds environment config.nodePlugCool false = true) :
    InitializedAt config environment start initialPlugs
      (readyAt config environment start initialPlugs) := by
  unfold InitializedAt readyAt
  rw [initializeActuator_run tame, if_pos ⟨heatOff, coolOff⟩]
  exact ⟨_, rfl⟩

theorem InitializedAt.bothOff {start : ℚ} {initialPlugs : Int → Bool} {ready : World}
    (initialized : InitializedAt config environment start initialPlugs ready) :
    ready.actuator.action = .idle ∧ BothOff config ready.plugs := by
  rcases initialized with ⟨transition, run⟩
  have outcome := initializeActuator_ensures config environment start
    (World.fresh start initialPlugs) rfl
  rw [run] at outcome
  exact outcome

variable [Rounding]

inductive CallResult (config : Config) (environment : Environment) (world : World) :
    ActuatorCall → World → Prop
  | effortSet (effort now : ℚ) (points : Nat) :
      CallResult config environment world (.setEffort effort now)
        (World.effortSet config effort now points { world with now })
  | planned (now : ℚ) (decided : ActuatorPlan)
      (plans : config.Plans now world.actuator decided) :
      CallResult config environment world (.plan now)
        (World.planned config now decided { world with now })
  | unchanged (now : ℚ) (decided : ActuatorPlan)
      (plans : config.Plans now world.actuator decided)
      (same : decided.requestedAction = world.actuator.action) :
      CallResult config environment world (.tick now)
        (World.planned config now decided (World.logged { world with now } .ticked))
  | refused (now : ℚ) (decided : ActuatorPlan) (after : World)
      (plans : config.Plans now world.actuator decided)
      (different : decided.requestedAction ≠ world.actuator.action)
      (switching : (switch config environment decided.requestedAction).run
        (World.planned config now decided (World.logged { world with now } .ticked)) =
          .ok false after) :
      CallResult config environment world (.tick now) after
  | switched (now : ℚ) (decided : ActuatorPlan) (after : World) (points : Nat)
      (plans : config.Plans now world.actuator decided)
      (different : decided.requestedAction ≠ world.actuator.action)
      (switching : (switch config environment decided.requestedAction).run
        (World.planned config now decided (World.logged { world with now } .ticked)) =
          .ok true after) :
      CallResult config environment world (.tick now)
        (after.settled decided.requestedAction now points)
  | alreadyIdle (now : ℚ) (reason : Reason) (idle : world.actuator.action = .idle) :
      CallResult config environment world (.forceIdle now reason) { world with now }
  | idleRefused (now : ℚ) (reason : Reason) (after : World)
      (active : world.actuator.action ≠ .idle)
      (switching : (switch config environment .idle).run { world with now } =
        .ok false after) :
      CallResult config environment world (.forceIdle now reason) after
  | idled (now : ℚ) (reason : Reason) (after : World) (points : Nat)
      (active : world.actuator.action ≠ .idle)
      (switching : (switch config environment .idle).run { world with now } =
        .ok true after) :
      CallResult config environment world (.forceIdle now reason)
        (after.settled .idle now points)

theorem performed_result (config : Config) (tame : environment.Tame) (world : World)
    (call : ActuatorCall) :
    CallResult config environment world call
      (performed config environment world call) := by
  unfold performed
  cases call with
  | setEffort effort now =>
      rcases setEffort_run config tame.quiet effort now { world with now } with
          ⟨points, ran⟩
      simp only [ActuatorCall.perform, ActuatorCall.now, ran]
      exact .effortSet effort now points
  | plan now =>
      rcases world.actuator.plan_advanceWindow config.control now with ⟨decided, plans⟩
      simp only [ActuatorCall.perform, ActuatorCall.now, finalState_discard]
      rw [plan_run tame.quiet { world with now } plans]
      exact .planned now decided plans
  | tick now =>
      have result := tick_result config tame now { world with now }
      simp only [ActuatorCall.perform, ActuatorCall.now, finalState_discard]
      generalize (tick config environment now).run { world with now } = outcome
        at result ⊢
      cases result with
      | unchanged decided plans same => exact .unchanged now decided plans same
      | refused decided after plans different switching =>
          exact .refused now decided after plans different switching
      | switched decided after points plans different switching =>
          exact .switched now decided after points plans different switching
  | forceIdle now reason =>
      have result := forceIdle_result config tame now reason { world with now }
      simp only [ActuatorCall.perform, ActuatorCall.now, finalState_discard]
      generalize (forceIdle config environment now reason).run { world with now } =
        outcome at result ⊢
      cases result with
      | unchanged idle => exact .alreadyIdle now reason idle
      | refused after active switching => exact .idleRefused now reason after active switching
      | switched after points _ active switching =>
          exact .idled now reason after points active switching

@[simp] theorem runCalls_nil (world : World) :
    runCalls config environment world [] = world := rfl

@[simp] theorem runCalls_cons (world : World) (call : ActuatorCall)
    (calls : List ActuatorCall) :
    runCalls config environment world (call :: calls) =
      runCalls config environment (performed config environment world call) calls :=
  rfl

theorem runCalls_append (world : World) (first second : List ActuatorCall) :
    runCalls config environment world (first ++ second) =
      runCalls config environment (runCalls config environment world first) second :=
  List.foldl_append

theorem runCalls_invariant {invariant : World → Prop}
    (preserves : ∀ world call, invariant world →
      invariant (performed config environment world call))
    {world : World} (initial : invariant world) (calls : List ActuatorCall) :
    invariant (runCalls config environment world calls) := by
  induction calls generalizing world with
  | nil => exact initial
  | cons call calls induction => exact induction (preserves world call initial)

/-- Whether every world of a run has a property is decided call by call, when
each call decides whether the property survives it. -/
theorem runCalls_forall_iff {property : World → Prop}
    {condition : World → ActuatorCall → Prop}
    (step : ∀ world call, property world →
      (property (performed config environment world call) ↔ condition world call))
    {world : World} (initial : property world) (calls : List ActuatorCall) :
    (∀ done rest, calls = done ++ rest →
        property (runCalls config environment world done)) ↔
      ∀ done call rest, calls = done ++ call :: rest →
        condition (runCalls config environment world done) call := by
  constructor
  · intro always done call rest split
    have before := always done (call :: rest) split
    have after := always (done ++ [call]) rest (by simp [split])
    rw [runCalls_append] at after
    exact (step _ call before).mp after
  · intro conditions done
    induction done using List.reverseRecOn with
    | nil => exact fun _ _ => initial
    | append_singleton done call induction =>
        intro rest split
        have before := induction (call :: rest) (by simp [split])
        rw [runCalls_append]
        exact (step _ call before).mpr (conditions done call rest (by simp [split]))

theorem ActuatorInvariant.performed {invariant : World → Prop}
    (rules : ActuatorInvariant config environment invariant) (world : World)
    (call : ActuatorCall) (holds : invariant world) :
    invariant (performed config environment world call) := by
  refine Keeps.finalState ?_ (rules.moved world call.now holds)
  cases call with
  | setEffort effort now => exact rules.setEffort effort now
  | plan now =>
      exact Ensures.bind (rules.plan now) fun _ => Ensures.pure fun _ holds => holds.1
  | tick now => exact Keeps.bind (rules.tick now) fun _ => Keeps.pure _
  | forceIdle now reason =>
      exact Keeps.bind (rules.forceIdle now reason) fun _ => Keeps.pure _

end BuranBrew.Host

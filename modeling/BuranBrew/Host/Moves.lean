import BuranBrew.Host.Decisions
import BuranBrew.Host.Runs
import BuranBrew.Host.Shutdown

/-! # What a call does to the attributes

The commands may raise anything here. A call returns at most one transition, and whether
it raises or not, the attributes are those of one of a few cases.
-/

namespace BuranBrew.Host

open Execution TimeProportionalActuator

variable {config : Config} {environment : Environment}

theorem Environment.Quiet.undisturbed (quiet : environment.Quiet) (base : World) :
    Undisturbed environment base :=
  fun world _ => quiet world

theorem Extends.not_noneFailed {base world : World} (failed : Extends base true world) :
    ¬NoneFailed base world := by
  rcases failed with ⟨_, added, log, seen⟩
  rcases seen rfl with ⟨event, among, failure⟩
  intro none
  have done := (noneFailed_iff added log).mp none event among
  rw [failure] at done
  cases done

section Reads

variable (quiet : environment.Quiet) {answer : World → Int → Int → ReadReply} {world : World}
  {node endpoint : Int}

include quiet

theorem readThrough_returned {value : Int}
    (returned : (answer world.pointed node endpoint).value = .ok value) :
    (readThrough environment answer node endpoint).run world =
      .ok value (world.pointed.answered node endpoint (answer world.pointed node endpoint)) := by
  simp only [readThrough, EStateM.run_bind, point_run quiet, EStateM.run_get, EStateM.run_set]
  rw [returned]
  rfl

theorem readThrough_raised {exception : Exn}
    (raised : (answer world.pointed node endpoint).value = .error exception) :
    (readThrough environment answer node endpoint).run world =
      .error exception
        (world.pointed.answered node endpoint (answer world.pointed node endpoint)) := by
  simp only [readThrough, EStateM.run_bind, point_run quiet, EStateM.run_get, EStateM.run_set]
  rw [raised]
  rfl

end Reads

namespace TimeProportionalActuator

theorem fails_reports {base : World} (undisturbed : Undisturbed environment base)
    (failed : Bool) (node : Int) (on : Bool) :
    Ensures (Extends base failed) (fails (setPlug environment node on))
      (fun now => Extends base (failed || now)) (fun _ => Extends base true) := by
  have sent : Ensures (Extends base failed) (setPlug environment node on)
      (fun _ => Extends base failed) (fun _ => Extends base true) := by
    apply setPlug_ensures
    · intro exception world extended interrupt
      rw [undisturbed world extended.1] at interrupt
      cases interrupt
    · intro world extended done
      have kept := extended.sent environment node on
      simpa [World.succeeds, done] using kept
    · intro world exception tookEffect extended raised
      have kept := extended.sent environment node on
      simpa [World.succeeds, raised] using kept
  exact fails_ensures sent (fun world extended => by simpa using extended)
    (fun _ world _ extended => by simpa using extended)

theorem switchOn_reports {base : World} (undisturbed : Undisturbed environment base)
    (nodes : List Int) :
    Ensures (Extends base false) (switchOn environment nodes)
      (fun success => Extends base (!success)) (fun _ => Extends base true) := by
  induction nodes with
  | nil => exact Ensures.pure fun _ extended => extended
  | cons node nodes induction =>
      unfold switchOn
      apply Ensures.bind (fails_reports undisturbed false node true)
      intro failed
      cases failed with
      | true => exact Ensures.pure fun _ extended => extended
      | false => exact induction

theorem switch_reports {base : World} (undisturbed : Undisturbed environment base)
    (config : Config) (action : Action) :
    Ensures (Extends base false) (switch config environment action)
      (fun success => Extends base (!success)) (fun _ => Extends base true) := by
  apply Ensures.bind (switchOff_reports undisturbed _ _ false)
  intro anyFailed
  cases anyFailed with
  | true => exact Ensures.pure fun _ extended => extended
  | false => exact switchOn_reports undisturbed _

theorem switch_actuator (config : Config) (environment : Environment) (action : Action)
    (self : Actuator) :
    Keeps (fun world => world.actuator = self) (switch config environment action) :=
  switch_keeps config (fun _ => id) (fun _ _ _ => id) action

end TimeProportionalActuator

/-- The ways in which `tick` can end when a command may raise anything. -/
inductive TickEnds [Rounding] (config : Config) (now : ℚ) (start : World) :
    EStateM.Result Exn World (Option ActuatorTransition) → Prop
  | unchanged (decided : ActuatorPlan)
      (plans : config.Plans now start.actuator decided)
      (same : decided.requestedAction = start.actuator.action) :
      TickEnds config now start (.ok none ((start.logged .ticked).planned config now decided))
  | refused (decided : ActuatorPlan) (final : World)
      (plans : config.Plans now start.actuator decided)
      (different : decided.requestedAction ≠ start.actuator.action)
      (kept : final.actuator = start.actuator.advanceWindow config.control.windowS now)
      (failed : Extends start true final) :
      TickEnds config now start (.ok none final)
  | raised (decided : ActuatorPlan) (exception : Exn) (final : World)
      (plans : config.Plans now start.actuator decided)
      (different : decided.requestedAction ≠ start.actuator.action)
      (kept : final.actuator = start.actuator.advanceWindow config.control.windowS now)
      (failed : Extends start true final) :
      TickEnds config now start (.error exception final)
  | switched (decided : ActuatorPlan) (final : World)
      (plans : config.Plans now start.actuator decided)
      (different : decided.requestedAction ≠ start.actuator.action)
      (settled : final.actuator =
        (start.actuator.advanceWindow config.control.windowS now).settled
          decided.requestedAction now) :
      TickEnds config now start (.ok (some ⟨decided.requestedAction, decided⟩) final)

theorem tick_ends [Rounding] (config : Config) (quiet : environment.Quiet) (now : ℚ)
    (start : World) :
    TickEnds config now start ((tick config environment now).run start) := by
  rcases start.actuator.plan_advanceWindow config.control now with ⟨decided, plans⟩
  by_cases same : decided.requestedAction = start.actuator.action
  · rw [tick_unchanged quiet plans same]
    exact .unchanged decided plans same
  · have extended : Extends start false ((start.logged .ticked).planned config now decided) :=
      ⟨Nat.le_succ _, [_, _], rfl, by simp⟩
    have switching := ((switch_reports (quiet.undisturbed start) config
      decided.requestedAction).startingAt extended).and
      ((switch_actuator config environment decided.requestedAction
        (start.actuator.advanceWindow config.control.windowS now)).startingAt rfl) _ rfl
    cases ran : (switch config environment decided.requestedAction).run
        ((start.logged .ticked).planned config now decided) with
    | error exception final =>
        rw [ran] at switching
        rw [tick_raised quiet plans same ran]
        exact .raised decided exception final plans same switching.2 switching.1
    | ok success final =>
        rw [ran] at switching
        rcases switching with ⟨reports, kept⟩
        cases success with
        | false =>
            rw [tick_refused quiet plans same ran]
            exact .refused decided final plans same kept reports
        | true =>
            have keptAction : final.actuator.action = start.actuator.action := by
              rw [kept, Actuator.advanceWindow_action]
            rcases tick_switched quiet plans same ran keptAction with ⟨points, returns⟩
            rw [returns]
            apply TickEnds.switched decided _ plans same
            rw [← kept]
            rfl

inductive IdleEnds (config : Config) (now : ℚ) (reason : Reason) (start : World) :
    EStateM.Result Exn World (Option ActuatorTransition) → Prop
  | kept (final : World) (kept : final.actuator = start.actuator) :
      IdleEnds config now reason start (.ok none final)
  | raised (exception : Exn) (final : World) (kept : final.actuator = start.actuator) :
      IdleEnds config now reason start (.error exception final)
  | idled (final : World) (active : start.actuator.action ≠ .idle)
      (settled : final.actuator = start.actuator.settled .idle now) :
      IdleEnds config now reason start (.ok (some ⟨.idle, ⟨.idle, start.actuator.effort,
        0, 0, config.control.windowS, reason⟩⟩) final)

theorem forceIdle_ends (config : Config) (quiet : environment.Quiet) (now : ℚ)
    (reason : Reason) (start : World) :
    IdleEnds config now reason start
      ((forceIdle config environment now reason).run start) := by
  by_cases idle : start.actuator.action = .idle
  · rw [forceIdle_unchanged idle]
    exact .kept start rfl
  · have switching := switch_actuator config environment .idle start.actuator start rfl
    cases ran : (switch config environment .idle).run start with
    | error exception final =>
        rw [ran] at switching
        rw [forceIdle_raised idle ran]
        exact .raised exception final switching
    | ok success final =>
        rw [ran] at switching
        change final.actuator = start.actuator at switching
        cases success with
        | false =>
            rw [forceIdle_refused idle ran]
            exact .kept final switching
        | true =>
            rw [forceIdle_switched quiet idle ran switching]
            apply IdleEnds.idled _ idle
            rw [← switching]
            rfl

theorem initialized_actuator (quiet : environment.Quiet) {start : ℚ} {plugs : Int → Bool}
    {ready : World} {first : ActuatorTransition}
    (initialized : (initializeActuator config environment start).run
      (World.fresh start plugs) = .ok first ready) :
    first.action = .idle ∧
      ready.actuator = { windowStart := some start, idleSince := some start } := by
  have switching := switch_actuator config environment .idle {} (World.fresh start plugs) rfl
  cases ran : (switch config environment .idle).run (World.fresh start plugs) with
  | error exception final =>
      simp only [initializeActuator, EStateM.run_bind, ran] at initialized
      cases initialized
  | ok success final =>
      rw [ran] at switching
      change final.actuator = {} at switching
      cases success with
      | false =>
          simp only [initializeActuator, EStateM.run_bind, ran] at initialized
          cases initialized
      | true =>
          simp only [initializeActuator, EStateM.run_bind, ran, Bool.not_true,
            Bool.false_eq_true, if_false, assign_run quiet, EStateM.run_pure] at initialized
          cases initialized
          simp [switching]

variable [Rounding]

namespace ActuatorCall

def answer (config : Config) (environment : Environment) :
    ActuatorCall → Py (Option ActuatorTransition)
  | .setEffort effort now => do
      TimeProportionalActuator.setEffort config environment effort now
      return none
  | .plan now => do
      discard (TimeProportionalActuator.plan config environment now)
      return none
  | .tick now => TimeProportionalActuator.tick config environment now
  | .forceIdle now reason => TimeProportionalActuator.forceIdle config environment now reason

end ActuatorCall

def returned (config : Config) (environment : Environment) (world : World)
    (call : ActuatorCall) : Option ActuatorTransition :=
  (valueOf ((call.answer config environment).run { world with now := call.now })).join

/-- The attributes before and after a call with the transition it returns. -/
inductive Moves (config : Config) (before : Actuator) :
    ActuatorCall → Actuator → Option ActuatorTransition → Prop
  | effortSet (effort now : ℚ) :
      Moves config before (.setEffort effort now)
        (before.effortSet config.control effort now) none
  | planned (now : ℚ) :
      Moves config before (.plan now)
        (before.advanceWindow config.control.windowS now) none
  | stayed (now : ℚ) :
      Moves config before (.tick now)
        (before.advanceWindow config.control.windowS now) none
  | switched (now : ℚ) (decided : ActuatorPlan)
      (plans : config.Plans now before decided)
      (different : decided.requestedAction ≠ before.action) :
      Moves config before (.tick now)
        ((before.advanceWindow config.control.windowS now).settled
          decided.requestedAction now)
        (some ⟨decided.requestedAction, decided⟩)
  | kept (now : ℚ) (reason : Reason) :
      Moves config before (.forceIdle now reason) before none
  | idled (now : ℚ) (reason : Reason) (active : before.action ≠ .idle) :
      Moves config before (.forceIdle now reason) (before.settled .idle now)
        (some ⟨.idle, ⟨.idle, before.effort, 0, 0, config.control.windowS, reason⟩⟩)

theorem performed_moves (config : Config) (quiet : environment.Quiet) (world : World)
    (call : ActuatorCall) :
    Moves config world.actuator call (performed config environment world call).actuator
      (returned config environment world call) := by
  unfold performed returned
  cases call with
  | setEffort effort now =>
      rcases setEffort_run config quiet effort now { world with now } with ⟨points, ran⟩
      simp only [ActuatorCall.perform, ActuatorCall.answer, ActuatorCall.now,
        EStateM.run_bind, ran, EStateM.run_pure]
      exact .effortSet effort now
  | plan now =>
      rcases world.actuator.plan_advanceWindow config.control now with ⟨decided, plans⟩
      have ran := plan_run quiet { world with now } plans
      have discarded : (discard (plan config environment now)).run { world with now } =
          .ok .unit (World.planned config now decided { world with now }) := by
        change EStateM.map (fun _ => PUnit.unit) (plan config environment now) _ = _
        unfold EStateM.run at ran
        rw [EStateM.map, ran]
      simp only [ActuatorCall.perform, ActuatorCall.answer, ActuatorCall.now,
        EStateM.run_bind, discarded, EStateM.run_pure]
      exact .planned now
  | tick now =>
      have ends := tick_ends config quiet now { world with now }
      simp only [ActuatorCall.perform, ActuatorCall.answer, ActuatorCall.now,
        finalState_discard]
      generalize (tick config environment now).run { world with now } = outcome at ends ⊢
      cases ends with
      | unchanged decided plans same => exact .stayed now
      | refused decided final plans different kept failed =>
          rw [finalState_ok, kept]
          exact .stayed now
      | raised decided exception final plans different kept failed =>
          rw [finalState_error, kept]
          exact .stayed now
      | switched decided final plans different settled =>
          rw [finalState_ok, settled]
          exact .switched now decided plans different
  | forceIdle now reason =>
      have ends := forceIdle_ends config quiet now reason { world with now }
      simp only [ActuatorCall.perform, ActuatorCall.answer, ActuatorCall.now,
        finalState_discard]
      generalize (forceIdle config environment now reason).run { world with now } = outcome
        at ends ⊢
      cases ends with
      | kept final same =>
          rw [finalState_ok, same]
          exact .kept now reason
      | raised exception final same =>
          rw [finalState_error, same]
          exact .kept now reason
      | idled final active settled =>
          rw [finalState_ok, settled]
          exact .idled now reason active

theorem performed_setEffort (config : Config) (quiet : environment.Quiet) (world : World)
    (effort now : ℚ) :
    (performed config environment world (.setEffort effort now)).actuator =
      world.actuator.effortSet config.control effort now := by
  rcases setEffort_run config quiet effort now { world with now } with ⟨points, ran⟩
  unfold performed
  rw [ActuatorCall.perform, ActuatorCall.now, ran]
  rfl

theorem runCalls_moves {invariant : Actuator → Prop} (config : Config)
    (quiet : environment.Quiet)
    (moves : ∀ before call after transition, invariant before →
      Moves config before call after transition → invariant after)
    {world : World} (initial : invariant world.actuator) (calls : List ActuatorCall) :
    invariant (runCalls config environment world calls).actuator := by
  let kept (world : World) : Prop := invariant world.actuator
  change kept (runCalls config environment world calls)
  apply runCalls_invariant _ initial
  intro world call holds
  exact moves _ _ _ _ holds (performed_moves config quiet world call)

end BuranBrew.Host

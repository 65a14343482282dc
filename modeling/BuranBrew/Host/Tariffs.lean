import BuranBrew.Foundation.Budgets
import BuranBrew.Host.LoopRules

/-! # What the methods spend

A tariff says what a plug command and a clock reading spend, and from it follows what each
method of the actuator and of the loop spends, however it ends. What reads, calls of
`set_effort` and records of the internal temperature spend is left to the methods that make
them.
-/

namespace BuranBrew.Host

open Execution TimeProportionalActuator

/-- Neither a read, nor a call of `set_effort`, nor a record of the internal temperature. -/
def EventKind.isRoutine : EventKind → Prop
  | .read _ _ | .setEffort _ _ => False
  | .emitted (.sensor metric _) => metric ≠ "internal"
  | _ => True

/-- What single calls spend, and that they keep an invariant. -/
structure Tariff (environment : Environment) (spent : World → ℚ) (invariant : World → Prop)
    (commands lag : ℚ) : Prop where
  commands_nonneg : 0 ≤ commands
  lag_nonneg : 0 ≤ lag
  elsewhere : ∀ world next : World, next.log = world.log → next.now = world.now →
    invariant world → invariant next ∧ spent next ≤ spent world
  logged : ∀ world kind, EventKind.isRoutine kind → invariant world →
    invariant (world.logged kind) ∧ spent (world.logged kind) ≤ spent world
  commanded : ∀ world node on, invariant world →
    let after := world.commanded node on (environment.setPlug world node on)
    invariant after ∧ spent after ≤ spent world + commands
  clocked : ∀ world, invariant world →
    let after := world.clocked (environment.clock world)
    invariant after ∧ spent after ≤ spent world + lag

variable {config : Config} {environment : Environment} {spent : World → ℚ}
  {invariant : World → Prop} {reads efforts commands lag budget : ℚ}

theorem call_spends {α : Type} (after : World → World) {result : World → Py α}
    (nonneg : 0 ≤ budget) (point : Spends spent invariant 0 (point environment))
    (bounded : ∀ world, invariant world →
      invariant (after world) ∧ spent (after world) ≤ spent world + budget)
    (results : ∀ world, Spends spent invariant 0 (result world)) :
    Spends spent invariant budget (do
      Host.point environment
      let world ← get
      set (after world)
      result world) := by
  apply point.first nonneg
  intro _ start
  apply Ensures.get_bind
  rintro current ⟨satisfied, before⟩
  rcases bounded current satisfied with ⟨kept, little⟩
  have stored : Ensures (fun world => world = current) (set (after current) : Py Unit)
      (fun _ => Until spent invariant (start + budget))
      (fun _ => Until spent invariant (start + budget)) :=
    Ensures.set fun _ _ => ⟨kept, little.trans (add_le_add_left before budget)⟩
  apply Ensures.bind stored
  intro _
  have rest := results current (start + budget)
  rwa [add_zero] at rest

theorem fails_spends {command : Py Unit} (spends : Spends spent invariant budget command) :
    Spends spent invariant budget (fails command) := by
  apply Spends.tryCatch (spends.andThen fun _ => Spends.pure _)
  intro exception
  split_ifs
  · exact Spends.pure _
  · exact Spends.throw _

theorem readGravity_spends [Rounding]
    (read : Spends spent invariant reads
      (readGravityMilli environment config.nodeSensor config.epGravity)) :
    Spends spent invariant reads (ControlLoop.readGravity config environment) := by
  apply Spends.tryCatch (read.andThen fun _ => Spends.pure _)
  intro exception
  split_ifs
  · exact Spends.pure _
  · exact Spends.throw _

namespace Tariff

variable (tariff : Tariff environment spent invariant commands lag)

include tariff

/-! ## Statements -/

theorem point : Spends spent invariant 0 (point environment) := by
  apply Spends.of_keeps
  intro limit
  apply point_keeps
  rintro world ⟨satisfied, before⟩
  rcases tariff.elsewhere world world.pointed rfl rfl satisfied with ⟨kept, little⟩
  exact ⟨kept, little.trans before⟩

theorem record {kind : EventKind} (routine : kind.isRoutine) :
    Spends spent invariant 0 (record kind) := by
  apply Spends.of_keeps
  intro limit
  apply record_keeps
  rintro world ⟨satisfied, before⟩
  rcases tariff.logged world kind routine satisfied with ⟨kept, little⟩
  exact ⟨kept, little.trans before⟩

theorem modify {update : World → World}
    (elsewhere : ∀ world, (update world).log = world.log ∧ (update world).now = world.now) :
    Spends spent invariant 0 (do Host.point environment; modify update) := by
  apply tariff.point.first le_rfl
  intro _
  apply Spends.of_keeps
  intro limit
  apply Ensures.modify
  rintro world ⟨satisfied, before⟩
  rcases elsewhere world with ⟨log, now⟩
  rcases tariff.elsewhere world (update world) log now satisfied with ⟨kept, little⟩
  exact ⟨kept, little.trans before⟩

theorem assign (update : Actuator → Actuator) :
    Spends spent invariant 0 (assign environment update) :=
  tariff.modify fun _ => ⟨rfl, rfl⟩

theorem setPlug (node : Int) (on : Bool) :
    Spends spent invariant commands (setPlug environment node on) := by
  apply call_spends (fun world =>
      world.commanded node on (environment.setPlug world node on)) tariff.commands_nonneg
    tariff.point fun world => tariff.commanded world node on
  intro world
  split
  · exact Spends.pure _
  · exact Spends.throw _

theorem readThrough {answer : World → Int → Int → ReadReply} {node endpoint : Int}
    (nonneg : 0 ≤ reads)
    (answered : ∀ world, invariant world →
      let after := world.answered node endpoint (answer world node endpoint)
      invariant after ∧ spent after ≤ spent world + reads) :
    Spends spent invariant reads (readThrough environment answer node endpoint) := by
  apply call_spends (fun world => world.answered node endpoint (answer world node endpoint))
    nonneg tariff.point answered
  intro world
  split
  · exact Spends.pure _
  · exact Spends.throw _

theorem monotonic : Spends spent invariant lag (monotonic environment) :=
  call_spends (fun world => world.clocked (environment.clock world)) tariff.lag_nonneg
    tariff.point tariff.clocked fun _ => Spends.pure _

theorem emit (connected : Bool) {telemetry : Telemetry}
    (routine : (EventKind.emitted telemetry).isRoutine) :
    Spends spent invariant 0 (emit environment connected telemetry) := by
  apply Spends.of_keeps
  intro limit
  have pointFree : PointFree (Until spent invariant limit) := by
    rintro world ⟨satisfied, before⟩
    rcases tariff.elsewhere world world.pointed rfl rfl satisfied with ⟨kept, little⟩
    exact ⟨kept, little.trans before⟩
  apply emit_keeps pointFree connected
  rintro world ⟨satisfied, before⟩
  rcases tariff.logged world _ routine satisfied with ⟨kept, little⟩
  exact ⟨kept, little.trans before⟩

theorem emitTransition (connected : Bool) (transition : Option ActuatorTransition) :
    Spends spent invariant 0
      (ControlLoop.emitTransition environment connected transition) := by
  cases transition with
  | none => exact Spends.pure _
  | some transition => exact Spends.get.andThen fun _ => tariff.emit connected trivial

theorem emitControlHeartbeat (connected : Bool) (plan : ActuatorPlan) :
    Spends spent invariant 0
      (ControlLoop.emitControlHeartbeat environment connected plan) :=
  Spends.get.andThen fun _ => tariff.emit connected trivial

/-! ## The actuator -/

theorem switchOff (wanted nodes : List Int) :
    Spends spent invariant ((nodes.filter (· ∉ wanted)).length * commands)
      (switchOff environment wanted nodes) := by
  have nonneg := tariff.commands_nonneg
  induction nodes with
  | nil =>
      rw [List.filter_nil, List.length_nil, Nat.cast_zero, zero_mul]
      exact Spends.pure _
  | cons node nodes induction =>
      by_cases member : node ∈ wanted
      · have same : TimeProportionalActuator.switchOff environment wanted (node :: nodes) =
            TimeProportionalActuator.switchOff environment wanted nodes := by
          simp [TimeProportionalActuator.switchOff, member]
        rw [same]
        simpa [member] using induction
      · have later : (0 : ℚ) ≤ (nodes.filter (· ∉ wanted)).length * commands := by positivity
        have both := (fails_spends (tariff.setPlug node false)).bind later fun failed =>
          induction.andThen fun laterFailed => Spends.pure (failed || laterFailed)
        have same : ((node :: nodes).filter (· ∉ wanted)).length * commands =
            commands + (nodes.filter (· ∉ wanted)).length * commands := by
          simp [member]
          ring
        rw [same]
        simpa only [TimeProportionalActuator.switchOff, if_neg member] using both

theorem switchOn (direction : Direction) :
    Spends spent invariant commands
      (switchOn environment (config.wantedNodes direction.action)) := by
  rw [config.wantedNodes_action]
  apply (fails_spends (tariff.setPlug (config.node direction) true)).andThen
  intro failed
  split_ifs
  · exact Spends.pure _
  · exact Spends.pure _

theorem switch (wanted : Action) :
    Spends spent invariant (2 * commands) (switch config environment wanted) := by
  have nonneg := tariff.commands_nonneg
  rcases wanted.idle_or_direction with rfl | ⟨direction, rfl⟩
  · have off : Spends spent invariant (2 * commands)
        (TimeProportionalActuator.switchOff environment []
          [config.nodePlugHeat, config.nodePlugCool]) := by
      simpa using tariff.switchOff [] [config.nodePlugHeat, config.nodePlugCool]
    apply off.andThen
    intro anyFailed
    split_ifs
    · exact Spends.pure _
    · exact Spends.pure _
  · have other : ([config.nodePlugHeat, config.nodePlugCool].filter
        (· ∉ config.wantedNodes direction.action)).length ≤ 1 := by
      rw [config.wantedNodes_action]
      cases direction with
      | heat =>
          rw [List.filter_cons_of_neg (by simp [Config.node])]
          exact List.length_filter_le _ _
      | cool =>
          rw [List.filter_cons]
          split_ifs
          · simp [Config.node]
          · exact List.length_filter_le _ _
    have off : Spends spent invariant commands
        (TimeProportionalActuator.switchOff environment
          (config.wantedNodes direction.action)
          [config.nodePlugHeat, config.nodePlugCool]) := by
      apply (tariff.switchOff _ _).weaken
      have atMost := mul_le_mul_of_nonneg_right (Nat.cast_le.mpr other : (_ : ℚ) ≤ _) nonneg
      simpa using atMost
    rw [two_mul]
    apply off.bind nonneg
    intro anyFailed
    split_ifs
    · exact (Spends.pure false).weaken nonneg
    · exact tariff.switchOn direction

theorem plan [Rounding] (now : ℚ) : Spends spent invariant 0 (plan config environment now) := by
  apply (tariff.assign _).andThen
  intro _
  apply Spends.get.andThen
  intro current
  dsimp only
  cases current.actuator.plan config.control now with
  | error exception => exact Spends.throw _
  | ok decided =>
      have planned : (EventKind.planned decided).isRoutine := trivial
      exact (tariff.record planned).andThen fun _ => Spends.pure _

theorem become (action : Action) : Spends spent invariant 0 (become environment action) := by
  have became : (EventKind.became action).isRoutine := trivial
  exact (tariff.assign _).andThen fun _ => tariff.record became

theorem commit (wanted previous : Action) (now : ℚ) :
    Spends spent invariant 0 (commit environment wanted previous now) := by
  unfold TimeProportionalActuator.commit
  by_cases leaves : previous.isActive ∧ wanted ≠ previous
  · rw [if_pos leaves]
    exact (tariff.assign _).andThen fun _ => (tariff.assign _).andThen fun _ =>
      tariff.become wanted
  · rw [if_neg leaves]
    split_ifs
    · exact (tariff.assign _).andThen fun _ => tariff.become wanted
    · exact tariff.become wanted

theorem tick [Rounding] (now : ℚ) :
    Spends spent invariant (2 * commands) (tick config environment now) := by
  have nonneg : 0 ≤ 2 * commands := mul_nonneg zero_le_two tariff.commands_nonneg
  have ticked : EventKind.ticked.isRoutine := trivial
  apply (tariff.record ticked).first nonneg
  intro _
  apply (tariff.plan now).first nonneg
  intro decided
  apply Spends.get.first nonneg
  intro current
  dsimp only
  split_ifs
  · exact (Spends.pure _).weaken nonneg
  · apply (tariff.switch _).andThen
    intro success
    split_ifs
    · exact Spends.pure _
    · exact (tariff.commit _ _ now).andThen fun _ => Spends.pure _

theorem forceIdle (now : ℚ) (reason : Reason) :
    Spends spent invariant (2 * commands) (forceIdle config environment now reason) := by
  have nonneg : 0 ≤ 2 * commands := mul_nonneg zero_le_two tariff.commands_nonneg
  apply Spends.get.first nonneg
  intro world
  dsimp only
  split_ifs
  · exact (Spends.pure _).weaken nonneg
  · apply (tariff.switch .idle).andThen
    intro success
    split_ifs
    · exact Spends.pure _
    · exact (tariff.assign _).andThen fun _ => (tariff.assign _).andThen fun _ =>
        (tariff.become .idle).andThen fun _ => Spends.get.andThen fun _ => Spends.pure _

theorem initializeActuator (now : ℚ) :
    Spends spent invariant (2 * commands) (initializeActuator config environment now) := by
  apply (tariff.switch .idle).andThen
  intro success
  split_ifs
  · exact Spends.throw _
  · exact (tariff.assign _).andThen fun _ => (tariff.assign _).andThen fun _ =>
      Spends.pure _

/-! ## The loop -/

theorem assignLoop (update : LoopState → LoopState) :
    Spends spent invariant 0 (ControlLoop.assign environment update) :=
  tariff.modify fun _ => ⟨rfl, rfl⟩

theorem updateController [Rounding] (internalC ambientC now : ℚ) :
    Spends spent invariant 0
      (PIController.update config environment internalC ambientC now) := by
  have stored (update : Controller → Controller) :
      Spends spent invariant 0 (PIController.assign environment update) :=
    tariff.modify fun _ => ⟨rfl, rfl⟩
  exact Spends.get.andThen fun _ => (stored _).andThen fun _ => (stored _).andThen fun _ =>
    Spends.get.andThen fun _ => Spends.pure _

theorem setEffort [Rounding]
    (recorded : ∀ effort wasStale, Spends spent invariant efforts
      (Host.record (.setEffort effort wasStale)))
    (nonneg : 0 ≤ efforts) (effort now : ℚ) :
    Spends spent invariant efforts (setEffort config environment effort now) := by
  apply Spends.get.first nonneg
  intro world
  dsimp only
  split_ifs
  · exact (tariff.assign _).first nonneg fun _ => (tariff.assign _).first nonneg fun _ =>
      (tariff.assign _).first nonneg fun _ => recorded _ _
  · exact (tariff.assign _).first nonneg fun _ => (tariff.assign _).first nonneg fun _ =>
      recorded _ _

theorem steer [Rounding]
    (recorded : ∀ effort wasStale, Spends spent invariant efforts
      (Host.record (.setEffort effort wasStale)))
    (nonneg : 0 ≤ efforts) (connected : Bool) (ambientC internalC : ℚ) :
    Spends spent invariant (lag + (efforts + 2 * commands))
      (ControlLoop.steer config environment connected ambientC internalC) := by
  have switches : 0 ≤ 2 * commands := mul_nonneg zero_le_two tariff.commands_nonneg
  have later : 0 ≤ efforts + 2 * commands := add_nonneg nonneg switches
  apply tariff.monotonic.bind later
  intro now
  apply (tariff.assignLoop _).first later
  intro _
  apply (tariff.assignLoop _).first later
  intro _
  apply Spends.get.first later
  intro _
  apply (tariff.updateController _ _ now).first later
  intro decision
  apply (tariff.assignLoop _).first later
  intro _
  apply (tariff.setEffort recorded nonneg _ now).bind switches
  intro _
  apply (tariff.tick now).andThen
  intro transition
  exact (tariff.emitTransition connected transition).andThen fun _ => Spends.pure _

/-- Three reads, a call of `set_effort`, two clock readings and two ticks. -/
theorem controlUpdate [Rounding]
    (reads_nonneg : 0 ≤ reads)
    (answered : ∀ world node endpoint reply, invariant world →
      let after := world.answered node endpoint reply
      invariant after ∧ spent after ≤ spent world + reads)
    (efforts_nonneg : 0 ≤ efforts)
    (recorded : ∀ effort wasStale, Spends spent invariant efforts
      (Host.record (.setEffort effort wasStale)))
    (connected : Bool)
    (emitted : ∀ internalC, Spends spent invariant 0
      (Host.emit environment connected (.sensor "internal" internalC))) :
    Spends spent invariant (3 * reads + efforts + 2 * lag + 4 * commands)
      (ControlLoop.controlUpdate config environment connected) := by
  have commands_nonneg := tariff.commands_nonneg
  have lag_nonneg := tariff.lag_nonneg
  have read (answer : World → Int → Int → ReadReply) (node endpoint : Int) :
      Spends spent invariant reads (Host.readThrough environment answer node endpoint) :=
    tariff.readThrough reads_nonneg fun world => answered world node endpoint _
  have temperatures : Spends spent invariant (reads + reads)
      (ControlLoop.readTemperatures config environment) := by
    apply Spends.tryCatch
    · exact (read _ _ _).bind reads_nonneg fun _ => (read _ _ _).andThen fun _ => Spends.pure _
    · intro exception
      split_ifs
      · exact Spends.pure _
      · exact Spends.throw _
  have report (ambientC internalC : ℚ) (decision : ControlDecision) :
      Spends spent invariant (reads + (lag + 2 * commands))
        (ControlLoop.report config environment connected ambientC internalC decision) := by
    have switches : 0 ≤ 2 * commands := by positivity
    have metric {metric : String} (other : metric ≠ "internal") (value : ℚ) :
        Spends spent invariant 0 (Host.emit environment connected (.sensor metric value)) :=
      tariff.emit connected other
    have rest (sg : Option ℚ) : Spends spent invariant 0 (do
        let action := (← get).actuator.action
        Host.emit environment connected
          (.state ambientC internalC sg action decision.effort)) :=
      Spends.get.andThen fun _ => tariff.emit connected trivial
    apply (readGravity_spends (read _ _ _)).bind (add_nonneg lag_nonneg switches)
    intro sg
    apply tariff.monotonic.bind switches
    intro now
    apply (tariff.tick now).andThen
    intro transition
    apply (tariff.emitTransition connected transition).andThen
    intro _
    apply (tariff.plan now).andThen
    intro plan
    apply (tariff.emitControlHeartbeat connected plan).andThen
    intro _
    apply (metric (by simp) ambientC).andThen
    intro _
    apply (emitted internalC).andThen
    intro _
    cases sg with
    | none => exact rest none
    | some sg => exact (metric (by simp) sg).andThen fun _ => rest (some sg)
  have later : 0 ≤ lag + (efforts + 2 * commands) + (reads + (lag + 2 * commands)) := by
    positivity
  have total : 3 * reads + efforts + 2 * lag + 4 * commands =
      reads + reads + (lag + (efforts + 2 * commands) + (reads + (lag + 2 * commands))) := by
    ring
  rw [total]
  apply temperatures.bind later
  intro temperatures
  cases temperatures with
  | none => exact (Spends.pure _).weaken later
  | some temperatures =>
      rcases temperatures with ⟨ambientC, internalC⟩
      exact (tariff.steer recorded efforts_nonneg connected ambientC internalC).bind
        (by positivity) fun decision => report ambientC internalC decision

theorem finish (connected : Bool) :
    Spends spent invariant (lag + 2 * commands)
      (ControlLoop.finish config environment connected) := by
  have switches : 0 ≤ 2 * commands := mul_nonneg zero_le_two tariff.commands_nonneg
  exact tariff.monotonic.bind switches fun now => (tariff.forceIdle now .shutdown).andThen
    fun transition => tariff.emitTransition connected transition

end Tariff

end BuranBrew.Host

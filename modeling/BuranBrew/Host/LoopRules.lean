import BuranBrew.Host.ControlLoop
import BuranBrew.Host.Invariants

/-! # Invariants of the control loop

The loop hands every clock reading to the actuator before time passes again.
An invariant therefore comes with a second predicate, for the worlds in which
the last reading is still current.
-/

namespace BuranBrew.Host

open Execution TimeProportionalActuator

variable {config : Config} {environment : Environment} {invariant : World → Prop}

theorem monotonic_ensures {sampled : ℚ → World → Prop} (pointFree : PointFree invariant)
    (clocked : ∀ world, invariant world → let reading := environment.clock world
      sampled reading (world.clocked reading)) :
    Ensures invariant (monotonic environment) sampled (fun _ => invariant) := by
  refine Ensures.bind (point_keeps pointFree) fun _ =>
    Ensures.get_bind fun current holds => ?_
  have reading := clocked current holds
  exact Ensures.bind (Ensures.set fun _ _ => reading) fun _ => Ensures.pure fun _ => id

theorem emit_keeps (pointFree : PointFree invariant) (connected : Bool)
    {telemetry : Telemetry} (emitted : ∀ world, invariant world →
      invariant (world.logged (.emitted telemetry))) :
    Keeps invariant (emit environment connected telemetry) := by
  refine Keeps.bind (point_keeps pointFree) fun _ => ?_
  cases connected with
  | false => exact Keeps.pure _
  | true =>
      refine Keeps.bind Keeps.get fun world => ?_
      split
      · exact record_keeps emitted
      · split_ifs
        · exact Keeps.pure _
        · exact Keeps.throw _

theorem emitTransition_keeps (pointFree : PointFree invariant) (connected : Bool)
    (emitted : ∀ world telemetry, invariant world →
      invariant (world.logged (.emitted telemetry)))
    (transition : Option ActuatorTransition) :
    Keeps invariant (ControlLoop.emitTransition environment connected transition) := by
  cases transition with
  | none => exact Keeps.pure _
  | some transition =>
      exact Keeps.bind Keeps.get fun _ => emit_keeps pointFree connected
        fun world => emitted world _

theorem readThrough_keeps (pointFree : PointFree invariant)
    (answered : ∀ world node endpoint reply, invariant world →
      invariant (world.answered node endpoint reply))
    (answer : World → Int → Int → ReadReply) (node endpoint : Int) :
    Keeps invariant (readThrough environment answer node endpoint) := by
  apply Keeps.bind (point_keeps pointFree)
  intro _
  apply Ensures.get_bind
  intro current holds
  have stored : Ensures (fun world => world = current)
      (set (current.answered node endpoint (answer current node endpoint)) : Py Unit)
      (fun _ => invariant) (fun _ => invariant) :=
    Ensures.set fun _ _ => answered current node endpoint _ holds
  apply Ensures.bind stored
  intro _
  split
  · exact Keeps.pure _
  · exact Keeps.throw _

variable [Rounding]

structure LoopInvariant (config : Config) (environment : Environment)
    (invariant : World → Prop) (sampled : ℚ → World → Prop) : Prop where
  pointFree : PointFree invariant
  sampledPointFree : ∀ now, PointFree (sampled now)
  released : ∀ now world, sampled now world → invariant world
  clocked : ∀ world, invariant world → let reading := environment.clock world
    sampled reading (world.clocked reading)
  slept : ∀ world, invariant world →
    invariant (world.slept config.control.actuatorTickS)
  answered : ∀ world node endpoint reply, invariant world →
    invariant (world.answered node endpoint reply)
  emitted : ∀ world telemetry, invariant world →
    invariant (world.logged (.emitted telemetry))
  remembered : ∀ now world controller loop, sampled now world →
    sampled now { world with controller, loop }
  setEffort : ∀ effort now, Ensures (sampled now)
    (setEffort config environment effort now) (fun _ => sampled now) (fun _ => invariant)
  tick : ∀ now, Ensures (sampled now) (tick config environment now)
    (fun _ => invariant) (fun _ => invariant)
  plan : ∀ now, Keeps invariant (plan config environment now)
  forceIdle : ∀ now reason, Ensures (sampled now)
    (forceIdle config environment now reason) (fun _ => invariant) (fun _ => invariant)

namespace LoopInvariant

variable {sampled : ℚ → World → Prop}
  (rules : LoopInvariant config environment invariant sampled)

include rules

theorem monotonic : Ensures invariant (monotonic environment) sampled
    (fun _ => invariant) :=
  monotonic_ensures rules.pointFree rules.clocked

theorem sleep : Keeps invariant (sleep environment config.control.actuatorTickS) :=
  Keeps.bind (point_keeps rules.pointFree) fun _ => Ensures.modify rules.slept

theorem readThrough (answer : World → Int → Int → ReadReply) (node endpoint : Int) :
    Keeps invariant (readThrough environment answer node endpoint) :=
  readThrough_keeps rules.pointFree rules.answered answer node endpoint

theorem emit (connected : Bool) (telemetry : Telemetry) :
    Keeps invariant (emit environment connected telemetry) :=
  emit_keeps rules.pointFree connected fun world => rules.emitted world telemetry

theorem emitTransition (connected : Bool) (transition : Option ActuatorTransition) :
    Keeps invariant (ControlLoop.emitTransition environment connected transition) :=
  emitTransition_keeps rules.pointFree connected rules.emitted transition

theorem readGravity : Keeps invariant (ControlLoop.readGravity config environment) :=
  Keeps.fallback none (Keeps.bind (rules.readThrough _ _ _) fun _ => Keeps.pure _)

theorem readTemperatures :
    Keeps invariant (ControlLoop.readTemperatures config environment) :=
  Keeps.fallback none (Keeps.bind (rules.readThrough _ _ _) fun _ =>
    Keeps.bind (rules.readThrough _ _ _) fun _ => Keeps.pure _)

/-- While a clock reading is current, only the plugs can endanger it. -/
theorem sampledPoint (now : ℚ) : Ensures (sampled now) (point environment)
    (fun _ => sampled now) (fun _ => invariant) :=
  (point_keeps (rules.sampledPointFree now)).raising fun _ => rules.released now

theorem assignLoop (now : ℚ) (update : LoopState → LoopState) :
    Ensures (sampled now) (ControlLoop.assign environment update)
      (fun _ => sampled now) (fun _ => invariant) :=
  Ensures.bind (rules.sampledPoint now) fun _ =>
    Ensures.modify fun world => rules.remembered now world world.controller _

theorem assignController (now : ℚ) (update : Controller → Controller) :
    Ensures (sampled now) (PIController.assign environment update)
      (fun _ => sampled now) (fun _ => invariant) :=
  Ensures.bind (rules.sampledPoint now) fun _ =>
    Ensures.modify fun world holds => rules.remembered now world _ world.loop holds

theorem updateController (internalC ambientC now : ℚ) :
    Ensures (sampled now) (PIController.update config environment internalC ambientC now)
      (fun _ => sampled now) (fun _ => invariant) :=
  Ensures.bind Ensures.get fun _ => Ensures.bind (rules.assignController now _) fun _ =>
    Ensures.bind (rules.assignController now _) fun _ =>
    Ensures.bind Ensures.get fun _ => Ensures.pure fun _ => id

theorem steer (connected : Bool) (ambientC internalC : ℚ) :
    Keeps invariant (ControlLoop.steer config environment connected ambientC internalC) := by
  refine Ensures.bind rules.monotonic fun now => ?_
  refine Ensures.bind (rules.assignLoop now _) fun _ =>
    Ensures.bind (rules.assignLoop now _) fun _ => Ensures.bind Ensures.get fun _ =>
    Ensures.bind (rules.updateController _ _ now) fun decision => ?_
  refine Ensures.bind (rules.assignLoop now _) fun _ =>
    Ensures.bind (rules.setEffort _ now) fun _ => Ensures.bind (rules.tick now)
    fun transition => ?_
  exact Keeps.bind (rules.emitTransition connected transition) fun _ => Keeps.pure _

theorem report (connected : Bool) (ambientC internalC : ℚ) (decision : ControlDecision) :
    Keeps invariant (ControlLoop.report config environment connected ambientC internalC
      decision) := by
  have rest (sg : Option ℚ) : Keeps invariant (do
      let action := (← get).actuator.action
      Host.emit environment connected (.state ambientC internalC sg action
        decision.effort)) :=
    Keeps.bind Keeps.get fun _ => rules.emit connected _
  refine Keeps.bind rules.readGravity fun sg => Ensures.bind rules.monotonic fun now => ?_
  refine Ensures.bind (rules.tick now) fun transition =>
    Keeps.bind (rules.emitTransition connected transition) fun _ =>
    Keeps.bind (rules.plan now) fun plan => ?_
  refine Keeps.bind (Keeps.bind Keeps.get fun _ => rules.emit connected _) fun _ =>
    Keeps.bind (rules.emit connected _) fun _ => Keeps.bind (rules.emit connected _)
    fun _ => ?_
  cases sg with
  | none => exact rest none
  | some sg => exact Keeps.bind (rules.emit connected _) fun _ => rest (some sg)

theorem controlUpdate (connected : Bool) :
    Keeps invariant (ControlLoop.controlUpdate config environment connected) := by
  refine Keeps.bind rules.readTemperatures fun temperatures => ?_
  rcases temperatures with _ | ⟨ambientC, internalC⟩
  · exact Keeps.pure _
  · exact Keeps.bind (rules.steer connected ambientC internalC) fun decision =>
      rules.report connected ambientC internalC decision

theorem iteration (connected : Bool) (nextSensorUpdate : ℚ) :
    Keeps invariant
      (ControlLoop.iteration config environment connected nextSensorUpdate) := by
  have rest (next : ℚ) : Keeps invariant (do
      Host.sleep environment config.control.actuatorTickS
      return next) :=
    Keeps.bind rules.sleep fun _ => Keeps.pure _
  refine Ensures.bind rules.monotonic fun now => Ensures.bind (rules.tick now)
    fun transition => Keeps.bind (rules.emitTransition connected transition) fun _ => ?_
  split_ifs
  · refine Keeps.bind (rules.controlUpdate connected) fun _ =>
      Ensures.bind rules.monotonic fun now => ?_
    rw [pure_bind]
    exact (rest _).strengthen (rules.released now)
  · exact rest _

theorem loop (connected : Bool) (rounds : Nat) (nextSensorUpdate : ℚ) :
    Keeps invariant
      (ControlLoop.loop config environment connected rounds nextSensorUpdate) := by
  induction rounds generalizing nextSensorUpdate with
  | zero => exact Keeps.pure _
  | succ rounds induction =>
      exact Keeps.bind (rules.iteration connected nextSensorUpdate) fun next =>
        induction next

theorem finish (connected : Bool) :
    Keeps invariant (ControlLoop.finish config environment connected) :=
  Ensures.bind rules.monotonic fun now => Ensures.bind (rules.forceIdle now .shutdown)
    fun transition => rules.emitTransition connected transition

/-- `run` keeps what holds when `initialize` is done. -/
theorem run {before : World → Prop} (connected : Bool) (rounds : Nat)
    (starts : Ensures before (ControlLoop.start config environment connected)
      (fun _ => invariant) (fun _ => invariant)) :
    Ensures before (ControlLoop.run config environment connected rounds)
      (fun _ => invariant) (fun _ => invariant) := by
  apply Ensures.bind starts
  intro nextSensorUpdate
  apply Keeps.tryCatch
  · exact Keeps.bind (rules.loop connected rounds nextSensorUpdate) fun _ => Keeps.pure _
  · exact fun exception => Keeps.bind (rules.finish connected) fun _ => Keeps.throw exception

end LoopInvariant

/-- Invariants of the actuator are invariants of the loop, in any environment. -/
theorem ActuatorInvariant.loop (rules : ActuatorInvariant config environment invariant) :
    LoopInvariant config environment invariant (fun _ => invariant) where
  pointFree := rules.pointFree
  sampledPointFree _ := rules.pointFree
  released _ _ holds := holds
  clocked world holds := rules.logged _ _ _ rfl (rules.moved world _ holds)
  slept world holds := rules.logged _ _ _ rfl (rules.moved world _ holds)
  answered world _ _ _ holds :=
    rules.logged _ _ _ rfl (rules.moved world _ holds)
  emitted world _ holds := rules.logged world _ _ rfl holds
  remembered _ world controller loop holds := rules.remembered world controller loop holds
  setEffort := rules.setEffort
  tick := rules.tick
  plan now := (rules.plan now).weaken (fun _ => id) (fun _ _ holds => holds.1)
    (fun _ _ => id)
  forceIdle := rules.forceIdle

end BuranBrew.Host

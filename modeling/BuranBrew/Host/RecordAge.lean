import BuranBrew.Host.Supply
import BuranBrew.Host.Tariffs

/-! # How old a recorded temperature is

Between the read of the internal temperature and its record lie two clock readings, two
ticks and the read of the gravity.
-/

namespace BuranBrew.Host

open Execution History TimeProportionalActuator

section Definitions

variable [Rounding] (served : ℚ → Int → Prop) (config : Config) (age : ℚ)

/-- A temperature is recorded not long after it was served. -/
def RecentRecord (event : Event) (_ : List Event) : Prop :=
  ∀ internalC, event.kind = .emitted (.sensor "internal" internalC) →
    Heard served config age internalC event.time

def Recent (world : World) : Prop := Throughout (RecentRecord served config age) world.log

end Definitions

theorem EventKind.isRoutine.not_internal {kind : EventKind} (routine : kind.isRoutine)
    (internalC : ℚ) : kind ≠ .emitted (.sensor "internal" internalC) := by
  rintro rfl
  exact routine rfl

variable [Rounding] {served : ℚ → Int → Prop} {age : ℚ} {config : Config}
  {environment : Environment} {reads commands lag limit : ℚ} {world next : World} {event : Event}

theorem Recent.logged (recent : Recent served config age world)
    (log : next.log = event :: world.log)
    (plain : ∀ internalC, event.kind ≠ .emitted (.sensor "internal" internalC)) :
    Recent served config age next := by
  have holds : RecentRecord served config age event world.log :=
    fun internalC record => absurd record (plain internalC)
  rw [Recent, log, throughout_cons]
  exact ⟨holds, recent⟩

/-! ## A control update -/

section Updates

variable (within : environment.Within reads commands) (nonneg : 0 ≤ lag)
  (clock : ∀ world, environment.clock world ≤ world.now + lag)

include within nonneg clock

theorem recent_tariff : Tariff environment World.now (Recent served config age) commands lag where
  commands_nonneg := within.commands_nonneg
  lag_nonneg := nonneg
  elsewhere world next log now recent := by
    refine ⟨?_, now.le⟩
    rw [Recent, log]
    exact recent
  logged world kind routine recent := ⟨recent.logged rfl routine.not_internal, le_rfl⟩
  commanded world node on recent :=
    ⟨recent.logged rfl (by simp), add_le_add_right (within.setPlug world node on) world.now⟩
  clocked world recent := ⟨recent.logged rfl (by simp), clock world⟩

variable (connected : Bool)

theorem steer_recent (ambientC internalC : ℚ) :
    Spends World.now (Recent served config age) (lag + 2 * commands)
      (ControlLoop.steer config environment connected ambientC internalC) := by
  have tariff : Tariff environment World.now (Recent served config age) commands lag :=
    recent_tariff within nonneg clock
  have setEffort (effort : ℚ) (wasStale : Bool) : Spends World.now (Recent served config age) 0
      (record (.setEffort effort wasStale)) :=
    Spends.of_keeps fun _ => record_keeps fun _ holds =>
      ⟨holds.1.logged rfl (by simp), holds.2⟩
  have steered : Spends World.now (Recent served config age) (lag + (0 + 2 * commands))
      (ControlLoop.steer config environment connected ambientC internalC) :=
    tariff.steer setEffort le_rfl connected ambientC internalC
  rwa [zero_add] at steered

/-- The record comes when so much time has passed since the update has begun to report. -/
theorem report_recent (ambientC internalC : ℚ) (decision : ControlDecision)
    (recorded : Heard served config age internalC (limit + reads + lag + 2 * commands)) :
    Ensures (Until World.now (Recent served config age) limit)
      (ControlLoop.report config environment connected ambientC internalC decision)
      (fun _ => Recent served config age) (fun _ => Recent served config age) := by
  have tariff : Tariff environment World.now (Recent served config age) commands lag :=
    recent_tariff within nonneg clock
  have emitInternal (limit : ℚ) (recorded : Heard served config age internalC limit) :
      Ensures (Until World.now (Recent served config age) limit)
        (emit environment connected (.sensor "internal" internalC))
        (fun _ => Recent served config age) (fun _ => Recent served config age) := by
    have emitted : Keeps (Until World.now (Recent served config age) limit)
        (emit environment connected (.sensor "internal" internalC)) := by
      apply emit_keeps (fun _ => id) connected
      rintro world ⟨recent, before⟩
      rcases recorded with ⟨instant, value, serves, same, within⟩
      refine ⟨?_, before⟩
      rw [Recent, World.logged_log, throughout_cons]
      refine ⟨?_, recent⟩
      rintro _ ⟨⟩
      exact ⟨instant, value, serves, same, before.trans within⟩
    exact emitted.weaken (fun _ => id) (fun _ _ => And.left) (fun _ _ => And.left)
  have rest (sg : Option ℚ) : Keeps (Recent served config age) (do
      let action := (← get).actuator.action
      emit environment connected (.state ambientC internalC sg action decision.effort)) := by
    apply Keeps.bind Keeps.get
    intro world
    have state : (EventKind.emitted
        (.state ambientC internalC sg world.actuator.action decision.effort)).isRoutine :=
      trivial
    exact (tariff.emit connected state).keeps
  have read : Spends World.now (Recent served config age) reads
      (readGravityMilli environment config.nodeSensor config.epGravity) :=
    tariff.readThrough within.reads_nonneg fun world recent =>
      ⟨recent.logged rfl (by simp), add_le_add_right (within.gravity world _ _) world.now⟩
  apply Ensures.bind ((readGravity_spends read).within limit)
  intro sg
  apply Ensures.bind (tariff.monotonic.within _)
  intro now
  apply Ensures.bind ((tariff.tick now).within _)
  intro transition
  apply Ensures.bind ((tariff.emitTransition connected transition).still _)
  intro _
  apply Ensures.bind ((tariff.plan now).still _)
  intro plan
  apply Ensures.bind ((tariff.emitControlHeartbeat connected plan).still _)
  intro _
  have ambient : (EventKind.emitted (.sensor "ambient" ambientC)).isRoutine := by
    simp [EventKind.isRoutine]
  apply Ensures.bind ((tariff.emit connected ambient).still _)
  intro _
  apply Ensures.bind (emitInternal _ recorded)
  intro _
  cases sg with
  | none => exact rest none
  | some sg =>
      have gravity : (EventKind.emitted (.sensor "gravity" sg)).isRoutine := by
        simp [EventKind.isRoutine]
      exact Keeps.bind (tariff.emit connected gravity).keeps fun _ => rest (some sg)

end Updates

/-- How long after a temperature was served it may be recorded. -/
def recordAge (reads commands lag : ℚ) : ℚ := 2 * reads + 2 * lag + 4 * commands

section Runs

variable (supplied : environment.Supplied served config reads lag)
  (within : environment.Within reads commands) (nonneg : 0 ≤ lag) (connected : Bool)

include supplied within nonneg

theorem controlUpdate_recent :
    Keeps (Recent served config (recordAge reads commands lag))
      (ControlLoop.controlUpdate config environment connected) := by
  have tariff : Tariff environment World.now
      (Recent served config (recordAge reads commands lag)) commands lag :=
    recent_tariff within nonneg supplied.clock
  have pointFree : PointFree (Recent served config (recordAge reads commands lag)) :=
    fun world recent => (tariff.elsewhere world world.pointed rfl rfl recent).1
  have answered (world : World) (node endpoint : Int) (reply : ReadReply)
      (recent : Recent served config (recordAge reads commands lag) world) :
      Recent served config (recordAge reads commands lag)
        (world.answered node endpoint reply) :=
    recent.logged rfl (by simp)
  apply Ensures.bind (readTemperatures_ensures pointFree answered supplied)
  intro temperatures
  cases temperatures with
  | none => exact Ensures.pure fun _ => And.left
  | some temperatures =>
      rcases temperatures with ⟨ambientC, internalC⟩
      apply Ensures.each
      rintro start ⟨recent, read⟩
      rcases read ambientC internalC rfl with ⟨instant, value, serves, same, before⟩
      apply Ensures.bind (((steer_recent within nonneg supplied.clock connected _ _).within
        (instant + reads)).startingAt ⟨recent, before⟩)
      intro decision
      apply report_recent within nonneg supplied.clock connected
      refine ⟨instant, value, serves, same, ?_⟩
      unfold recordAge
      linarith

theorem iteration_recent (nextSensorUpdate : ℚ) :
    Keeps (Recent served config (recordAge reads commands lag))
      (ControlLoop.iteration config environment connected nextSensorUpdate) := by
  have tariff : Tariff environment World.now
      (Recent served config (recordAge reads commands lag)) commands lag :=
    recent_tariff within nonneg supplied.clock
  have rest (next : ℚ) : Keeps (Recent served config (recordAge reads commands lag)) (do
      sleep environment config.control.actuatorTickS
      return next) :=
    Keeps.bind (Keeps.bind tariff.point.keeps fun _ => Ensures.modify fun _ recent =>
      recent.logged rfl (by simp)) fun _ => Keeps.pure _
  apply Keeps.bind tariff.monotonic.keeps
  intro now
  apply Keeps.bind (tariff.tick now).keeps
  intro transition
  apply Keeps.bind (tariff.emitTransition connected transition).keeps
  intro _
  split_ifs
  · apply Keeps.bind (controlUpdate_recent supplied within nonneg connected)
    intro _
    apply Keeps.bind tariff.monotonic.keeps
    intro now
    rw [pure_bind]
    exact rest _
  · exact rest _

theorem loop_recent (rounds : Nat) (nextSensorUpdate : ℚ) :
    Keeps (Recent served config (recordAge reads commands lag))
      (ControlLoop.loop config environment connected rounds nextSensorUpdate) := by
  induction rounds generalizing nextSensorUpdate with
  | zero => exact Keeps.pure _
  | succ rounds induction =>
      exact Keeps.bind (iteration_recent supplied within nonneg connected nextSensorUpdate)
        induction

theorem run_recent (rounds : Nat) :
    Keeps (Recent served config (recordAge reads commands lag))
      (ControlLoop.run config environment connected rounds) := by
  have tariff : Tariff environment World.now
      (Recent served config (recordAge reads commands lag)) commands lag :=
    recent_tariff within nonneg supplied.clock
  have start : Keeps (Recent served config (recordAge reads commands lag))
      (ControlLoop.start config environment connected) :=
    Keeps.bind tariff.monotonic.keeps fun now =>
      Keeps.bind (tariff.initializeActuator now).keeps fun _ =>
      Keeps.bind (tariff.emitTransition connected _).keeps fun _ => Keeps.pure _
  apply Keeps.bind start
  intro next
  apply Keeps.tryCatch
  · exact Keeps.bind (loop_recent supplied within nonneg connected rounds next) fun _ =>
      Keeps.pure _
  · exact fun exception =>
      Keeps.bind (tariff.finish connected).keeps fun _ => Keeps.throw exception

theorem runLog_recent (rounds : Nat) (time : ℚ) (initialPlugs : Int → Bool) :
    Throughout (RecentRecord served config (recordAge reads commands lag))
      (runLog config environment connected rounds time initialPlugs) := by
  have fresh : Recent served config (recordAge reads commands lag)
      (World.fresh time initialPlugs) := by
    simp [Recent, World.fresh]
  exact (run_recent supplied within nonneg connected rounds).finalState fresh

end Runs

end BuranBrew.Host

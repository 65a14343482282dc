import BuranBrew.Host.DeadTime
import BuranBrew.Host.Freshness

/-! # What ON commands rest on

An effort is set only after the internal temperature was read, and acted on only while it
is fresh. However the run goes, whatever raises and whenever, no plug is switched ON on
account of a temperature that is older than these two delays. Nor is any temperature
recorded that was not read.
-/

namespace BuranBrew.Host

open Execution History TimeProportionalActuator

/-- What becomes of a value of the internal temperature. -/
def Config.internalC [Rounding] (config : Config) (value : Int) : ℚ :=
  fl (fl (fl value / 100) + config.internalOffsetC)

section Definitions

-- The sensor served a value at an instant.
variable (served : ℚ → Int → Prop)

/-- A value was served within some reach before an instant. -/
def Rests (reach now : ℚ) : Prop :=
  ∃ instant value, served instant value ∧ now ≤ instant + reach

/-- Reads of the internal temperature return what is served, in some time, and the clock
is read without much delay. -/
structure Environment.Supplied (environment : Environment) (config : Config)
    (reads lag : ℚ) : Prop where
  internal : ∀ world value,
    (environment.readTempCenti world config.nodeSensor config.epInternal).value = .ok value →
      ∃ instant, served instant value ∧ world.now ≤ instant
  duration : ∀ world,
    (environment.readTempCenti world config.nodeSensor config.epInternal).duration ≤ reads
  clock : ∀ world, environment.clock world ≤ world.now + lag

variable [Rounding]

/-- A value was served within some reach before what `plan` takes for a fresh command. -/
def Backs (config : Config) (reach now : ℚ) : Prop :=
  ∃ instant value, served instant value ∧
    fl (now - (instant + reach)) ≤ config.control.commandStaleTimeoutS

def Genuine (config : Config) (internalC : ℚ) : Prop :=
  ∃ instant value, served instant value ∧ internalC = config.internalC value

def Heard (config : Config) (reach internalC now : ℚ) : Prop :=
  ∃ instant value, served instant value ∧ internalC = config.internalC value ∧
    now ≤ instant + reach

/-- Commands and records of a log rest on what was served. -/
structure Warrants (config : Config) (reach : ℚ) (event : Event) (earlier : List Event) :
    Prop where
  on : ∀ node outcome, event.kind = .setPlug node true outcome →
    ∃ reading, lastClock earlier = some reading ∧ Backs served config reach reading
  recorded : ∀ internalC, event.kind = .emitted (.sensor "internal" internalC) →
    Genuine served config internalC

structure Fed (config : Config) (reach : ℚ) (world : World) : Prop where
  effort : ∀ last, world.actuator.lastEffortUpdate = some last → Rests served reach last
  log : Throughout (Warrants served config reach) world.log

def FedNow (config : Config) (reach now : ℚ) (world : World) : Prop :=
  Fed served config reach world ∧ lastClock world.log = some now

end Definitions

section Supply

variable [Rounding] {served : ℚ → Int → Prop} {config : Config} {environment : Environment}
  {reads lag reach now : ℚ} {world next : World} {event : Event}

theorem Heard.genuine {internalC : ℚ} (heard : Heard served config reach internalC now) :
    Genuine served config internalC := by
  rcases heard with ⟨instant, value, serves, same, -⟩
  exact ⟨instant, value, serves, same⟩

/-! ## Events -/

/-- Neither an ON command nor a record of the internal temperature. -/
def EventKind.isIdle : EventKind → Prop
  | .setPlug _ on _ => on = false
  | .emitted (.sensor metric _) => metric ≠ "internal"
  | _ => True

theorem Warrants.of_isIdle {earlier : List Event} (idle : event.kind.isIdle) :
    Warrants served config reach event earlier := by
  constructor
  · intro node outcome command
    rw [command] at idle
    cases idle
  · intro internalC record
    rw [record] at idle
    exact absurd rfl idle

theorem Fed.elsewhere (fed : Fed served config reach world) (log : next.log = world.log)
    (effort : next.actuator.lastEffortUpdate = world.actuator.lastEffortUpdate) :
    Fed served config reach next :=
  ⟨effort ▸ fed.effort, log ▸ fed.log⟩

theorem Fed.logged (fed : Fed served config reach world)
    (log : next.log = event :: world.log)
    (effort : next.actuator.lastEffortUpdate = world.actuator.lastEffortUpdate)
    (warrants : Warrants served config reach event world.log) :
    Fed served config reach next := by
  constructor
  · rw [effort]
    exact fed.effort
  · rw [log, throughout_cons]
    exact ⟨warrants, fed.log⟩

theorem Fed.pointFree : PointFree (Fed served config reach) :=
  fun _ fed => fed.elsewhere rfl rfl

theorem FedNow.pointFree : PointFree (FedNow served config reach now) :=
  fun _ fed => ⟨fed.1.elsewhere rfl rfl, fed.2⟩

theorem FedNow.point (now : ℚ) : Ensures (FedNow served config reach now) (point environment)
    (fun _ => FedNow served config reach now) (fun _ => Fed served config reach) :=
  (point_keeps FedNow.pointFree).raising fun _ _ => And.left

theorem FedNow.sent (fed : FedNow served config reach now world) (node : Int) (on : Bool)
    (decided : on = true → Backs served config reach now) :
    FedNow served config reach now (world.sent environment node on) := by
  have warrants : Warrants served config reach (world.commandEvent environment node on)
      world.log := by
    cases on with
    | false => exact .of_isIdle rfl
    | true =>
        constructor
        · exact fun _ _ _ => ⟨now, fed.2, decided rfl⟩
        · rintro _ ⟨⟩
  exact ⟨fed.1.logged rfl rfl warrants, fed.2⟩

/-! ## The actuator -/

theorem assign_fed {update : Actuator → Actuator}
    (sameEffort : ∀ self, (update self).lastEffortUpdate = self.lastEffortUpdate) :
    Ensures (FedNow served config reach now) (assign environment update)
      (fun _ => FedNow served config reach now) (fun _ => Fed served config reach) :=
  Ensures.bind (FedNow.point now) fun _ => Ensures.modify fun _ fed =>
    ⟨fed.1.elsewhere rfl (sameEffort _), fed.2⟩

theorem record_fed {kind : EventKind} (idle : kind.isIdle)
    (noClock : ∀ reading, kind ≠ .clock reading) :
    Ensures (FedNow served config reach now) (record kind)
      (fun _ => FedNow served config reach now) (fun _ => Fed served config reach) := by
  apply Ensures.modify
  rintro world ⟨fed, current⟩
  refine ⟨fed.logged rfl rfl (.of_isIdle idle), ?_⟩
  rw [← current]
  cases kind <;> first | rfl | exact absurd rfl (noClock _)

theorem plan_fed (now : ℚ) :
    Ensures (FedNow served config reach now) (plan config environment now)
      (fun decided world => FedNow served config reach now world ∧
        (decided.requestedAction ≠ .idle → Backs served config reach now))
      (fun _ => Fed served config reach) := by
  apply Ensures.bind (assign_fed (Actuator.advanceWindow_lastEffortUpdate _ _))
  intro _
  apply Ensures.get_bind
  intro current fed
  dsimp only
  cases plans : current.actuator.plan config.control now with
  | error exception => exact Ensures.throw fun _ same => same ▸ fed.1
  | ok decided =>
      have recorded : Ensures (FedNow served config reach now) (record (.planned decided))
          (fun _ => FedNow served config reach now) (fun _ => Fed served config reach) :=
        record_fed trivial (by simp)
      apply Ensures.bind (recorded.startingAt fed)
      intro _
      apply Ensures.pure
      intro world fedNow
      refine ⟨fedNow, ?_⟩
      intro active
      rcases decided.requestedAction.idle_or_direction with idle | ⟨direction, requested⟩
      · exact absurd idle active
      · rcases (Actuator.requests_of_plan plans requested).fresh with ⟨last, update, fresh⟩
        rcases fed.1.effort last update with ⟨instant, value, serves, within⟩
        exact ⟨instant, value, serves, (fl_mono (sub_le_sub_left within now)).trans fresh⟩

theorem switch_fed (wanted : Action)
    (decided : wanted ≠ .idle → Backs served config reach now) :
    Ensures (FedNow served config reach now) (switch config environment wanted)
      (fun _ => FedNow served config reach now) (fun _ => Fed served config reach) := by
  rcases wanted.idle_or_direction with rfl | ⟨direction, rfl⟩
  · have sendsOff (world : World) (node : Int) (fed : FedNow served config reach now world) :
        FedNow served config reach now (world.sent environment node false) :=
      fed.sent node false (by simp)
    exact (switch_idle_ensures config FedNow.pointFree sendsOff).weaken (fun _ => id)
      (fun _ _ => And.left) (fun _ _ => And.left)
  · have sends (world : World) (node : Int) (on : Bool)
        (fed : FedNow served config reach now world) :
        FedNow served config reach now (world.sent environment node on) :=
      fed.sent node on fun _ => decided direction.action_ne_idle
    exact (switch_keeps config FedNow.pointFree sends direction.action).raising
      fun _ _ => And.left

theorem become_fed (wanted : Action) :
    Ensures (FedNow served config reach now) (become environment wanted)
      (fun _ => FedNow served config reach now) (fun _ => Fed served config reach) :=
  Ensures.bind (assign_fed fun _ => rfl) fun _ => record_fed trivial (by simp)

theorem commit_fed (wanted previous : Action) :
    Ensures (FedNow served config reach now) (commit environment wanted previous now)
      (fun _ => FedNow served config reach now) (fun _ => Fed served config reach) := by
  unfold commit
  by_cases leaves : previous.isActive ∧ wanted ≠ previous
  · rw [if_pos leaves]
    exact Ensures.bind (assign_fed fun _ => rfl) fun _ =>
      Ensures.bind (assign_fed fun _ => rfl) fun _ => become_fed wanted
  · rw [if_neg leaves]
    split_ifs
    · exact Ensures.bind (assign_fed fun _ => rfl) fun _ => become_fed wanted
    · exact become_fed wanted

theorem tick_fed (now : ℚ) :
    Ensures (FedNow served config reach now) (tick config environment now)
      (fun _ => FedNow served config reach now) (fun _ => Fed served config reach) := by
  have ticked : EventKind.ticked.isIdle := trivial
  apply Ensures.bind (record_fed ticked (by simp))
  intro _
  apply Ensures.bind (plan_fed now)
  intro decided
  apply Ensures.get_bind
  rintro current ⟨fed, warranted⟩
  dsimp only
  split_ifs with same
  · exact Ensures.pureAt fed
  · apply Ensures.bind ((switch_fed _ warranted).startingAt fed)
    intro success
    cases success with
    | false => exact Ensures.pure fun _ => id
    | true => exact Ensures.bind (commit_fed _ _) fun _ => Ensures.pure fun _ => id

theorem forceIdle_fed (now : ℚ) (reason : Reason) :
    Ensures (FedNow served config reach now) (forceIdle config environment now reason)
      (fun _ => FedNow served config reach now) (fun _ => Fed served config reach) := by
  apply Ensures.bind Ensures.get
  intro world
  dsimp only
  split_ifs
  · exact Ensures.pure fun _ => id
  · apply Ensures.bind (switch_fed .idle fun active => absurd rfl active)
    intro success
    cases success with
    | false => exact Ensures.pure fun _ => id
    | true =>
        exact Ensures.bind (assign_fed fun _ => rfl) fun _ =>
          Ensures.bind (assign_fed fun _ => rfl) fun _ =>
          Ensures.bind (become_fed .idle) fun _ => Ensures.bind Ensures.get fun _ =>
          Ensures.pure fun _ => id

theorem setEffort_fed (effort : ℚ) (rests : Rests served reach now) :
    Ensures (FedNow served config reach now) (setEffort config environment effort now)
      (fun _ => FedNow served config reach now) (fun _ => Fed served config reach) := by
  have stamped : Ensures (FedNow served config reach now)
      (assign environment fun self => { self with lastEffortUpdate := some now })
      (fun _ => FedNow served config reach now) (fun _ => Fed served config reach) := by
    apply Ensures.bind (FedNow.point now)
    intro _
    apply Ensures.modify
    rintro world ⟨fed, current⟩
    refine ⟨⟨?_, fed.log⟩, current⟩
    rintro _ ⟨⟩
    exact rests
  have stored (wasStale : Bool) : Ensures (FedNow served config reach now) (do
        assign environment fun self => { self with effort := max (-1) (min 1 effort) }
        assign environment fun self => { self with lastEffortUpdate := some now }
        record (.setEffort (max (-1) (min 1 effort)) wasStale))
      (fun _ => FedNow served config reach now) (fun _ => Fed served config reach) :=
    Ensures.bind (assign_fed fun _ => rfl) fun _ => Ensures.bind stamped fun _ =>
      record_fed trivial (by simp)
  apply Ensures.bind Ensures.get
  intro world
  dsimp only
  split_ifs
  · exact Ensures.bind (assign_fed fun _ => rfl) fun _ => stored _
  · exact stored _

/-! ## Reads -/

theorem read_fed (answer : World → Int → Int → ReadReply) (node endpoint : Int) :
    Keeps (Fed served config reach) (readThrough environment answer node endpoint) :=
  readThrough_keeps Fed.pointFree
    (fun _ _ _ _ fed => fed.logged rfl rfl (.of_isIdle trivial)) answer node endpoint

theorem readTemperatures_ensures {invariant : World → Prop} (pointFree : PointFree invariant)
    (answered : ∀ world node endpoint reply, invariant world →
      invariant (world.answered node endpoint reply))
    (supplied : environment.Supplied served config reads lag) :
    Ensures invariant (ControlLoop.readTemperatures config environment)
      (fun temperatures world => invariant world ∧
        ∀ ambientC internalC, temperatures = some (ambientC, internalC) →
          Heard served config reads internalC world.now)
      (fun _ => invariant) := by
  have internal : Ensures invariant
      (readTempCenti environment config.nodeSensor config.epInternal)
      (fun value world => invariant world ∧
        ∃ instant, served instant value ∧ world.now ≤ instant + reads)
      (fun _ => invariant) := by
    apply Ensures.bind (point_keeps pointFree)
    intro _
    apply Ensures.get_bind
    intro current holds
    set reply := environment.readTempCenti current config.nodeSensor config.epInternal
      with replied
    have after := answered current config.nodeSensor config.epInternal reply holds
    have duration : reply.duration ≤ reads := supplied.duration current
    have stored : Ensures (fun world => world = current)
        (set (current.answered config.nodeSensor config.epInternal reply) : Py Unit)
        (fun _ world => world = current.answered config.nodeSensor config.epInternal reply)
        (fun _ => invariant) := Ensures.set fun _ _ => rfl
    apply Ensures.bind stored
    intro _
    cases known : reply.value with
    | error exception => exact Ensures.throw fun world same => same ▸ after
    | ok value =>
        apply Ensures.pure
        rintro world rfl
        rcases supplied.internal current value known with ⟨instant, serves, before⟩
        refine ⟨after, instant, serves, ?_⟩
        change current.now + reply.duration ≤ instant + reads
        linarith
  apply Ensures.tryCatch
  · apply Ensures.bind (readThrough_keeps pointFree answered _ _ _)
    intro ambient
    apply Ensures.bind internal
    intro internal
    apply Ensures.pure
    rintro world ⟨holds, instant, serves, within⟩
    refine ⟨holds, ?_⟩
    rintro ambientC internalC ⟨⟩
    exact ⟨instant, internal, serves, rfl, within⟩
  · intro exception
    apply Ensures.ite
    · exact fun _ => Ensures.pure fun world holds => ⟨holds, by simp⟩
    · exact fun _ => Ensures.throw fun _ => id

/-! ## One round of the loop -/

theorem monotonic_fed : Ensures (Fed served config reach) (monotonic environment)
    (FedNow served config reach) (fun _ => Fed served config reach) :=
  monotonic_ensures Fed.pointFree fun _ fed =>
    ⟨fed.logged rfl rfl (.of_isIdle trivial), rfl⟩

/-- The reading after the reads still rests on what they have heard. -/
theorem monotonic_rests (supplied : environment.Supplied served config reads lag)
    (internalC : ℚ) :
    Ensures (fun world => Fed served config reach world ∧
        Heard served config reads internalC world.now)
      (monotonic environment)
      (fun now world => Rests served (reads + lag) now ∧ FedNow served config reach now world)
      (fun _ => Fed served config reach) := by
  have pointFree : PointFree fun world => Fed served config reach world ∧
      Heard served config reads internalC world.now :=
    fun world holds => ⟨Fed.pointFree world holds.1, holds.2⟩
  apply ((monotonic_ensures pointFree ?_).raising fun _ _ => And.left)
  rintro world ⟨fed, instant, value, serves, -, within⟩
  have clock := supplied.clock world
  exact ⟨⟨instant, value, serves, by linarith⟩,
    fed.logged rfl rfl (.of_isIdle trivial), rfl⟩

theorem emit_fed (connected : Bool) {telemetry : Telemetry}
    (genuine : ∀ internalC, telemetry = .sensor "internal" internalC →
      Genuine served config internalC) :
    Keeps (Fed served config reach) (emit environment connected telemetry) := by
  apply emit_keeps Fed.pointFree connected
  intro world fed
  have warrants : Warrants served config reach ⟨world.now, .emitted telemetry⟩ world.log := by
    constructor
    · rintro node outcome ⟨⟩
    · rintro internalC ⟨⟩
      exact genuine internalC rfl
  exact fed.logged rfl rfl warrants

theorem emitTransition_fed (connected : Bool) (transition : Option ActuatorTransition) :
    Keeps (Fed served config reach)
      (ControlLoop.emitTransition environment connected transition) := by
  cases transition with
  | none => exact Keeps.pure _
  | some transition =>
      exact Keeps.bind Keeps.get fun _ => emit_fed connected (by simp)

theorem steer_fed (supplied : environment.Supplied served config reads lag) (connected : Bool)
    (ambientC internalC : ℚ) :
    Ensures (fun world => Fed served config (reads + lag) world ∧
        Heard served config reads internalC world.now)
      (ControlLoop.steer config environment connected ambientC internalC)
      (fun _ => Fed served config (reads + lag)) (fun _ => Fed served config (reads + lag)) := by
  have assignLoop (now : ℚ) (update : LoopState → LoopState) :
      Ensures (FedNow served config (reads + lag) now) (ControlLoop.assign environment update)
        (fun _ => FedNow served config (reads + lag) now)
        (fun _ => Fed served config (reads + lag)) :=
    Ensures.bind (FedNow.point now) fun _ => Ensures.modify fun _ fed =>
      ⟨fed.1.elsewhere rfl rfl, fed.2⟩
  have assignController (now : ℚ) (update : Controller → Controller) :
      Ensures (FedNow served config (reads + lag) now) (PIController.assign environment update)
        (fun _ => FedNow served config (reads + lag) now)
        (fun _ => Fed served config (reads + lag)) :=
    Ensures.bind (FedNow.point now) fun _ => Ensures.modify fun _ fed =>
      ⟨fed.1.elsewhere rfl rfl, fed.2⟩
  have updateController (now internalC ambientC : ℚ) :
      Ensures (FedNow served config (reads + lag) now)
        (PIController.update config environment internalC ambientC now)
        (fun _ => FedNow served config (reads + lag) now)
        (fun _ => Fed served config (reads + lag)) :=
    Ensures.bind Ensures.get fun _ => Ensures.bind (assignController now _) fun _ =>
      Ensures.bind (assignController now _) fun _ =>
      Ensures.bind Ensures.get fun _ => Ensures.pure fun _ => id
  apply Ensures.bind (monotonic_rests supplied internalC)
  intro now
  apply Ensures.given
  intro rests
  apply Ensures.bind (assignLoop now _)
  intro _
  apply Ensures.bind (assignLoop now _)
  intro _
  apply Ensures.bind Ensures.get
  intro _
  apply Ensures.bind (updateController now _ _)
  intro decision
  apply Ensures.bind (assignLoop now _)
  intro _
  apply Ensures.bind (setEffort_fed _ rests)
  intro _
  apply Ensures.bind (tick_fed now)
  intro transition
  apply Ensures.strengthen _ fun _ => And.left
  exact Keeps.bind (emitTransition_fed connected transition) fun _ => Keeps.pure _

theorem plan_keeps_fed (now : ℚ) :
    Keeps (Fed served config reach) (plan config environment now) := by
  have advanced : Keeps (Fed served config reach)
      (assign environment (Actuator.advanceWindow config.control.windowS now)) :=
    assign_keeps Fed.pointFree fun _ fed =>
      fed.elsewhere rfl (Actuator.advanceWindow_lastEffortUpdate _ _ _)
  apply Keeps.bind advanced
  intro _
  apply Keeps.bind Keeps.get
  intro current
  dsimp only
  cases current.actuator.plan config.control now with
  | error exception => exact Keeps.throw exception
  | ok decided =>
      exact Keeps.bind (record_keeps fun _ fed => fed.logged rfl rfl (.of_isIdle trivial))
        fun _ => Keeps.pure decided

theorem report_fed (connected : Bool) (ambientC internalC : ℚ) (decision : ControlDecision)
    (genuine : Genuine served config internalC) :
    Keeps (Fed served config reach)
      (ControlLoop.report config environment connected ambientC internalC decision) := by
  have rest (sg : Option ℚ) : Keeps (Fed served config reach) (do
      let action := (← get).actuator.action
      emit environment connected (.state ambientC internalC sg action decision.effort)) :=
    Keeps.bind Keeps.get fun _ => emit_fed connected (by simp)
  have readGravity : Keeps (Fed served config reach)
      (ControlLoop.readGravity config environment) :=
    Keeps.fallback none (Keeps.bind (read_fed _ _ _) fun _ => Keeps.pure _)
  apply Keeps.bind readGravity
  intro sg
  apply Ensures.bind monotonic_fed
  intro now
  apply Ensures.bind (tick_fed now)
  intro transition
  apply Ensures.strengthen _ fun _ => And.left
  apply Keeps.bind (emitTransition_fed connected transition)
  intro _
  apply Keeps.bind (plan_keeps_fed now)
  intro plan
  apply Keeps.bind (Keeps.bind Keeps.get fun _ => emit_fed connected (by simp))
  intro _
  apply Keeps.bind (emit_fed connected (by simp))
  intro _
  apply Keeps.bind (emit_fed connected fun _ same => by cases same; exact genuine)
  intro _
  cases sg with
  | none => exact rest none
  | some sg => exact Keeps.bind (emit_fed connected (by simp)) fun _ => rest (some sg)

theorem controlUpdate_fed (supplied : environment.Supplied served config reads lag)
    (connected : Bool) :
    Keeps (Fed served config (reads + lag))
      (ControlLoop.controlUpdate config environment connected) := by
  have answered (world : World) (node endpoint : Int) (reply : ReadReply)
      (fed : Fed served config (reads + lag) world) :
      Fed served config (reads + lag) (world.answered node endpoint reply) :=
    fed.logged rfl rfl (.of_isIdle trivial)
  apply Ensures.bind (readTemperatures_ensures Fed.pointFree answered supplied)
  intro temperatures
  cases temperatures with
  | none => exact Ensures.pure fun _ => And.left
  | some temperatures =>
      rcases temperatures with ⟨ambientC, internalC⟩
      apply Ensures.each
      rintro start ⟨fed, heard⟩
      have known := heard ambientC internalC rfl
      exact Ensures.bind ((steer_fed supplied connected ambientC internalC).startingAt
        ⟨fed, known⟩) fun decision =>
          report_fed connected ambientC internalC decision known.genuine

theorem iteration_fed (supplied : environment.Supplied served config reads lag)
    (connected : Bool) (nextSensorUpdate : ℚ) :
    Keeps (Fed served config (reads + lag))
      (ControlLoop.iteration config environment connected nextSensorUpdate) := by
  have rest (next : ℚ) : Keeps (Fed served config (reads + lag)) (do
      sleep environment config.control.actuatorTickS
      return next) :=
    Keeps.bind (Keeps.bind (point_keeps Fed.pointFree) fun _ => Ensures.modify fun _ fed =>
      fed.logged rfl rfl (.of_isIdle trivial)) fun _ => Keeps.pure _
  apply Ensures.bind monotonic_fed
  intro now
  apply Ensures.bind (tick_fed now)
  intro transition
  apply Ensures.strengthen _ fun _ => And.left
  apply Keeps.bind (emitTransition_fed connected transition)
  intro _
  split_ifs
  · apply Keeps.bind (controlUpdate_fed supplied connected)
    intro _
    apply Ensures.bind monotonic_fed
    intro now
    rw [pure_bind]
    exact (rest _).strengthen fun _ => And.left
  · exact rest _

theorem loop_fed (supplied : environment.Supplied served config reads lag)
    (connected : Bool) (rounds : Nat) (nextSensorUpdate : ℚ) :
    Keeps (Fed served config (reads + lag))
      (ControlLoop.loop config environment connected rounds nextSensorUpdate) := by
  induction rounds generalizing nextSensorUpdate with
  | zero => exact Keeps.pure _
  | succ rounds induction =>
      exact Keeps.bind (iteration_fed supplied connected nextSensorUpdate) induction

theorem start_fed (connected : Bool) :
    Keeps (Fed served config reach) (ControlLoop.start config environment connected) := by
  apply Ensures.bind monotonic_fed
  intro now
  have initialized : Ensures (FedNow served config reach now)
      (initializeActuator config environment now)
      (fun _ => Fed served config reach) (fun _ => Fed served config reach) := by
    apply Ensures.bind (switch_fed .idle fun active => absurd rfl active)
    intro success
    cases success with
    | false => exact Ensures.throw fun _ => And.left
    | true =>
        exact Ensures.bind (assign_fed fun _ => rfl) fun _ =>
          Ensures.bind (assign_fed fun _ => rfl) fun _ => Ensures.pure fun _ => And.left
  exact Ensures.bind initialized fun transition =>
    Keeps.bind (emitTransition_fed connected _) fun _ => Keeps.pure _

theorem finish_fed (connected : Bool) :
    Keeps (Fed served config reach) (ControlLoop.finish config environment connected) := by
  apply Ensures.bind monotonic_fed
  intro now
  apply Ensures.bind (forceIdle_fed now .shutdown)
  intro transition
  exact (emitTransition_fed connected transition).strengthen fun _ => And.left

theorem run_fed (supplied : environment.Supplied served config reads lag) (connected : Bool)
    (rounds : Nat) :
    Keeps (Fed served config (reads + lag))
      (ControlLoop.run config environment connected rounds) := by
  apply Keeps.bind (start_fed connected)
  intro next
  apply Keeps.tryCatch
  · exact Keeps.bind (loop_fed supplied connected rounds next) fun _ => Keeps.pure _
  · exact fun exception => Keeps.bind (finish_fed connected) fun _ => Keeps.throw exception

theorem fresh_fed (time : ℚ) (initialPlugs : Int → Bool) :
    Fed served config reach (World.fresh time initialPlugs) :=
  ⟨by simp [World.fresh], by simp [World.fresh]⟩

/-- However a run goes, no plug is ever switched ON on account of a temperature that was
served longer ago than a read, the clock and the stale timeout take together, and no
temperature is recorded that was not served. -/
theorem on_commands_rest_on_reads (supplied : environment.Supplied served config reads lag)
    (connected : Bool) (rounds : Nat) (time : ℚ) (initialPlugs : Int → Bool) :
    Throughout (Warrants served config (reads + lag))
      (runLog config environment connected rounds time initialPlugs) :=
  ((run_fed supplied connected rounds).finalState (fresh_fed time initialPlugs)).log

end Supply

section

open Binary64

/-- Both temperatures are 15 °C until the sensor fails. -/
def Environment.cooling (endS : ℚ) : Environment :=
  { obedient with
    readTempCenti := fun world _ _ =>
      { CallTiming.instant with
        value := if world.now ≤ endS then .ok 1500 else .error .timeoutExpired } }

theorem Environment.cooling_supplied (endS : ℚ) :
    (cooling endS).Supplied (fun instant value => instant ≤ endS ∧ value = 1500)
      Config.shipped 0 0 where
  internal world value returned := by
    change (if world.now ≤ endS then .ok 1500 else .error .timeoutExpired : Except Exn Int) =
      _ at returned
    split at returned
    · cases returned
      exact ⟨world.now, ⟨‹_›, rfl⟩, le_rfl⟩
    · cases returned
  duration _ := le_rfl
  clock world := (add_zero world.now).ge

theorem on_commands_rest_on_reads_cooling : ∃ earlier,
    ⟨0, .setPlug 11 true .done⟩ :: earlier <:+
      runLog Config.shipped (.cooling 10) true 3 0 (fun _ => false) ∧
    ∃ reading, lastClock earlier = some reading ∧ fl (reading - 10) ≤ 180 := by
  have heated : (⟨0, .setPlug 11 true .done⟩ : Event) ∈
      runLog Config.shipped (.cooling 10) true 3 0 (fun _ => false) := by decide +kernel
  rcases List.append_of_mem heated with ⟨later, earlier, split⟩
  have warrants := on_commands_rest_on_reads (Environment.cooling_supplied 10) true 3 0
    (fun _ => false)
  have suffix : ⟨0, .setPlug 11 true .done⟩ :: earlier <:+
      runLog Config.shipped (.cooling 10) true 3 0 (fun _ => false) := ⟨later, split.symm⟩
  rcases (warrants _ _ suffix).on 11 .done rfl with
    ⟨reading, last, instant, value, ⟨before, -⟩, within⟩
  have earliest : reading - 10 ≤ reading - (instant + (0 + 0)) := by linarith
  exact ⟨earlier, suffix, reading, last, (fl_mono earliest).trans within⟩

end

end BuranBrew.Host

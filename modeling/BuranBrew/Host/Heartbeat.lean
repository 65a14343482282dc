import BuranBrew.Host.Windows

/-! # The heartbeat

After its second tick `_control_update` plans again and reports that plan together with the
action in force. The two belong together when the tick has reached a fixed point.
-/

namespace BuranBrew.Host

open Execution TimeProportionalActuator

variable {config : Config} {environment : Environment}

/-! ## Records -/

theorem Extends.logged {base world : World} {failed : Bool} (extended : Extends base failed world)
    (kind : EventKind) : Extends base failed (world.logged kind) := by
  rcases extended with ⟨later, added, log, seen⟩
  refine ⟨later, ⟨world.now, kind⟩ :: added, by simp [log], fun again => ?_⟩
  rcases seen again with ⟨event, among, failure⟩
  exact ⟨event, List.mem_cons_of_mem _ among, failure⟩

theorem Extends.forget {base world : World} {failed : Bool}
    (extended : Extends base failed world) : Extends base false world := by
  rcases extended with ⟨later, added, log, _⟩
  exact ⟨later, added, log, nofun⟩

theorem Extends.since {base middle world : World} {failed : Bool}
    (extended : Extends middle failed world) (earlier : Extends base false middle) :
    Extends base failed world := by
  rcases extended with ⟨later, added, log, seen⟩
  rcases earlier with ⟨past, before, log', _⟩
  refine ⟨past.trans later, added ++ before, by rw [log, log', List.append_assoc], fun again => ?_⟩
  rcases seen again with ⟨event, among, failure⟩
  exact ⟨event, List.mem_append_left before among, failure⟩

theorem monotonic_run (quiet : environment.Quiet) (world : World) :
    (monotonic environment).run world =
      .ok (environment.clock world.pointed)
        (world.pointed.clocked (environment.clock world.pointed)) := by
  simp only [monotonic, EStateM.run_bind, point_run quiet, EStateM.run_get, EStateM.run_set]
  rfl

theorem extends_rules (config : Config) (environment : Environment) (base : World) :
    ActuatorInvariant config environment (Extends base false) where
  pointFree := Extends.pointFree base false
  moved _ _ extended := extended
  assigned _ _ _ extended := extended
  remembered _ _ _ extended := extended
  logged _ time kind _ extended := by
    rcases extended with ⟨later, added, log, _⟩
    exact ⟨later, ⟨time, kind⟩ :: added, by simp [log], nofun⟩
  sendsOff _ node extended := (extended.sent environment node false).forget
  sendsOn _ direction extended _ _ :=
    (extended.sent environment (config.node direction) true).forget
  idled _ extended _ := extended.logged (.became .idle)
  activated _ direction extended _ _ := extended.logged (.became direction.action)

def Environment.Recording (environment : Environment) : Prop :=
  ∀ world, environment.redis world = none

/-- Nothing but `RuntimeError` and `TimeoutExpired` comes from a gravity read. -/
def Environment.GravityFailuresOnly (environment : Environment) : Prop :=
  ∀ world node endpoint exception,
    (environment.readGravityMilli world node endpoint).value = .error exception →
      exception.isCommandFailure = true

theorem emit_run (quiet : environment.Quiet) (recording : environment.Recording)
    (telemetry : Telemetry) (world : World) :
    (emit environment true telemetry).run world =
      .ok () (world.pointed.logged (.emitted telemetry)) := by
  rw [emit, EStateM.run_bind, point_run quiet]
  simp only [if_true, EStateM.run_bind, EStateM.run_get, recording world.pointed]
  rfl

theorem emit_recorded (quiet : environment.Quiet) (recording : environment.Recording)
    {kept : World → Prop} (pointFree : PointFree kept)
    (logged : ∀ world telemetry, kept world → kept (world.logged (.emitted telemetry)))
    (telemetry : Telemetry) :
    Returns kept (emit environment true telemetry) (fun _ => kept) := by
  intro world holds
  rw [emit_run quiet recording]
  exact logged _ _ (pointFree world holds)

theorem emitTransition_returns (quiet : environment.Quiet)
    (recording : environment.Recording) {kept : World → Prop} (pointFree : PointFree kept)
    (logged : ∀ world telemetry, kept world → kept (world.logged (.emitted telemetry)))
    (transition : Option ActuatorTransition) :
    Returns kept (ControlLoop.emitTransition environment true transition) (fun _ => kept) := by
  cases transition with
  | none => exact Ensures.pure fun _ => id
  | some transition =>
      exact Ensures.bind Ensures.get fun _ =>
        emit_recorded quiet recording pointFree logged _

namespace ControlLoop

variable [Rounding]

/-- `report` from its `tick` to the heartbeat. -/
def heartbeat (config : Config) (environment : Environment) (connected : Bool) (now : ℚ) :
    Py Unit := do
  let transition ← tick config environment now
  emitTransition environment connected transition
  let plan ← plan config environment now
  emitControlHeartbeat environment connected plan

theorem report_eq (config : Config) (environment : Environment) (connected : Bool)
    (ambientC internalC : ℚ) (decision : ControlDecision) :
    report config environment connected ambientC internalC decision = (do
      let sg ← readGravity config environment
      let now ← monotonic environment
      heartbeat config environment connected now
      emit environment connected (.sensor "ambient" ambientC)
      emit environment connected (.sensor "internal" internalC)
      if let some sg := sg then
        emit environment connected (.sensor "gravity" sg)
      let action := (← get).actuator.action
      emit environment connected (.state ambientC internalC sg action decision.effort)) := by
  unfold report heartbeat
  apply bind_congr
  intro sg
  cases sg <;> simp only [bind_assoc]

/-- The record is what a heartbeat makes of a plan for the current action. -/
def Describes (config : Config) (now : ℚ) (world : World) (telemetry : Telemetry) : Prop :=
  ∃ decided, config.Plans now world.actuator decided ∧
    decided.requestedAction = world.actuator.action ∧
    telemetry = .control world.actuator.action world.loop.lastDiffCenti decided.effort
      decided.dutyCycle decided.activeS decided.windowS .heartbeat

/-- Since the base a heartbeat was recorded that describes what is still in force. -/
def Reported (config : Config) (now : ℚ) (base world : World) : Prop :=
  base.points ≤ world.points ∧ ∃ added, world.log = added ++ base.log ∧
    ∃ event ∈ added, ∃ telemetry, event.kind = .emitted telemetry ∧
      Describes config now world telemetry

theorem Reported.pointFree (config : Config) (now : ℚ) (base : World) :
    PointFree (Reported config now base) :=
  fun _ reported => ⟨Nat.le_succ_of_le reported.1, reported.2⟩

theorem Reported.logged {now : ℚ} {base world : World}
    (reported : Reported config now base world) (kind : EventKind) :
    Reported config now base (world.logged kind) := by
  rcases reported with ⟨later, added, log, event, among, record⟩
  exact ⟨later, ⟨world.now, kind⟩ :: added, by simp [log], event,
    List.mem_cons_of_mem _ among, record⟩

theorem Reported.since {now : ℚ} {base middle world : World}
    (reported : Reported config now middle world) (earlier : Extends base false middle) :
    Reported config now base world := by
  rcases reported with ⟨later, added, log, event, among, record⟩
  rcases earlier with ⟨past, before, log', _⟩
  exact ⟨past.trans later, added ++ before, by rw [log, log', List.append_assoc], event,
    List.mem_append_left before among, record⟩

theorem Reported.of_described {now : ℚ} {base world : World} {telemetry : Telemetry}
    (extended : Extends base false world) (describes : Describes config now world telemetry) :
    Reported config now base (world.logged (.emitted telemetry)) := by
  rcases extended with ⟨later, added, log, _⟩
  exact ⟨later, ⟨world.now, .emitted telemetry⟩ :: added, by simp [log], _,
    List.mem_cons_self, telemetry, rfl, describes⟩

theorem describes_planned {now : ℚ} {world : World} {plan : ActuatorPlan}
    (fixed : FixedAt config now world.actuator)
    (plans : config.Plans now world.actuator plan) :
    let planned := world.planned config now plan
    Describes config now planned (.control planned.actuator.action planned.loop.lastDiffCenti
      plan.effort plan.dutyCycle plan.activeS plan.windowS .heartbeat) := by
  intro planned
  have advanced : planned.actuator = world.actuator := fixed.advanceWindow
  refine ⟨plan, ?_, ?_, rfl⟩
  · rw [advanced]
    exact plans
  · rw [advanced]
    exact fixed.2 plan plans

theorem tick_extends (quiet : environment.Quiet) (idles : 0 < config.control.reverseIdleS)
    {start : World} (unrested : start.actuator.Unrested) {now : ℚ}
    (reached : (start.actuator.advanceWindow config.control.windowS now).WindowOpen
      config.control.windowS now) :
    Ensures (fun world => world = start) (tick config environment now)
      (fun _ world => Extends start true world ∨
        Extends start false world ∧ FixedAt config now world.actuator)
      (fun _ => Extends start true) := by
  rcases start.actuator.plan_advanceWindow config.control now with ⟨decided, plans⟩
  have fixed := FixedAt.of_followed idles unrested reached plans
  have extended : Keeps (Extends start false) (tick config environment now) :=
    (extends_rules config environment start).tick now
  have begun : Extends start false start := ⟨le_rfl, [], rfl, nofun⟩
  apply ((tick_follows quiet start plans).and (extended.startingAt begun)).weaken
    (fun _ => id)
  · rintro transition world ⟨failed | follows, kept⟩
    · exact .inl failed
    · exact .inr ⟨kept, by rw [follows]; exact fixed⟩
  · exact fun _ _ both => both.1

theorem heartbeat_reports (quiet : environment.Quiet) (recording : environment.Recording)
    (idles : 0 < config.control.reverseIdleS) {start : World}
    (unrested : start.actuator.Unrested) {now : ℚ}
    (reached : (start.actuator.advanceWindow config.control.windowS now).WindowOpen
      config.control.windowS now) :
    Ensures (fun world => world = start) (heartbeat config environment true now)
      (fun _ world => Extends start true world ∨ Reported config now start world)
      (fun _ => Extends start true) := by
  let carried (world : World) : Prop := Extends start true world ∨
    Extends start false world ∧ FixedAt config now world.actuator
  apply Ensures.bind (tick_extends quiet idles unrested reached)
  intro transition
  have announced : Returns carried (emitTransition environment true transition)
      (fun _ => carried) := by
    apply emitTransition_returns quiet recording
    · intro world holds
      exact holds.imp (Extends.pointFree start true world)
        (And.imp_left (Extends.pointFree start false world))
    · intro world telemetry holds
      exact holds.imp (fun failed => failed.logged _) (And.imp_left fun kept => kept.logged _)
  apply Ensures.bind (announced.raising fun _ _ => False.elim)
  intro _ world holds
  rcases world.actuator.plan_advanceWindow config.control now with ⟨decided, plans⟩
  rw [EStateM.run_bind, plan_run quiet world plans]
  simp only [emitControlHeartbeat, EStateM.run_bind, EStateM.run_get]
  rw [emit_run quiet recording]
  have planned (failed : Bool) (extended : Extends start failed world) :
      Extends start failed (world.planned config now decided).pointed :=
    Extends.pointFree start failed _ (extended.pointFree.logged (.planned decided))
  rcases holds with failed | ⟨kept, fixed⟩
  · exact .inl ((planned true failed).logged _)
  · exact .inr (Reported.of_described (planned false kept) (describes_planned fixed plans))

/-! ## Reports -/

def reportTime (config : Config) (environment : Environment) (world : World) : ℚ :=
  environment.clock (finalState ((readGravity config environment).run world)).pointed

theorem readGravity_run (config : Config) (quiet : environment.Quiet)
    (failures : environment.GravityFailuresOnly) (start : World) :
    ∃ sg after, (readGravity config environment).run start = .ok sg after ∧
      after.actuator = start.actuator ∧ Extends start false after := by
  let reply := environment.readGravityMilli start.pointed config.nodeSensor config.epGravity
  have extended : Extends start false
      (start.pointed.answered config.nodeSensor config.epGravity reply) :=
    ⟨Nat.le_succ _, [_], rfl, nofun⟩
  unfold readGravity readGravityMilli
  cases answer : reply.value with
  | ok value =>
      rw [run_tryCatch, EStateM.run_bind, readThrough_returned quiet answer]
      exact ⟨_, _, rfl, rfl, extended⟩
  | error exception =>
      have caught := failures _ _ _ exception answer
      rw [run_tryCatch, EStateM.run_bind, readThrough_raised quiet answer]
      simp only [caught, if_true, EStateM.run_pure]
      exact ⟨_, _, rfl, rfl, extended⟩

/-- A report contains a heartbeat that describes what is in force. -/
theorem report_reports (quiet : environment.Quiet) (recording : environment.Recording)
    (failures : environment.GravityFailuresOnly) (idles : 0 < config.control.reverseIdleS)
    {start : World} (unrested : start.actuator.Unrested)
    (reached : (start.actuator.advanceWindow config.control.windowS
      (reportTime config environment start)).WindowOpen config.control.windowS
        (reportTime config environment start))
    (ambientC internalC : ℚ) (decision : ControlDecision) :
    Ensures (fun world => world = start)
      (report config environment true ambientC internalC decision)
      (fun _ world => Extends start true world ∨
        Reported config (reportTime config environment start) start world)
      (fun _ => Extends start true) := by
  rcases readGravity_run config quiet failures start with ⟨sg, after, ran, same, extended⟩
  have time : reportTime config environment start = environment.clock after.pointed := by
    rw [reportTime, ran]
    rfl
  rw [time] at reached ⊢
  let middle := after.pointed.clocked (environment.clock after.pointed)
  let outcome (world : World) : Prop := Extends start true world ∨
    Reported config (environment.clock after.pointed) start world
  have earlier : Extends start false middle := by
    rcases extended with ⟨later, added, log, _⟩
    exact ⟨Nat.le_succ_of_le later, ⟨environment.clock after.pointed, .clock _⟩ :: added,
      congrArg (List.cons _) log, nofun⟩
  have resting : middle.actuator.Unrested := by
    change after.actuator.Unrested
    rwa [same]
  have beats := heartbeat_reports quiet recording idles resting (by rwa [← same] at reached)
  have emits (telemetry : Telemetry) :
      Returns outcome (emit environment true telemetry) (fun _ => outcome) := by
    apply emit_recorded quiet recording
    · intro world holds
      exact holds.imp (Extends.pointFree start true world)
        (Reported.pointFree config _ start world)
    · intro world record holds
      exact holds.imp (fun failed => failed.logged _) fun reported => reported.logged _
  have finishes (sg : Option ℚ) : Returns outcome (do
      let action := (← get).actuator.action
      emit environment true (.state ambientC internalC sg action decision.effort))
      (fun _ => outcome) := Ensures.bind Ensures.get fun _ => emits _
  intro world equal
  rw [equal, report_eq, run_bind_of_ok ran, run_bind_of_ok (monotonic_run quiet after)]
  have rest : Ensures (fun world => world = middle)
      (heartbeat config environment true (environment.clock after.pointed)) (fun _ => outcome)
      (fun _ => Extends start true) :=
    beats.weaken (fun _ => id)
      (fun _ world => Or.imp (fun failed => failed.since earlier) fun told => told.since earlier)
      fun _ world failed => failed.since earlier
  refine (rest.bind fun _ => ?_) middle rfl
  apply Ensures.bind ((emits _).raising fun _ _ => False.elim)
  intro _
  apply Ensures.bind ((emits _).raising fun _ _ => False.elim)
  intro _
  cases sg with
  | none => exact (finishes none).raising fun _ _ => False.elim
  | some sg =>
      apply Ensures.bind ((emits _).raising fun _ _ => False.elim)
      exact fun _ => (finishes (some sg)).raising fun _ _ => False.elim

end ControlLoop

/-! ## Updates of the control loop -/

section

open Binary64 FloatingPoint

def Environment.ClockFloats (environment : Environment) : Prop :=
  ∀ world, binary64.Member (environment.clock world)

/-- What calls at floats keep. -/
structure Regular (actuator : Actuator) : Prop where
  unrested : actuator.Unrested
  float : actuator.StartsAtFloat

theorem Regular.moves {before after : Actuator} (regular : Regular before)
    {call : ActuatorCall} {transition : Option ActuatorTransition}
    (moves : Moves config before call after transition)
    (nowFloat : binary64.Member call.now) : Regular after :=
  ⟨regular.unrested.moves moves, regular.float.moves nowFloat moves⟩

theorem setEffort_regular (config : Config) (quiet : environment.Quiet) (effort : ℚ) {now : ℚ}
    (nowFloat : binary64.Member now) :
    Keeps (fun world => Regular world.actuator) (setEffort config environment effort now) := by
  intro world regular
  rcases setEffort_run config quiet effort now world with ⟨points, ran⟩
  rw [ran]
  have moves : Moves config world.actuator (.setEffort effort now) _ none := .effortSet effort now
  exact regular.moves moves nowFloat

theorem tick_regular (config : Config) (quiet : environment.Quiet) {now : ℚ}
    (nowFloat : binary64.Member now) :
    Keeps (fun world => Regular world.actuator) (tick config environment now) := by
  intro world regular
  have ends := tick_ends config quiet now world
  have advanced : Regular (world.actuator.advanceWindow config.control.windowS now) :=
    regular.moves (.planned now) nowFloat
  generalize (tick config environment now).run world = result at ends ⊢
  cases ends with
  | unchanged decided plans same => exact advanced
  | refused decided final plans different kept failed =>
      change Regular final.actuator
      rw [kept]
      exact advanced
  | raised decided exception final plans different kept failed =>
      change Regular final.actuator
      rw [kept]
      exact advanced
  | switched decided final plans different settled =>
      change Regular final.actuator
      rw [settled]
      exact regular.moves (.switched now decided plans different) nowFloat

theorem steer_regular (config : Config) (quiet : environment.Quiet)
    (clock : environment.ClockFloats) (connected : Bool) (ambientC internalC : ℚ) :
    Keeps (fun world => Regular world.actuator)
      (ControlLoop.steer config environment connected ambientC internalC) := by
  let regular (world : World) : Prop := Regular world.actuator
  have assigned (update : LoopState → LoopState) :
      Keeps regular (ControlLoop.assign environment update) :=
    Keeps.bind (point_keeps fun _ => id) fun _ => Ensures.modify fun _ => id
  have controls (update : Controller → Controller) :
      Keeps regular (PIController.assign environment update) :=
    Keeps.bind (point_keeps fun _ => id) fun _ => Ensures.modify fun _ => id
  have sampled : Ensures regular (monotonic environment)
      (fun now world => binary64.Member now ∧ regular world) (fun _ => regular) :=
    monotonic_ensures (fun _ => id) fun world holds => ⟨clock world, holds⟩
  apply Ensures.bind sampled
  intro now
  apply Ensures.given
  intro nowFloat
  apply Keeps.bind (assigned _)
  intro _
  apply Keeps.bind (assigned _)
  intro _
  apply Keeps.bind Keeps.get
  intro _
  apply Keeps.bind
  · exact Keeps.bind Keeps.get fun _ => Keeps.bind (controls _) fun _ =>
      Keeps.bind (controls _) fun _ => Keeps.bind Keeps.get fun _ => Keeps.pure _
  intro decision
  apply Keeps.bind (assigned _)
  intro _
  apply Keeps.bind (setEffort_regular config quiet _ nowFloat)
  intro _
  apply Keeps.bind (tick_regular config quiet nowFloat)
  intro transition
  exact Keeps.bind (emitTransition_keeps (fun _ => id) connected (fun _ _ => id) transition)
    fun _ => Keeps.pure _

theorem readTemperatures_regular (config : Config) (environment : Environment) :
    Keeps (fun world => Regular world.actuator)
      (ControlLoop.readTemperatures config environment) := by
  have read (endpoint : Int) : Keeps (fun world => Regular world.actuator)
      (readTempCenti environment config.nodeSensor endpoint) :=
    readThrough_keeps (fun _ => id) (fun _ _ _ _ => id) _ _ _
  exact Keeps.fallback none (Keeps.bind (read _) fun _ => Keeps.bind (read _) fun _ =>
    Keeps.pure _)

/-- `_control_update` reaches its gravity read in this world. -/
def Reporting (config : Config) (environment : Environment) (connected : Bool)
    (world middle : World) : Prop :=
  ∃ ambientC internalC read decision,
    (ControlLoop.readTemperatures config environment).run world =
        .ok (some (ambientC, internalC)) read ∧
      (ControlLoop.steer config environment connected ambientC internalC).run read =
        .ok decision middle

/-- The heartbeat of an update describes what is in force when it is over. -/
theorem controlUpdate_reports (quiet : environment.Quiet) (clock : environment.ClockFloats)
    (recording : environment.Recording) (failures : environment.GravityFailuresOnly)
    (positive : 0 < config.control.windowS)
    (windowFloat : binary64.Member config.control.windowS)
    (idles : 0 < config.control.reverseIdleS) {world middle : World}
    (regular : Regular world.actuator)
    (reporting : Reporting config environment true world middle)
    (clear : middle.actuator.ClearOfWindowEnds config.control.windowS
      (ControlLoop.reportTime config environment middle))
    (succeeded : NoneFailed middle
      (finalState ((ControlLoop.controlUpdate config environment true).run world))) :
    ControlLoop.Reported config (ControlLoop.reportTime config environment middle) middle
      (finalState ((ControlLoop.controlUpdate config environment true).run world)) := by
  rcases reporting with ⟨ambientC, internalC, read, decision, reads, steers⟩
  have settled : Regular middle.actuator := by
    have first := readTemperatures_regular config environment world regular
    rw [reads] at first
    have second := steer_regular config quiet clock true ambientC internalC read first
    rw [steers] at second
    exact second
  have reached := clear.windowOpen positive windowFloat (clock _) settled.float
  have reports := ControlLoop.report_reports quiet recording failures idles settled.unrested
    reached ambientC internalC decision
  have ran : (ControlLoop.controlUpdate config environment true).run world =
      (ControlLoop.report config environment true ambientC internalC decision).run middle := by
    rw [ControlLoop.controlUpdate, run_bind_of_ok reads]
    exact run_bind_of_ok steers
  rw [ran] at succeeded ⊢
  have outcome := reports middle rfl
  cases result : (ControlLoop.report config environment true ambientC internalC decision).run
      middle with
  | ok value final =>
      rw [result] at outcome succeeded
      exact outcome.resolve_left fun failed => failed.not_noneFailed succeeded
  | error exception final =>
      rw [result] at outcome succeeded
      exact absurd succeeded outcome.not_noneFailed

/-- After a tick whose commands succeed, the plan for the same time requests the action,
another tick does nothing, and the heartbeat of an update describes what it reports, as long
as no end of a later window is within rounding error. -/
theorem tick_reaches_fixed_point (accepted : config.Accepted)
    (windowFloat : binary64.Member config.control.windowS)
    (idles : 0 < config.control.reverseIdleS) (quiet : environment.Quiet) {ready : World}
    (started : Started config environment ready) (float : ready.actuator.StartsAtFloat)
    (calls : List ActuatorCall) (now : ℚ)
    (floats : ∀ call ∈ calls ++ [.tick now], binary64.Member call.now)
    (clear : (runCalls config environment ready calls).actuator.ClearOfWindowEnds
      config.control.windowS now)
    (succeeded : NoneFailed (runCalls config environment ready calls)
      (runCalls config environment ready (calls ++ [.tick now]))) :
    let before := runCalls config environment ready calls
    let after := runCalls config environment ready (calls ++ [.tick now])
    (∃ decided final, (plan config environment now).run after = .ok decided final ∧
        decided.requestedAction = after.actuator.action ∧ final.actuator = after.actuator) ∧
      (∃ final, (tick config environment now).run after = .ok none final ∧
        final.actuator = after.actuator ∧
        ∀ event ∈ after.eventsSince final, ∀ node on outcome,
          event.kind ≠ .setPlug node on outcome) ∧
      (environment.ClockFloats → environment.Recording → environment.GravityFailuresOnly →
        ∀ world middle, world.actuator = before.actuator →
          Reporting config environment true world middle →
          middle.actuator.ClearOfWindowEnds config.control.windowS
            (ControlLoop.reportTime config environment middle) →
          let final := finalState
            ((ControlLoop.controlUpdate config environment true).run world)
          NoneFailed middle final →
          ControlLoop.Reported config (ControlLoop.reportTime config environment middle) middle
            final) := by
  intro before after
  have valid := accepted.valid.control
  have regular : Regular before.actuator :=
    ⟨unrested_runCalls quiet started calls, startsAtFloat_runCalls quiet calls float
      fun call among => floats call (by simp [among])⟩
  have reached := clear.windowOpen valid.windowS_pos windowFloat (floats (.tick now) (by simp))
    regular.float
  have fixed : FixedAt config now after.actuator := by
    change FixedAt config now
      (runCalls config environment ready (calls ++ [.tick now])).actuator
    rw [runCalls_append, runCalls_cons, runCalls_nil] at succeeded ⊢
    exact fixedAt_performed idles quiet regular.unrested reached succeeded
  refine ⟨fixed.plan_run quiet, fixed.tick_run quiet, ?_⟩
  intro clock recording failures world middle same reporting later final noneFailed
  rw [← same] at regular
  exact controlUpdate_reports quiet clock recording failures valid.windowS_pos windowFloat idles
    regular reporting later noneFailed

/-- The clock is rounded, and everything else works at once. -/
def Environment.punctual : Environment := { obedient with clock := fun world => fl world.now }

theorem Environment.punctual_quiet : punctual.Quiet := fun _ => rfl

theorem tick_reaches_fixed_point_cooling :
    let before := runCalls Config.shipped .punctual
      (readyAt Config.shipped .punctual 0 fun _ => true) [.setEffort (-1) 30]
    let after := runCalls Config.shipped .punctual
      (readyAt Config.shipped .punctual 0 fun _ => true) ([.setEffort (-1) 30] ++ [.tick 60])
    after.actuator.action = .cool ∧
      (∃ final, (tick Config.shipped .punctual 60).run after = .ok none final ∧
        final.actuator = after.actuator ∧
        ∀ event ∈ after.eventsSince final, ∀ node on outcome,
          event.kind ≠ .setPlug node on outcome) ∧
      ∃ middle, Reporting Config.shipped .punctual true before middle ∧
        ControlLoop.Reported Config.shipped 30 middle
          (finalState ((ControlLoop.controlUpdate Config.shipped .punctual true).run before)) := by
  intro before after
  have early (start : ℚ) {now : ℚ} {self : Actuator} (started : self.windowStart = some start)
      (soon : now + 2 ^ (-49 : ℤ) * max |start| |now| < start + 2 * 1800) :
      self.ClearOfWindowEnds Config.shipped.control.windowS now :=
    Actuator.clearOfWindowEnds_of_early (by decide +kernel) started soon
  have fixed := tick_reaches_fixed_point Config.shipped_accepted (by decide +kernel)
    (by decide +kernel) Environment.punctual_quiet ⟨0, fun _ => true, .inr ⟨_, rfl⟩⟩
    (fun start known => by cases known; decide +kernel) [.setEffort (-1) 30] 60
    (by decide +kernel)
    (early 30 (by decide +kernel) (by decide +kernel))
    (by decide +kernel)
  have reads := eq_ok_of_valueOf (show valueOf
    ((ControlLoop.readTemperatures Config.shipped .punctual).run before) = some (some (0, 0)) by
      decide +kernel)
  have returns : (valueOf ((ControlLoop.steer Config.shipped .punctual true 0 0).run (finalState
      ((ControlLoop.readTemperatures Config.shipped .punctual).run before)))).isSome = true := by
    decide +kernel
  rcases Option.isSome_iff_exists.mp returns with ⟨decision, returned⟩
  have steers := eq_ok_of_valueOf returned
  have reporting : Reporting Config.shipped .punctual true before _ :=
    ⟨0, 0, _, decision, reads, steers⟩
  have time : ControlLoop.reportTime Config.shipped .punctual (finalState
      ((ControlLoop.steer Config.shipped .punctual true 0 0).run (finalState
        ((ControlLoop.readTemperatures Config.shipped .punctual).run before)))) = 30 := by
    decide +kernel
  have reported := fixed.2.2 (fun _ => binary64.member_round _) (fun _ => rfl)
    (fun _ _ _ _ failed => nomatch failed) before _ rfl reporting
  rw [time] at reported
  refine ⟨by decide +kernel, fixed.2.1, _, reporting, reported ?_ (by decide +kernel)⟩
  exact early 30 (by decide +kernel) (by decide +kernel)

/-- Half the effort, set at 2296.034 seconds and every three minutes from 2400 on. -/
def halfEffort : List ActuatorCall :=
  .setEffort (1 / 2) (fl (2296034 / 1000)) ::
    (List.range 20).map fun count => .setEffort (1 / 2) (2400 + 180 * count)

/-- Two windows later the tick finds its window over, and the plan after it the next one
open. -/
theorem tick_misses_fixed_point :
    ¬∀ (config : Config) (environment : Environment) (start : ℚ) (plugs : Int → Bool)
      (ready : World) (calls : List ActuatorCall) (now : ℚ),
      config.Accepted → binary64.Member config.control.windowS →
      0 < config.control.reverseIdleS → environment.Quiet →
      InitializedAt config environment start plugs ready → ready.actuator.StartsAtFloat →
      ActuatorCall.Nondecreasing start (calls ++ [.tick now]) →
      (∀ call ∈ calls ++ [.tick now], binary64.Member call.now) →
      NoneFailed (runCalls config environment ready calls)
        (runCalls config environment ready (calls ++ [.tick now])) →
      ∃ decided, valueOf ((plan config environment now).run
          (runCalls config environment ready (calls ++ [.tick now]))) = some decided ∧
        decided.requestedAction =
          (runCalls config environment ready (calls ++ [.tick now])).actuator.action := by
  intro claimed
  rcases claimed .shipped .obedient 0 (fun _ => false)
    (readyAt .shipped .obedient 0 fun _ => false) halfEffort (fl (5896034 / 1000))
    Config.shipped_accepted (by decide +kernel) (by decide +kernel)
    Environment.obedient_tame.quiet ⟨_, rfl⟩ (fun start known => by cases known; decide +kernel)
    (by decide +kernel) (by decide +kernel) (by decide +kernel) with ⟨decided, returned, same⟩
  have heats : (valueOf ((plan Config.shipped .obedient (fl (5896034 / 1000))).run
      (runCalls Config.shipped .obedient (readyAt .shipped .obedient 0 fun _ => false)
        (halfEffort ++ [.tick (fl (5896034 / 1000))])))).map (·.requestedAction) =
      some .heat := by decide +kernel
  rw [returned, Option.map_some, Option.some_inj, same] at heats
  exact absurd heats (by decide +kernel)

end

end BuranBrew.Host

import BuranBrew.Host.Freshness
import BuranBrew.Host.Tariffs

/-! # The interval between two calls of `set_effort`

In a healthy run the interval is at most `period_s`, one `actuator_tick_s`,
three reads and eight plug commands, and by what the sum in `next_sensor_update`
is rounded up. `ControlTuning.validate` allows for `period_s` only.
-/

namespace BuranBrew.Host

open Execution History TimeProportionalActuator

variable {config : Config} {environment : Environment}

/-! ## The clock -/

def Since (instant : ℚ) (world : World) : Prop := instant ≤ world.now

section Since

variable {instant : ℚ}

theorem Since.later {world next : World} (since : Since instant world)
    (now : world.now ≤ next.now) : Since instant next :=
  le_trans since now

variable (instant)

/-- Time does not count as spent here. -/
theorem since_tariff (healthy : environment.Healthy config) :
    Tariff environment (fun _ => 0) (Since instant) 0 0 where
  commands_nonneg := le_rfl
  lag_nonneg := le_rfl
  elsewhere world next _ now since := ⟨since.later now.ge, le_rfl⟩
  logged world kind _ since := ⟨since.later le_rfl, le_rfl⟩
  commanded world node on since := by
    refine ⟨since.later ?_, (zero_add 0).ge⟩
    exact le_add_of_nonneg_right (environment.setPlug world node on).duration_nonneg
  clocked world since := ⟨since.later (healthy.clock world).ge, (zero_add 0).ge⟩

variable [Rounding]

theorem since_rules (healthy : environment.Healthy config) (accepted : config.Accepted) :
    LoopInvariant config environment (Since instant) fun _ => Since instant := by
  have tariff := since_tariff instant healthy
  constructor
  case pointFree => exact fun _ since => since
  case sampledPointFree => exact fun _ _ since => since
  case released => exact fun _ _ since => since
  case clocked => exact fun world since => (tariff.clocked world since).1
  case slept =>
    exact fun world since => since.later
      (le_add_of_nonneg_right accepted.valid.control.actuatorTickS_pos.le)
  case answered =>
    exact fun world node endpoint reply since => since.later
      (le_add_of_nonneg_right reply.duration_nonneg)
  case emitted => exact fun _ _ since => since
  case remembered => exact fun _ _ _ _ since => since
  case setEffort =>
    intro effort now
    apply (tariff.setEffort _ le_rfl effort now).keeps
    intro effort wasStale
    exact Spends.of_keeps fun _ => record_keeps fun _ holds => holds
  case tick => exact fun now => (tariff.tick now).keeps
  case plan => exact fun now => (tariff.plan now).keeps
  case forceIdle => exact fun now reason => (tariff.forceIdle now reason).keeps

end Since

/-! ## Deadlines -/

def FreshAt (config : Config) (last : Option ℚ) (instant : ℚ) : Prop :=
  ∀ update, last = some update → instant - update ≤ config.control.commandStaleTimeoutS

theorem FreshAt.earlier {last : Option ℚ} {now later : ℚ} (fresh : FreshAt config last later)
    (earlier : now ≤ later) : FreshAt config last now := by
  intro update known
  have := fresh update known
  linarith

section Deadlines

variable [Rounding]

/-- So far the run is timely, `set_effort` was last called at `last`, and it is no
later than `limit`. -/
structure Due (config : Config) (last : Option ℚ) (limit : ℚ) (world : World) : Prop where
  timely : Timely config world.log
  effort : lastSetEffort world.log = last
  now : world.now ≤ limit

/-- What the rounding of times does while the clock is in these bounds. -/
structure Precise (config : Config) (earliest latest slack : ℚ) : Prop where
  slack_nonneg : 0 ≤ slack
  span : ∀ span, span ≤ config.control.commandStaleTimeoutS →
    fl span ≤ config.control.commandStaleTimeoutS
  next : ∀ now, earliest ≤ now → now < latest →
    fl (now + config.periodS) ≤ now + config.periodS + slack

section Due

variable {last : Option ℚ} {limit later now earliest latest slack : ℚ} {world next : World}
  {event : Event}

theorem Due.elsewhere (due : Due config last limit world) (log : next.log = world.log)
    (now : next.now ≤ later) : Due config last later next :=
  ⟨log ▸ due.timely, log ▸ due.effort, now⟩

theorem Due.logged (due : Due config last limit world)
    (unneeded : event.kind.needsEffort = false) (log : next.log = event :: world.log)
    (now : next.now ≤ later) : Due config last later next := by
  constructor
  · rw [log, Timely, throughout_cons]
    exact ⟨fun needs => absurd (needs.symm.trans unneeded) (by decide), due.timely⟩
  · rw [log, ← due.effort]
    rcases event with ⟨time, kind⟩
    cases kind <;> first | rfl | cases unneeded
  · exact now

theorem Due.commanded (due : Due config last limit world)
    (commanded : world.Commanded environment next) (now : next.now ≤ later) :
    Due config last later next := by
  have kept : Due config last next.now next := by
    clear now
    induction commanded with
    | refl => exact due.elsewhere rfl le_rfl
    | tail _ step induction =>
        rcases step with ⟨node, on, rfl⟩
        exact induction.logged rfl rfl le_rfl
  exact kept.elsewhere rfl now

theorem Due.pointFree : PointFree (Due config last limit) :=
  fun _ due => due.elsewhere rfl due.now

theorem Due.ticked (precise : Precise config earliest latest slack)
    (due : Due config last now world) (current : world.now = now)
    (fresh : FreshAt config last now) (decided : ActuatorPlan) :
    Due config last now ((world.logged .ticked).planned config now decided) := by
  have ticking : Due config last now (world.logged .ticked) := by
    constructor
    · change Timely config (⟨world.now, .ticked⟩ :: world.log)
      rw [Timely, throughout_cons]
      refine ⟨fun _ update known => ?_, due.timely⟩
      rw [current]
      exact precise.span _ (fresh update (due.effort.symm.trans known))
    · exact due.effort
    · exact due.now
  exact ticking.logged rfl rfl due.now

end Due

def DueNow (config : Config) (last : Option ℚ) (now : ℚ) (world : World) : Prop :=
  Due config last now world ∧ world.now = now

theorem DueNow.pointFree {last : Option ℚ} {now : ℚ} :
    PointFree (DueNow config last now) :=
  fun world sampled => ⟨Due.pointFree world sampled.1, sampled.2⟩

section Methods

variable {last : Option ℚ} {limit now reads commands earliest latest slack : ℚ}

theorem monotonic_due (healthy : environment.Healthy config) :
    Returns (Due config last limit) (monotonic environment)
      (fun now world => now ≤ limit ∧ DueNow config last now world) := by
  apply (monotonic_returns healthy Due.pointFree).returning
  intro now world outcome
  rcases outcome with ⟨before, due, rfl, rfl⟩
  exact ⟨due.now, due.logged rfl rfl le_rfl, rfl⟩

theorem emit_due (healthy : environment.Healthy config) (connected : Bool)
    (telemetry : Telemetry) :
    Returns (Due config last limit) (emit environment connected telemetry)
      (fun _ => Due config last limit) :=
  emit_returns healthy Due.pointFree connected fun _ due => due.logged rfl rfl due.now

theorem emitTransition_due (healthy : environment.Healthy config) (connected : Bool)
    (transition : Option ActuatorTransition) :
    Returns (Due config last limit)
      (ControlLoop.emitTransition environment connected transition)
      (fun _ => Due config last limit) := by
  cases transition with
  | none => exact Ensures.pure fun _ => id
  | some transition =>
      exact Ensures.bind Ensures.get fun _ => emit_due healthy connected _

theorem sleep_due (healthy : environment.Healthy config) (seconds : ℚ) :
    Returns (Due config last limit) (sleep environment seconds)
      (fun _ => Due config last (limit + seconds)) := by
  apply Ensures.bind (point_returns healthy.quiet Due.pointFree)
  intro _
  apply Ensures.modify
  intro world due
  have slept : (⟨world.now, .slept seconds⟩ : Event).kind.needsEffort = false := rfl
  apply due.logged slept rfl
  have := due.now
  change world.now + seconds ≤ limit + seconds
  linarith

theorem readTemperatures_due (healthy : environment.Healthy config)
    (within : environment.Within reads commands) :
    Returns (Due config last limit)
      (ControlLoop.readTemperatures config environment)
      (fun temperatures world => temperatures.isSome ∧
        Due config last (limit + 2 * reads) world) := by
  have read (limit : ℚ) (node endpoint : Int) : Returns (Due config last limit)
      (readTempCenti environment node endpoint)
      (fun _ => Due config last (limit + reads)) := by
    apply readThrough_returns healthy.quiet
    · exact fun world => healthy.temperatures world node endpoint
    · exact Due.pointFree
    · intro world due
      apply due.logged rfl rfl
      have := due.now
      have := within.temperatures world node endpoint
      change world.now + _ ≤ limit + reads
      linarith
  apply Ensures.tryCatch_returns
  apply Ensures.bind (read limit _ _)
  intro ambient
  apply Ensures.bind (read (limit + reads) _ _)
  intro internal
  apply Ensures.pure
  intro world due
  exact ⟨rfl, due.elsewhere rfl (due.now.trans (by linarith))⟩

theorem readGravity_due (healthy : environment.Healthy config)
    (within : environment.Within reads commands) :
    Returns (Due config last limit) (ControlLoop.readGravity config environment)
      (fun _ => Due config last (limit + reads)) := by
  have read : Returns (Due config last limit)
      (readGravityMilli environment config.nodeSensor config.epGravity)
      (fun _ => Due config last (limit + reads)) := by
    apply readThrough_returns healthy.quiet
    · exact fun world => healthy.gravity world _ _
    · exact Due.pointFree
    · intro world due
      apply due.logged rfl rfl
      have := due.now
      have := within.gravity world config.nodeSensor config.epGravity
      change world.now + _ ≤ limit + reads
      linarith
  apply Ensures.tryCatch_returns
  exact Ensures.bind read fun _ => Ensures.pure fun _ => id

theorem setEffort_due (healthy : environment.Healthy config)
    (precise : Precise config earliest latest slack)
    (fresh : FreshAt config last now) (effort : ℚ) :
    Returns (DueNow config last now) (setEffort config environment effort now)
      (fun _ => DueNow config (some now) now) := by
  intro world holds
  rcases holds with ⟨due, current⟩
  rcases setEffort_run config healthy.quiet effort now world with ⟨points, ran⟩
  rw [ran]
  refine ⟨⟨?_, ?_, due.now⟩, current⟩
  · unfold World.effortSet
    rw [Timely, throughout_cons]
    refine ⟨fun _ update known => ?_, due.timely⟩
    rw [current]
    exact precise.span _ (fresh update (due.effort.symm.trans known))
  · exact congrArg some current

theorem tick_due (healthy : environment.Healthy config)
    (precise : Precise config earliest latest slack)
    (within : environment.Within reads commands) (fresh : FreshAt config last now) :
    Returns (DueNow config last now) (tick config environment now)
      (fun _ => Due config last (now + 2 * commands)) := by
  intro world holds
  rcases holds with ⟨due, current⟩
  have nonneg := within.commands_nonneg
  have result := tick_result config healthy.tame now world
  generalize (tick config environment now).run world = outcome at result ⊢
  cases result with
  | unchanged decided plans =>
      have ticked := due.ticked precise current fresh decided
      exact ticked.elsewhere rfl (ticked.now.trans (by linarith))
  | refused decided after plans _ switching =>
      have ticked := due.ticked precise current fresh decided
      have inTime := switch_now_le healthy.tame within switching
      apply ticked.commanded (switch_commanded healthy.tame switching)
      have := ticked.now
      linarith
  | switched decided after points plans _ switching =>
      have ticked := due.ticked precise current fresh decided
      have inTime := switch_now_le healthy.tame within switching
      have switched : Due config last (now + 2 * commands) after := by
        apply ticked.commanded (switch_commanded healthy.tame switching)
        have := ticked.now
        linarith
      have became : (⟨after.now, .became decided.requestedAction⟩ : Event).kind.needsEffort =
          false := rfl
      exact switched.logged became rfl switched.now

theorem plan_due (healthy : environment.Healthy config) (now : ℚ) :
    Returns (Due config last limit) (plan config environment now)
      (fun _ => Due config last limit) := by
  intro world due
  rcases world.actuator.plan_advanceWindow config.control now with ⟨decided, plans⟩
  rw [plan_run healthy.quiet world plans]
  have planned : (⟨world.now, .planned decided⟩ : Event).kind.needsEffort = false := rfl
  exact due.logged planned rfl due.now

/-! ## One round of the loop -/

def Suffices (config : Config) (reads commands slack : ℚ) : Prop :=
  config.periodS + config.control.actuatorTickS + 3 * reads + 8 * commands + slack ≤
    config.control.commandStaleTimeoutS

variable (healthy : environment.Healthy config) (accepted : config.Accepted)
  (within : environment.Within reads commands)
  (precise : Precise config earliest latest slack)
  (suffices' : Suffices config reads commands slack) (connected : Bool)

include healthy

theorem assign_due {update : World → World} (elsewhere : ∀ world,
    (update world).log = world.log ∧ (update world).now = world.now) :
    Returns (DueNow config last now) (do point environment; modify update)
      (fun _ => DueNow config last now) := by
  apply Ensures.bind (point_returns healthy.quiet DueNow.pointFree)
  intro _
  apply Ensures.modify
  intro world due
  rcases elsewhere world with ⟨log, same⟩
  exact ⟨due.1.elsewhere log (same.trans due.2).le, same.trans due.2⟩

theorem updateController_due (internalC ambientC : ℚ) :
    Returns (DueNow config last now)
      (PIController.update config environment internalC ambientC now)
      (fun _ => DueNow config last now) := by
  have stored (update : Controller → Controller) : Returns (DueNow config last now)
      (PIController.assign environment update) (fun _ => DueNow config last now) :=
    assign_due healthy fun _ => ⟨rfl, rfl⟩
  exact Ensures.bind Ensures.get fun _ => Ensures.bind (stored _) fun _ =>
    Ensures.bind (stored _) fun _ => Ensures.bind Ensures.get fun _ =>
    Ensures.pure fun _ => id

include accepted within precise

theorem steer_due (fresh : FreshAt config last limit) (ambientC internalC : ℚ) :
    Returns (Due config last limit)
      (ControlLoop.steer config environment connected ambientC internalC)
      (fun _ world => ∃ update, Due config (some update) (update + 2 * commands) world) := by
  have remembered (now : ℚ) (update : LoopState → LoopState) :
      Returns (DueNow config last now)
        (ControlLoop.assign environment update) (fun _ => DueNow config last now) :=
    assign_due healthy fun _ => ⟨rfl, rfl⟩
  have justSet (now : ℚ) : FreshAt config (some now) now := by
    intro _ same
    cases same
    simpa using accepted.valid.control.commandStaleTimeoutS_nonneg
  apply Ensures.bind (monotonic_due healthy)
  intro now
  apply Ensures.given
  intro inTime
  apply Ensures.bind (remembered now _)
  intro _
  apply Ensures.bind (remembered now _)
  intro _
  apply Ensures.bind Ensures.get
  intro filtered
  apply Ensures.bind (updateController_due healthy _ _)
  intro decision
  apply Ensures.bind (remembered now _)
  intro _
  apply Ensures.bind (setEffort_due healthy precise (fresh.earlier inTime) decision.effort)
  intro _
  apply Ensures.bind (tick_due healthy precise within (justSet now))
  intro transition
  apply Ensures.bind (emitTransition_due healthy connected transition)
  intro _
  exact Ensures.pure fun world due => ⟨now, due⟩

include suffices'

theorem report_due (ambientC internalC : ℚ) (decision : ControlDecision) :
    Returns
      (fun world => ∃ update, Due config (some update) (update + 2 * commands) world)
      (ControlLoop.report config environment connected ambientC internalC decision)
      (fun _ world => ∃ update,
        Due config (some update) (update + (4 * commands + reads)) world) := by
  apply Ensures.given_exists
  intro update
  have fresh : FreshAt config (some update) (update + 2 * commands + reads) := by
    intro _ same
    cases same
    have := within.reads_nonneg
    have := within.commands_nonneg
    have := accepted.valid.periodS_pos
    have := accepted.valid.control.actuatorTickS_pos
    have := precise.slack_nonneg
    unfold Suffices at suffices'
    linarith
  have emits {limit : ℚ} (telemetry : Telemetry) : Returns (Due config (some update) limit)
      (emit environment connected telemetry) (fun _ => Due config (some update) limit) :=
    emit_due healthy connected telemetry
  apply Ensures.bind (readGravity_due healthy within)
  intro sg
  apply Ensures.bind (monotonic_due healthy)
  intro now
  apply Ensures.given
  intro inTime
  apply Ensures.bind (tick_due healthy precise within (fresh.earlier inTime))
  intro transition
  apply Ensures.bind (emitTransition_due healthy connected transition)
  intro _
  apply Ensures.bind (plan_due healthy now)
  intro plan
  apply Ensures.bind (Ensures.bind Ensures.get fun _ => emits _)
  intro _
  apply Ensures.bind (emits _)
  intro _
  apply Ensures.bind (emits _)
  intro _
  have lastly (sg : Option ℚ) : Returns
      (Due config (some update) (now + 2 * commands))
      (do
        let action := (← get).actuator.action
        emit environment connected (.state ambientC internalC sg action decision.effort))
      (fun _ world => ∃ update,
        Due config (some update) (update + (4 * commands + reads)) world) := by
    apply Ensures.bind Ensures.get
    intro _
    apply (emits _).returning
    exact fun _ world due => ⟨update, due.elsewhere rfl (due.now.trans (by linarith))⟩
  cases sg with
  | none => exact lastly none
  | some sg => exact Ensures.bind (emits _) fun _ => lastly (some sg)

theorem controlUpdate_due (fresh : FreshAt config last (limit + 2 * reads)) :
    Returns (Due config last limit)
      (ControlLoop.controlUpdate config environment connected)
      (fun _ world => ∃ update,
        Due config (some update) (update + (4 * commands + reads)) world) := by
  apply Ensures.bind (readTemperatures_due healthy within)
  intro temperatures
  apply Ensures.given
  intro succeeded
  rcases temperatures with _ | ⟨ambientC, internalC⟩
  · cases succeeded
  · apply Ensures.bind
      (steer_due healthy accepted within precise connected fresh ambientC internalC)
    intro decision
    exact report_due healthy accepted within precise suffices' connected ambientC internalC decision

/-- What holds whenever a round of the loop begins. -/
def RoundDue (config : Config) (reads commands earliest slack next : ℚ)
    (world : World) : Prop :=
  ∃ last limit, next ≤ limit ∧
    (∀ update, last = some update →
      limit ≤ update + (4 * commands + reads) + config.periodS + slack) ∧
    Due config last (limit + 2 * commands + config.control.actuatorTickS) world ∧
    Since earliest world

/-- Rounds that begin before `latest` and end after it are of no interest. -/
theorem iteration_due (next : ℚ) :
    Returns (RoundDue config reads commands earliest slack next)
      (ControlLoop.iteration config environment connected next)
      (fun later world => RoundDue config reads commands earliest slack later world ∨
        Since latest world) := by
  have readsNonneg := within.reads_nonneg
  have commandsNonneg := within.commands_nonneg
  have periodPos := accepted.valid.periodS_pos
  have slackNonneg := precise.slack_nonneg
  have sufficient : config.periodS + config.control.actuatorTickS + 3 * reads +
    8 * commands + slack ≤ config.control.commandStaleTimeoutS := suffices'
  have since (instant : ℚ) := since_rules instant healthy accepted
  have sample {last : Option ℚ} {limit : ℚ} :
      Returns (fun world => Due config last limit world ∧ Since earliest world)
        (monotonic environment)
        (fun now world => (now ≤ limit ∧ earliest ≤ now) ∧
          DueNow config last now world ∧ Since earliest world) := by
    apply ((monotonic_due healthy).keeping (since earliest).monotonic).returning
    rintro now world ⟨⟨inTime, due, current⟩, begun⟩
    exact ⟨⟨inTime, current ▸ begun⟩, ⟨due, current⟩, begun⟩
  apply Ensures.given_exists
  intro last
  apply Ensures.given_exists
  intro limit
  apply Ensures.given
  intro before
  apply Ensures.given
  intro scheduled
  have fresh (later : ℚ) (soon : later ≤ limit + 4 * commands +
      config.control.actuatorTickS + 2 * reads) : FreshAt config last later := by
    intro update known
    have := scheduled update known
    linarith
  apply Ensures.bind sample
  intro now
  apply Ensures.given
  rintro ⟨inTime, _⟩
  apply Ensures.bind
    ((tick_due healthy precise within (fresh now (by linarith))).keeping
      ((since earliest).tick now))
  intro transition
  apply Ensures.bind ((emitTransition_due healthy connected transition).keeping
    ((since earliest).emitTransition connected transition))
  intro _
  have rest {later limit now : ℚ} {last : Option ℚ} (before : later ≤ limit)
      (inTime : now ≤ limit + 2 * commands)
      (scheduled : ∀ update, last = some update →
        limit ≤ update + (4 * commands + reads) + config.periodS + slack) :
      Returns (fun world => Due config last now world ∧ Since earliest world)
        (do
          sleep environment config.control.actuatorTickS
          return later)
        (fun later world => RoundDue config reads commands earliest slack later world ∨
          Since latest world) := by
    apply Ensures.bind ((sleep_due healthy _).keeping (since earliest).sleep)
    intro _
    apply Ensures.pure
    rintro world ⟨due, begun⟩
    exact .inl ⟨last, limit, before, scheduled,
      due.elsewhere rfl (due.now.trans (by linarith)), begun⟩
  split_ifs with due
  · have begun := (since earliest).controlUpdate connected
    have updated := controlUpdate_due healthy accepted within precise suffices' connected
      (fresh (now + 2 * commands + 2 * reads) (by linarith))
    apply Ensures.bind ((updated.keeping begun).returning fun _ _ => exists_and_right.mpr)
    intro _
    apply Ensures.given_exists
    intro update
    apply Ensures.bind sample
    intro now
    apply Ensures.given
    rintro ⟨inTime, begun⟩
    rw [pure_bind]
    by_cases early : now < latest
    · have rounded := precise.next now begun early
      have inTime' : now ≤ max (fl (now + config.periodS)) now + 2 * commands := by
        have := le_max_right (fl (now + config.periodS)) now
        linarith
      apply (rest (le_max_left _ now) inTime' _).strengthen fun _ due => ⟨due.1.1, due.2⟩
      intro _ same
      cases same
      apply max_le <;> linarith
    · have late (world : World) (due : DueNow config (some update) now world ∧
          Since earliest world) :
          Due config (some update) now world ∧ Since latest world :=
        ⟨due.1.1, (not_lt.mp early).trans due.1.2.ge⟩
      apply Ensures.bind (((sleep_due healthy _).keeping (since latest).sleep).strengthen late)
      intro _
      exact Ensures.pure fun _ due => .inr due.2
  · exact rest before (by linarith) scheduled

theorem loop_due (rounds : Nat) (next : ℚ) :
    Ensures
      (fun world => RoundDue config reads commands earliest slack next world ∨
        Since latest world)
      (ControlLoop.loop config environment connected rounds next)
      (fun later world => RoundDue config reads commands earliest slack later world ∨
        Since latest world)
      (fun _ => Since latest) := by
  induction rounds generalizing next with
  | zero => exact Ensures.pure fun _ => id
  | succ rounds induction =>
      have early := iteration_due healthy accepted within precise suffices' connected next
      have since := since_rules latest healthy accepted
      have late := since.iteration connected next
      exact Ensures.bind ((early.raising fun _ _ impossible => impossible.elim).or
        (late.returning fun _ _ => .inr)) fun later => induction later

omit precise suffices' in
theorem start_due {time : ℚ} (begins : earliest ≤ time) {initialPlugs : Int → Bool} :
    Returns (fun world => world = World.fresh time initialPlugs)
      (ControlLoop.start config environment connected)
      (fun next => RoundDue config reads commands earliest slack next) := by
  have since := since_rules earliest healthy accepted
  have beginning : Returns (fun world => world = World.fresh time initialPlugs)
      (monotonic environment)
      (fun now world => now ≤ time ∧ DueNow config none now world ∧
        Since earliest world) := by
    apply (((monotonic_due healthy).keeping since.monotonic).strengthen _).returning
    · exact fun now world outcome => ⟨outcome.1.1, outcome.1.2, outcome.2⟩
    · intro world same
      subst same
      exact ⟨⟨by simp [Timely, World.fresh], rfl, le_rfl⟩, begins⟩
  apply Ensures.bind beginning
  intro now
  apply Ensures.given
  intro _
  have initialized : Returns (DueNow config none now)
      (initializeActuator config environment now)
      (fun _ => Due config none (now + 2 * commands)) := by
    intro world holds
    rcases holds with ⟨due, current⟩
    have succeeds (world : World) (node : Int) (on : Bool) :
        world.succeeds environment node on = true := by
      simp [World.succeeds, World.reply, healthy.commands]
    rw [initializeActuator_run healthy.tame, if_pos ⟨succeeds _ _ _, succeeds _ _ _⟩]
    have first := within.setPlug world.pointed config.nodePlugHeat false
    have second := within.setPlug
      (world.sent environment config.nodePlugHeat false).pointed config.nodePlugCool false
    have sent : Due config none (now + 2 * commands)
        ((world.sent environment config.nodePlugHeat false).sent environment
          config.nodePlugCool false) := by
      apply due.commanded ((World.Commanded.sent _ _).trans (World.Commanded.sent _ _))
      rw [World.sent_now, World.sent_now, World.reply, World.reply, current]
      linarith
    exact sent.elsewhere rfl sent.now
  apply Ensures.bind
    (initialized.keeping ((since_tariff earliest healthy).initializeActuator now).keeps)
  intro transition
  apply Ensures.bind ((emitTransition_due healthy connected _).keeping
    (since.emitTransition connected _))
  intro _
  apply Ensures.pure
  intro world outcome
  have := accepted.valid.control.actuatorTickS_pos
  refine ⟨none, now, le_rfl, ?_, outcome.1.elsewhere rfl ?_, outcome.2⟩
  · intro _ same
    cases same
  · exact outcome.1.now.trans (by linarith)

theorem run_timely (rounds : Nat) {time : ℚ} (begins : earliest ≤ time)
    (initialPlugs : Int → Bool)
    (ends : (finalState ((ControlLoop.run config environment connected rounds).run
      (World.fresh time initialPlugs))).now < latest) :
    Timely config (runLog config environment connected rounds time initialPlugs) := by
  have since := since_rules latest healthy accepted
  have started : Returns (fun world => world = World.fresh time initialPlugs)
      (ControlLoop.start config environment connected)
      (fun next => RoundDue config reads commands earliest slack next) :=
    start_due healthy accepted within connected begins
  have whole : Ensures (fun world => world = World.fresh time initialPlugs)
      (ControlLoop.run config environment connected rounds)
      (fun _ world => Timely config world.log ∨ Since latest world)
      (fun _ world => Timely config world.log ∨ Since latest world) := by
    apply Ensures.bind (started.raising fun _ _ impossible => impossible.elim)
    intro next
    apply Ensures.tryCatch
    · have looped := loop_due healthy accepted within precise suffices' connected rounds next
      apply Ensures.bind (looped.strengthen fun _ => .inl)
      intro later
      apply Ensures.pure
      rintro world (⟨last, _, _, _, due, _⟩ | late)
      · exact .inl due.timely
      · exact .inr late
    · intro exception
      apply (Keeps.bind (since.finish connected) fun _ => Keeps.throw exception).weaken
      · exact fun _ late => late
      · exact fun _ _ => .inr
      · exact fun _ _ => .inr
  exact (whole.finalState rfl).resolve_right (not_le.mpr ends)

end Methods

end Deadlines

open Binary64 FloatingPoint

theorem Config.Accepted.precise (accepted : config.Accepted)
    (representable : binary64.Member config.control.commandStaleTimeoutS)
    {horizon : ℚ} (atLeastOne : 1 ≤ horizon) :
    Precise config (-horizon) horizon
      (binary64.unitRoundoff * (horizon + config.periodS)) where
  slack_nonneg := by
    have positive := accepted.valid.periodS_pos
    exact mul_nonneg Format.unitRoundoff_pos.le (by linarith)
  span span le := representable.round_le le
  next now begun early := by
    have positive := accepted.valid.periodS_pos
    have size : |horizon + config.periodS| = horizon + config.periodS :=
      abs_of_pos (by linarith)
    have normal : binary64.Normal (horizon + config.periodS) := by
      have one := Format.binary64_fine.normal
      rw [Format.Normal, abs_one] at one
      rw [Format.Normal, size]
      linarith
    have lesser : |now + config.periodS| ≤ |horizon + config.periodS| := by
      rw [size, abs_le]
      constructor <;> linarith
    have error := normal.abs_round_sub_le_of_le lesser
    rw [size, abs_le] at error
    change binary64.round (now + config.periodS) ≤ _
    linarith

/-- A healthy run never finds its effort stale if `command_stale_timeout_s` leaves room for a
tick, three reads and eight plug commands on top of `period_s`, and for what is lost in
`now + period_s`. -/
theorem effort_never_stale (healthy : environment.Healthy config) (accepted : config.Accepted)
    (representable : binary64.Member config.control.commandStaleTimeoutS)
    {reads commands horizon : ℚ} (atLeastOne : 1 ≤ horizon)
    (within : environment.Within reads commands)
    (sufficient : config.periodS + config.control.actuatorTickS + 3 * reads + 8 * commands +
      binary64.unitRoundoff * (horizon + config.periodS) ≤
        config.control.commandStaleTimeoutS)
    (connected : Bool) (rounds : Nat) (time : ℚ) (initialPlugs : Int → Bool)
    (begins : -horizon ≤ time)
    (ends : (finalState ((ControlLoop.run config environment connected rounds).run
      (World.fresh time initialPlugs))).now < horizon) :
    NeverStale (runLog config environment connected rounds time initialPlugs) := by
  rw [neverStale_iff_timely config healthy.tame]
  have precise := accepted.precise representable atLeastOne
  exact run_timely healthy accepted within precise sufficient connected rounds begins
    initialPlugs ends

theorem Environment.obedient_healthy (nonneg : 0 ≤ config.chipTimeoutS) :
    obedient.Healthy config := by
  have instant : CallTiming.instant.duration ≤ config.chipTimeoutS := by
    change (0 : ℚ) ≤ config.chipTimeoutS
    exact_mod_cast nonneg
  exact ⟨fun _ => rfl, fun _ => rfl, fun _ _ _ => rfl, fun _ _ _ => instant,
    fun _ _ _ => ⟨0, rfl⟩, fun _ _ _ => instant, fun _ _ _ => ⟨0, rfl⟩,
    fun _ _ _ => instant, fun _ _ raised => by cases raised⟩

theorem effort_never_stale_instantaneous :
    NeverStale (runLog Config.shipped .obedient true 200 0 fun _ => false) := by
  have within : Environment.obedient.Within 0 0 :=
    ⟨fun _ _ _ => le_refl 0, fun _ _ _ => le_refl 0, fun _ _ _ => le_refl 0⟩
  have ends : (finalState ((ControlLoop.run Config.shipped .obedient true 200).run
      (World.fresh 0 fun _ => false))).now < 2 ^ 20 := by
    decide +kernel
  exact effort_never_stale (Environment.obedient_healthy (by decide))
    Config.shipped_accepted (by decide +kernel) (by decide +kernel) within (by decide +kernel)
    true 200 0 (fun _ => false) (by decide +kernel) ends

def CallTiming.oneSecond : CallTiming where
  duration := 1
  effectAfter := 1
  effectAfter_nonneg := by norm_num
  effectAfter_le := le_refl 1

def Environment.slowSensors : Environment :=
  { obedient with
    readTempCenti := fun _ _ _ => { CallTiming.oneSecond with value := .ok 1900 }
    readGravityMilli := fun _ _ _ => { CallTiming.oneSecond with value := .ok 1050 } }

/-- An effort may be as old as the time between two updates. -/
def Config.hurried : Config :=
  { shipped with
    control := { shipped.control with actuatorTickS := 10, commandStaleTimeoutS := 60 } }

theorem Config.hurried_accepted : hurried.Accepted := by
  rw [accepted_iff_valid]
  have control : hurried.control.Valid hurried.periodS := by
    constructor <;> norm_num [hurried, shipped]
  exact ⟨by norm_num [hurried, shipped], control, by decide, by decide, by decide⟩

theorem Environment.slowSensors_healthy : slowSensors.Healthy Config.hurried := by
  have inTime : CallTiming.oneSecond.duration ≤ Config.hurried.chipTimeoutS := by
    decide +kernel
  have instant : CallTiming.instant.duration ≤ Config.hurried.chipTimeoutS := by
    decide +kernel
  exact ⟨fun _ => rfl, fun _ => rfl, fun _ _ _ => rfl, fun _ _ _ => instant,
    fun _ _ _ => ⟨1900, rfl⟩, fun _ _ _ => inTime, fun _ _ _ => ⟨1050, rfl⟩,
    fun _ _ _ => inTime, fun _ _ raised => by cases raised⟩

/-- The effort set at 2 is stale at 63, when the next update is due. -/
theorem effort_goes_stale :
    ¬∀ (config : Config) (environment : Environment) (connected : Bool) (rounds : Nat)
      (time : ℚ) (initialPlugs : Int → Bool),
      config.Accepted → environment.Healthy config →
      NeverStale (runLog config environment connected rounds time initialPlugs) := by
  intro claimed
  have never := claimed .hurried .slowSensors false 7 0 (fun _ => false)
    Config.hurried_accepted Environment.slowSensors_healthy
  let log := runLog .hurried .slowSensors false 7 0 fun _ => false
  let stale : ActuatorPlan := ⟨.idle, 0, 0, 0, 1800, .staleCommand⟩
  have fresh := (never ⟨63, .planned stale⟩ (log.drop 14) (by decide +kernel)
    (by decide +kernel)).1
  exact fresh ⟨stale, ⟨63, .ticked⟩, log.drop 15, rfl, rfl, by decide +kernel, rfl⟩

end BuranBrew.Host

import BuranBrew.Foundation.History
import BuranBrew.Host.Decisions
import BuranBrew.Host.LoopRules

/-! # How long an effort stays fresh

`set_effort` is called once in a control update. Between two calls lie the rest
of the update, `period_s`, one sleep too many and the next two reads, all of
which have to fit into `command_stale_timeout_s`.
-/

namespace BuranBrew.Host

open Execution History TimeProportionalActuator

variable {config : Config} {environment : Environment}

/-! ## What the log shows -/

def lastSetEffort : List Event → Option ℚ
  | [] => none
  | ⟨time, .setEffort _ _⟩ :: _ => some time
  | _ :: earlier => lastSetEffort earlier

/-- A tick computes a plan with reason stale-command. -/
def StaleTick (event : Event) (earlier : List Event) : Prop :=
  ∃ plan tick before, event.kind = .planned plan ∧ plan.reason = .staleCommand ∧
    earlier = tick :: before ∧ tick.kind = .ticked

def Restarts (event : Event) : Prop :=
  ∃ effort, event.kind = .setEffort effort true

/-- After the first control update the effort never goes stale. -/
def NeverStale (log : List Event) : Prop :=
  Throughout (fun event earlier => lastSetEffort earlier ≠ none →
    ¬StaleTick event earlier ∧ ¬Restarts event) log

def EventKind.needsEffort : EventKind → Bool
  | .ticked | .setEffort _ _ => true
  | _ => false

/-- Ticks and calls of `set_effort` follow the last `set_effort` in time. -/
def Timely [Rounding] (config : Config) (log : List Event) : Prop :=
  Throughout (fun event earlier => event.kind.needsEffort = true →
    ∀ last, lastSetEffort earlier = some last →
      fl (event.time - last) ≤ config.control.commandStaleTimeoutS) log

/-- Neither a tick nor a decision nor a `set_effort`. -/
def EventKind.isAside : EventKind → Bool
  | .ticked | .planned _ | .setEffort _ _ => false
  | _ => true

section Aside

variable {event : Event} {log : List Event}

theorem lastSetEffort_aside (aside : event.kind.isAside = true) :
    lastSetEffort (event :: log) = lastSetEffort log := by
  rcases event with ⟨time, kind⟩
  cases kind <;> first | rfl | cases aside

theorem neverStale_aside (aside : event.kind.isAside = true) :
    NeverStale (event :: log) ↔ NeverStale log := by
  rw [NeverStale, throughout_cons, ← NeverStale, and_iff_right_iff_imp]
  intro _ _
  constructor
  · intro planning
    rcases planning with ⟨plan, tick, before, planned, _⟩
    rw [planned] at aside
    cases aside
  · intro newest
    rcases newest with ⟨effort, restarted⟩
    rw [restarted] at aside
    cases aside

theorem timely_aside [Rounding] (aside : event.kind.isAside = true) :
    Timely config (event :: log) ↔ Timely config log := by
  rw [Timely, throughout_cons, ← Timely, and_iff_right_iff_imp]
  intro _ needs
  rcases event with ⟨time, kind⟩
  cases kind <;> first | exact absurd needs Bool.false_ne_true | cases aside

end Aside

/-! ## Decisions on stale efforts -/

section Efforts

variable [Rounding]

theorem stale_iff {now : ℚ} {self : Actuator} {decided : ActuatorPlan}
    (plans : config.Plans now self decided) :
    decided.reason = .staleCommand ↔
      ∃ last, self.lastEffortUpdate = some last ∧
        fl (now - last) > config.control.commandStaleTimeoutS := by
  rw [← self.advanceWindow_lastEffortUpdate config.control.windowS now]
  have decides := plans.decides
  generalize self.advanceWindow config.control.windowS now = advanced at decides ⊢
  have recent (asks : advanced.AsksForPulse config.control now) :
      ¬∃ last, advanced.lastEffortUpdate = some last ∧
        fl (now - last) > config.control.commandStaleTimeoutS := by
    rcases asks with ⟨⟨last, update, fresh⟩, _⟩
    intro stale
    rcases stale with ⟨other, same, late⟩
    cases update.symm.trans same
    exact absurd late (not_lt.mpr fresh)
  cases decides with
  | noCommand never => simp [never]
  | staleCommand last update late => simpa [update] using late
  | deadband last update fresh small => simpa [update] using fresh
  | belowMinPulse last update fresh short => simpa [update] using fresh
  | dutyOff start asks => simpa using recent asks
  | reverseLockout start asks => simpa using recent asks
  | dutyOn start asks => simpa using recent asks

theorem wasStale_iff (config : Config) (now : ℚ) (self : Actuator) :
    self.wasStale config.control now = true ↔
      ∀ last, self.lastEffortUpdate = some last →
        fl (now - last) > config.control.commandStaleTimeoutS := by
  unfold Actuator.wasStale
  cases self.lastEffortUpdate <;> simp

/-! ## The log tells the attributes -/

/-- The effort is as old as the log says, and it is found stale exactly when it
is too old. -/
structure Tracked (config : Config) (world : World) : Prop where
  effort : lastSetEffort world.log = world.actuator.lastEffortUpdate
  decided : ∀ event ∈ world.log.head?, event.kind ≠ .ticked
  agree : NeverStale world.log ↔ Timely config world.log

theorem Tracked.aside {world next : World} (tracked : Tracked config world)
    {event : Event} (aside : event.kind.isAside = true)
    (log : next.log = event :: world.log)
    (update : next.actuator.lastEffortUpdate = world.actuator.lastEffortUpdate) :
    Tracked config next := by
  constructor
  · rw [log, lastSetEffort_aside aside, update]
    exact tracked.effort
  · intro newest among
    rw [log, List.head?_cons, Option.mem_some_iff] at among
    subst among
    intro ticked
    rw [ticked] at aside
    cases aside
  · rw [log, neverStale_aside aside, timely_aside aside]
    exact tracked.agree

theorem Tracked.commanded {world next : World} (tracked : Tracked config world)
    (commanded : world.Commanded environment next) : Tracked config next := by
  induction commanded with
  | refl => exact tracked
  | tail _ step induction =>
      rcases step with ⟨node, on, rfl⟩
      exact induction.aside rfl rfl rfl

theorem Tracked.settled {world : World} (tracked : Tracked config world)
    (wanted : Action) (now : ℚ) (points : Nat) :
    Tracked config (world.settled wanted now points) := by
  have became : (⟨world.now, .became wanted⟩ : Event).kind.isAside = true := rfl
  apply tracked.aside became rfl
  exact Actuator.settled_lastEffortUpdate _ _ _

theorem Tracked.planned {world : World} (tracked : Tracked config world) (now : ℚ)
    (decided : ActuatorPlan) : Tracked config (world.planned config now decided) := by
  have new : ¬StaleTick ⟨world.now, .planned decided⟩ world.log := by
    intro planning
    rcases planning with ⟨plan, tick, before, _, _, log, ticked⟩
    exact tracked.decided tick (by rw [log]; rfl) ticked
  constructor
  · exact tracked.effort.trans (Actuator.advanceWindow_lastEffortUpdate _ _ _).symm
  · intro newest same
    cases same
    exact fun ticked => by cases ticked
  · change NeverStale (⟨world.now, .planned decided⟩ :: world.log) ↔
      Timely config (⟨world.now, .planned decided⟩ :: world.log)
    rw [NeverStale, throughout_cons, ← NeverStale, Timely, throughout_cons, ← Timely,
      tracked.agree]
    constructor
    · exact fun holds => ⟨fun needs => absurd needs Bool.false_ne_true, holds.2⟩
    · exact fun holds => ⟨fun _ => ⟨new, by rintro ⟨effort, ⟨⟩⟩⟩, holds.2⟩

/-- A tick finds the effort stale exactly when it comes too late. -/
theorem Tracked.ticked {world : World} (tracked : Tracked config world)
    {decided : ActuatorPlan} (plans : config.Plans world.now world.actuator decided) :
    Tracked config ((world.logged .ticked).planned config world.now decided) := by
  have late := stale_iff plans
  rw [← tracked.effort] at late
  constructor
  · exact tracked.effort.trans (Actuator.advanceWindow_lastEffortUpdate _ _ _).symm
  · intro newest same
    cases same
    exact fun ticked => by cases ticked
  · change NeverStale (⟨world.now, .planned decided⟩ :: ⟨world.now, .ticked⟩ :: world.log) ↔
      Timely config (⟨world.now, .planned decided⟩ :: ⟨world.now, .ticked⟩ :: world.log)
    rw [NeverStale, throughout_cons, throughout_cons, ← NeverStale, Timely,
      throughout_cons, throughout_cons, ← Timely, tracked.agree]
    constructor
    · intro holds
      rcases holds with ⟨fresh, _, timely⟩
      refine ⟨fun needs => absurd needs Bool.false_ne_true, fun _ last known => ?_, timely⟩
      by_contra ended
      have stale := late.mpr ⟨last, known, not_le.mp ended⟩
      have known' : lastSetEffort (⟨world.now, .ticked⟩ :: world.log) ≠ none := by
        change lastSetEffort world.log ≠ none
        simp [known]
      exact (fresh known').1 ⟨decided, _, _, rfl, stale, rfl, rfl⟩
    · intro holds
      rcases holds with ⟨_, intime, timely⟩
      refine ⟨fun _ => ⟨?_, by rintro ⟨effort, ⟨⟩⟩⟩, fun _ => ⟨?_, by rintro ⟨effort, ⟨⟩⟩⟩,
        timely⟩
      · intro planning
        rcases planning with ⟨plan, tick, before, ⟨⟩, stale, _⟩
        rcases late.mp stale with ⟨last, known, ended⟩
        exact absurd (intime rfl last known) (not_le.mpr ended)
      · intro planning
        rcases planning with ⟨plan, tick, before, ⟨⟩, _⟩

theorem Tracked.effortSet {world : World} (tracked : Tracked config world) (effort : ℚ)
    (points : Nat) : Tracked config (world.effortSet config effort world.now points) := by
  have late := wasStale_iff config world.now world.actuator
  rw [← tracked.effort] at late
  constructor
  · rfl
  · intro newest same
    cases same
    exact fun ticked => by cases ticked
  · unfold World.effortSet
    rw [NeverStale, throughout_cons, ← NeverStale, Timely, throughout_cons, ← Timely,
      tracked.agree]
    apply and_congr_left
    intro _
    constructor
    · intro fresh _ last known
      by_contra ended
      have stale : world.actuator.wasStale config.control world.now = true := by
        rw [late, known]
        intro _ same
        cases same
        exact not_le.mp ended
      exact (fresh (by simp [known])).2 ⟨_, by rw [stale]⟩
    · intro intime called
      refine ⟨by rintro ⟨plan, tick, before, ⟨⟩, _⟩, ?_⟩
      intro newest
      rcases newest with ⟨_, restarted⟩
      have stale := late.mp (EventKind.setEffort.inj restarted).2
      rcases Option.ne_none_iff_exists'.mp called with ⟨last, known⟩
      exact absurd (intime rfl last known) (not_le.mpr (stale last known))

theorem tracked_rules (config : Config) (tame : environment.Tame) :
    LoopInvariant config environment (Tracked config)
      (fun now world => Tracked config world ∧ world.now = now) where
  pointFree world tracked := ⟨tracked.effort, tracked.decided, tracked.agree⟩
  sampledPointFree now world tracked :=
    ⟨⟨tracked.1.effort, tracked.1.decided, tracked.1.agree⟩, tracked.2⟩
  released now world tracked := tracked.1
  clocked world tracked := ⟨tracked.aside rfl rfl rfl, rfl⟩
  slept world tracked := tracked.aside rfl rfl rfl
  answered world node endpoint reply tracked := tracked.aside rfl rfl rfl
  emitted world telemetry tracked := tracked.aside rfl rfl rfl
  remembered now world controller loop tracked :=
    ⟨⟨tracked.1.effort, tracked.1.decided, tracked.1.agree⟩, tracked.2⟩
  setEffort effort now := by
    intro world holds
    rcases holds with ⟨tracked, rfl⟩
    rcases setEffort_run config tame.quiet effort world.now world with ⟨points, ran⟩
    rw [ran]
    exact ⟨tracked.effortSet effort points, rfl⟩
  tick now := by
    apply Ensures.of_finalState
    intro world holds
    rcases holds with ⟨tracked, rfl⟩
    have result := tick_result config tame world.now world
    generalize (TimeProportionalActuator.tick config environment world.now).run world =
      outcome at result ⊢
    cases result with
    | unchanged decided plans => exact tracked.ticked plans
    | refused decided after plans _ switching =>
        exact (tracked.ticked plans).commanded (switch_commanded tame switching)
    | switched decided after points plans _ switching =>
        exact ((tracked.ticked plans).commanded (switch_commanded tame switching)).settled
          _ _ _
  plan now := by
    apply Ensures.of_finalState
    intro world tracked
    rcases world.actuator.plan_advanceWindow config.control now with ⟨decided, plans⟩
    rw [plan_run tame.quiet world plans]
    exact tracked.planned now decided
  forceIdle now reason := by
    apply Ensures.of_finalState
    intro world holds
    rcases holds with ⟨tracked, rfl⟩
    have result := forceIdle_result config tame world.now reason world
    generalize (TimeProportionalActuator.forceIdle config environment world.now reason).run
      world = outcome at result ⊢
    cases result with
    | unchanged => exact tracked
    | refused after _ switching =>
        exact tracked.commanded (switch_commanded tame switching)
    | switched after points _ _ switching =>
        exact (tracked.commanded (switch_commanded tame switching)).settled _ _ _

theorem Tracked.initialized (tame : environment.Tame) {world : World}
    (tracked : Tracked config world) (now : ℚ) :
    Tracked config (finalState ((initializeActuator config environment now).run world)) := by
  have sent (world : World) (tracked : Tracked config world) (node : Int) :
      Tracked config (world.sent environment node false) :=
    tracked.commanded (World.Commanded.sent node false)
  have bothSent := sent _ (sent _ tracked config.nodePlugHeat) config.nodePlugCool
  rw [initializeActuator_run tame]
  split_ifs
  · exact ⟨bothSent.effort, bothSent.decided, bothSent.agree⟩
  · exact bothSent

theorem tracked_fresh (config : Config) (time : ℚ) (initialPlugs : Int → Bool) :
    Tracked config (World.fresh time initialPlugs) :=
  ⟨rfl, by simp [World.fresh], by simp [NeverStale, Timely, World.fresh]⟩

theorem start_tracked (config : Config) (tame : environment.Tame) (connected : Bool) :
    Keeps (Tracked config) (ControlLoop.start config environment connected) := by
  have rules := tracked_rules config tame
  apply Ensures.bind rules.monotonic
  intro now
  have initialized : Ensures (fun world => Tracked config world ∧ world.now = now)
      (initializeActuator config environment now) (fun _ => Tracked config)
      (fun _ => Tracked config) :=
    Ensures.of_finalState fun world tracked => tracked.1.initialized tame now
  apply Ensures.bind initialized
  exact fun transition => Keeps.bind (rules.emitTransition connected _) fun _ => Keeps.pure _

def runLog (config : Config) (environment : Environment) (connected : Bool) (rounds : Nat)
    (time : ℚ) (initialPlugs : Int → Bool) : List Event :=
  (finalState ((ControlLoop.run config environment connected rounds).run
    (World.fresh time initialPlugs))).log

theorem neverStale_iff_timely (config : Config) (tame : environment.Tame)
    (connected : Bool) (rounds : Nat) (time : ℚ) (initialPlugs : Int → Bool) :
    NeverStale (runLog config environment connected rounds time initialPlugs) ↔
      Timely config (runLog config environment connected rounds time initialPlugs) := by
  have tracked : Tracked config (finalState
      ((ControlLoop.run config environment connected rounds).run
        (World.fresh time initialPlugs))) :=
    ((tracked_rules config tame).run connected rounds
      (start_tracked config tame connected)).finalState
      (tracked_fresh config time initialPlugs)
  exact tracked.agree

end Efforts

/-! ## How long an update takes -/

/-- Bounds on the durations of reads and of plug commands. -/
structure Environment.Within (environment : Environment) (reads commands : ℚ) : Prop where
  temperatures : ∀ world node endpoint,
    (environment.readTempCenti world node endpoint).duration ≤ reads
  gravity : ∀ world node endpoint,
    (environment.readGravityMilli world node endpoint).duration ≤ reads
  setPlug : ∀ world node on, (environment.setPlug world node on).duration ≤ commands

theorem Environment.Healthy.within (healthy : environment.Healthy config) :
    environment.Within config.chipTimeoutS config.chipTimeoutS :=
  ⟨healthy.temperatureDuration, healthy.gravityDuration, healthy.commandDuration⟩

theorem Environment.Within.reads_nonneg {reads commands : ℚ}
    (within : environment.Within reads commands) : 0 ≤ reads :=
  let world := World.fresh 0 fun _ => false
  (environment.readGravityMilli world 0 0).duration_nonneg.trans (within.gravity world 0 0)

theorem Environment.Within.commands_nonneg {reads commands : ℚ}
    (within : environment.Within reads commands) : 0 ≤ commands :=
  let world := World.fresh 0 fun _ => false
  (environment.setPlug world 0 false).duration_nonneg.trans (within.setPlug world 0 false)

theorem switchOff_now_le (tame : environment.Tame) {reads commands : ℚ}
    (within : environment.Within reads commands) (wanted nodes : List Int) (world : World) :
    (finalState ((switchOff environment wanted nodes).run world)).now ≤
      world.now + (nodes.filter (· ∉ wanted)).length * commands := by
  induction nodes generalizing world with
  | nil => simp
  | cons node nodes induction =>
      by_cases member : node ∈ wanted
      · rw [switchOff_cons_wanted member]
        simpa [member] using induction world
      · have rest := induction (world.sent environment node false)
        have duration := within.setPlug world.pointed node false
        rw [switchOff_cons_run tame member]
        simp only [member, not_false_eq_true, decide_true, List.filter_cons_of_pos,
          List.length_cons, Nat.cast_add, Nat.cast_one]
        generalize (switchOff environment wanted nodes).run
          (world.sent environment node false) = outcome at rest
        cases outcome
        all_goals
          simp only [finalState_ok, finalState_error, World.sent_now] at rest ⊢
          unfold World.reply at rest
          linarith

theorem switch_now_le (tame : environment.Tame) {reads commands : ℚ}
    (within : environment.Within reads commands) {action : Action} {world after : World}
    {success : Bool}
    (switching : (switch config environment action).run world = .ok success after) :
    after.now ≤ world.now + 2 * commands := by
  have nonneg := within.commands_nonneg
  have off := switchOff_now_le tame within (config.wantedNodes action)
    [config.nodePlugHeat, config.nodePlugCool] world
  rcases switchOff_commands tame (config.wantedNodes action)
    [config.nodePlugHeat, config.nodePlugCool] world with ⟨anyFailed, middle, ran, _⟩
  rw [ran, finalState_ok] at off
  simp only [switch, EStateM.run_bind, ran] at switching
  rcases action.idle_or_direction with rfl | ⟨direction, rfl⟩
  · have two : ([config.nodePlugHeat, config.nodePlugCool].filter
        (· ∉ config.wantedNodes .idle)).length = 2 := by simp [Config.wantedNodes]
    rw [two] at off
    cases anyFailed <;> cases switching <;> exact_mod_cast off
  · have one : ([config.nodePlugHeat, config.nodePlugCool].filter
        (· ∉ config.wantedNodes direction.action)).length ≤ 1 := by
      rw [config.wantedNodes_action]
      cases direction <;> simp only [Config.node, List.filter_cons] <;> split_ifs <;>
        simp_all
    have atMost : middle.now ≤ world.now + commands := by
      have : (([config.nodePlugHeat, config.nodePlugCool].filter
          (· ∉ config.wantedNodes direction.action)).length : ℚ) ≤ 1 := by exact_mod_cast one
      nlinarith
    cases anyFailed with
    | true =>
        cases switching
        linarith
    | false =>
        rw [config.wantedNodes_action] at switching
        simp only [Bool.false_eq_true, if_false, switchOn_singleton_run tame] at switching
        cases switching
        have last := within.setPlug middle.pointed (config.node direction) true
        rw [World.sent_now, World.reply]
        linarith

end BuranBrew.Host

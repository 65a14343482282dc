import BuranBrew.Host.Invariants
import Mathlib.Logic.Relation

/-! # What the actuator's methods do

One equation for each method, in an environment without asynchronous
exceptions whose plug commands fail only with the exceptions `_switch` catches.
-/

namespace BuranBrew.Host

open Execution

namespace Environment

/-- No exception arrives between two statements. -/
def Quiet (environment : Environment) : Prop :=
  ∀ world, environment.interrupt world = none

/-- A plug command succeeds or raises `RuntimeError` or `TimeoutExpired`. -/
def CommandFailuresOnly (environment : Environment) : Prop :=
  ∀ world node on exception tookEffect,
    (environment.setPlug world node on).outcome = .raised exception tookEffect →
      exception.isCommandFailure = true

structure Tame (environment : Environment) : Prop where
  quiet : environment.Quiet
  failures : environment.CommandFailuresOnly

def Instantaneous (environment : Environment) : Prop :=
  ∀ world node on, (environment.setPlug world node on).duration = 0

structure Prompt (environment : Environment) : Prop where
  quiet : environment.Quiet
  commands : ∀ world node on, (environment.setPlug world node on).outcome = .done
  instantaneous : environment.Instantaneous

theorem Prompt.tame {environment : Environment} (prompt : environment.Prompt) :
    environment.Tame :=
  ⟨prompt.quiet, fun world node on exception tookEffect raised => by
    rw [prompt.commands] at raised
    cases raised⟩

/-- Every chip-tool call succeeds within `chip_timeout_s`, the clock tells the
time, and nothing else raises. -/
structure Healthy (config : Config) (environment : Environment) : Prop where
  quiet : environment.Quiet
  clock : ∀ world, environment.clock world = world.now
  commands : ∀ world node on, (environment.setPlug world node on).outcome = .done
  commandDuration : ∀ world node on,
    (environment.setPlug world node on).duration ≤ config.chipTimeoutS
  temperatures : ∀ world node endpoint, ∃ value,
    (environment.readTempCenti world node endpoint).value = .ok value
  temperatureDuration : ∀ world node endpoint,
    (environment.readTempCenti world node endpoint).duration ≤ config.chipTimeoutS
  gravity : ∀ world node endpoint, ∃ value,
    (environment.readGravityMilli world node endpoint).value = .ok value
  gravityDuration : ∀ world node endpoint,
    (environment.readGravityMilli world node endpoint).duration ≤ config.chipTimeoutS
  telemetry : ∀ world exception, environment.redis world = some exception →
    exception.isException = true

theorem Healthy.tame {config : Config} {environment : Environment}
    (healthy : environment.Healthy config) : environment.Tame :=
  ⟨healthy.quiet, fun world node on exception tookEffect raised => by
    rw [healthy.commands] at raised
    cases raised⟩

/-- Commands take no time, sensors read zero and telemetry is accepted. -/
def instantly (outcome : World → Int → Bool → PlugOutcome) : Environment where
  interrupt _ := none
  clock world := world.now
  setPlug world node on := { CallTiming.instant with outcome := outcome world node on }
  readTempCenti _ _ _ := { CallTiming.instant with value := .ok 0 }
  readGravityMilli _ _ _ := { CallTiming.instant with value := .ok 0 }
  redis _ := none

theorem instantly_tame {outcome : World → Int → Bool → PlugOutcome}
    (failures : ∀ world node on exception tookEffect,
      outcome world node on = .raised exception tookEffect →
        exception.isCommandFailure = true) :
    (instantly outcome).Tame :=
  ⟨fun _ => rfl, failures⟩

def obedient : Environment := instantly fun _ _ _ => .done

theorem obedient_tame : obedient.Tame :=
  instantly_tame (by simp)

theorem obedient_prompt : obedient.Prompt :=
  ⟨fun _ => rfl, fun _ _ _ => rfl, fun _ _ _ => rfl⟩

end Environment

namespace World

variable (environment : Environment)

def succeeds (world : World) (node : Int) (on : Bool) : Bool :=
  (world.reply environment node on).outcome = .done

theorem succeeds_iff (world : World) (node : Int) (on : Bool) :
    world.succeeds environment node on =
      !(world.commandEvent environment node on).kind.isFailure := by
  unfold succeeds commandEvent
  cases (world.reply environment node on).outcome <;> rfl

theorem sent_plugs_of_succeeds {world : World} {node : Int} {on : Bool}
    (success : world.succeeds environment node on) :
    (world.sent environment node on).plugs =
      Function.update world.plugs node on :=
  sent_plugs_of_done environment (by simpa [succeeds] using success)

/-- Nothing but plug commands leads from one world to the other. -/
def Commanded : World → World → Prop :=
  Relation.ReflTransGen fun world next => ∃ node on, next = world.sent environment node on

namespace Commanded

variable {environment} {world final : World}

theorem sent (node : Int) (on : Bool) :
    Commanded environment world (world.sent environment node on) :=
  .single ⟨node, on, rfl⟩

theorem actuator (commanded : Commanded environment world final) :
    final.actuator = world.actuator := by
  induction commanded with
  | refl => rfl
  | tail _ step induction =>
      rcases step with ⟨node, on, rfl⟩
      exact induction

theorem controller (commanded : Commanded environment world final) :
    final.controller = world.controller := by
  induction commanded with
  | refl => rfl
  | tail _ step induction =>
      rcases step with ⟨node, on, rfl⟩
      exact induction

theorem initialPlugs (commanded : Commanded environment world final) :
    final.initialPlugs = world.initialPlugs := by
  induction commanded with
  | refl => rfl
  | tail _ step induction =>
      rcases step with ⟨node, on, rfl⟩
      exact induction

theorem log_suffix (commanded : Commanded environment world final) :
    world.log <:+ final.log := by
  induction commanded with
  | refl => exact List.suffix_refl _
  | tail _ step induction =>
      rcases step with ⟨node, on, rfl⟩
      exact induction.trans (List.suffix_cons _ _)

end Commanded

end World

namespace TimeProportionalActuator

variable {config : Config} {environment : Environment}

theorem point_run (quiet : environment.Quiet) (world : World) :
    (point environment).run world = .ok () world.pointed := by
  simp [point, quiet world]

theorem point_returns {invariant : World → Prop} (quiet : environment.Quiet)
    (pointFree : PointFree invariant) :
    Returns invariant (point environment) (fun _ => invariant) := by
  intro world holds
  rw [point_run quiet]
  exact pointFree world holds

theorem assign_run (quiet : environment.Quiet) (update : Actuator → Actuator)
    (world : World) :
    (assign environment update).run world =
      .ok () { world.pointed with actuator := update world.actuator } := by
  simp [assign, point_run quiet, World.pointed]

theorem become_run (quiet : environment.Quiet) (action : Action) (world : World) :
    (become environment action).run world = .ok () (world.pointed.become action) := by
  simp only [become, EStateM.run_bind, assign_run quiet]
  rfl

theorem fails_setPlug_run (tame : environment.Tame) (world : World) (node : Int)
    (on : Bool) :
    (fails (setPlug environment node on)).run world =
      .ok (!world.succeeds environment node on) (world.sent environment node on) := by
  have failures := tame.failures world.pointed node on
  simp only [fails, setPlug, run_tryCatch, EStateM.run_bind, point_run tame.quiet,
    EStateM.run_get, EStateM.run_set]
  cases outcome : (environment.setPlug world.pointed node on).outcome with
  | done => simp [World.succeeds, World.reply, World.sent, outcome]
  | raised exception tookEffect =>
      simp [World.succeeds, World.reply, World.sent, outcome,
        failures exception tookEffect outcome]

@[simp] theorem switchOff_nil_run (wanted : List Int) (world : World) :
    (switchOff environment wanted []).run world = .ok false world := rfl

theorem switchOff_cons_run (tame : environment.Tame) {wanted : List Int} {node : Int}
    (unwanted : node ∉ wanted) (nodes : List Int) (world : World) :
    (switchOff environment wanted (node :: nodes)).run world =
      match (switchOff environment wanted nodes).run
          (world.sent environment node false) with
      | .ok laterFailed final =>
          .ok (!world.succeeds environment node false || laterFailed) final
      | .error exception final => .error exception final := by
  simp only [switchOff, unwanted, if_false, EStateM.run_bind,
    fails_setPlug_run tame, EStateM.run_pure]
  cases (switchOff environment wanted nodes).run
    (world.sent environment node false) <;> rfl

theorem switchOff_cons_wanted {wanted : List Int} {node : Int}
    (member : node ∈ wanted) (nodes : List Int) :
    switchOff environment wanted (node :: nodes) =
      switchOff environment wanted nodes := by
  simp [switchOff, member]

theorem switchOn_singleton_run (tame : environment.Tame) (node : Int)
    (world : World) :
    (switchOn environment [node]).run world =
      .ok (world.succeeds environment node true)
        (world.sent environment node true) := by
  simp only [switchOn, EStateM.run_bind, fails_setPlug_run tame]
  cases world.succeeds environment node true <;> rfl

theorem switchOff_commands (tame : environment.Tame) (wanted nodes : List Int)
    (world : World) :
    ∃ anyFailed final, (switchOff environment wanted nodes).run world =
      .ok anyFailed final ∧ world.Commanded environment final := by
  induction nodes generalizing world with
  | nil => exact ⟨false, world, rfl, .refl⟩
  | cons node nodes induction =>
      by_cases member : node ∈ wanted
      · rw [switchOff_cons_wanted member]
        exact induction world
      · rcases induction (world.sent environment node false) with
            ⟨anyFailed, final, run, commanded⟩
        rw [switchOff_cons_run tame member, run]
        exact ⟨_, final, rfl, (World.Commanded.sent node false).trans commanded⟩

theorem switch_commands (config : Config) (tame : environment.Tame) (action : Action)
    (world : World) :
    ∃ success final, (switch config environment action).run world =
      .ok success final ∧ world.Commanded environment final := by
  rcases switchOff_commands tame
    (config.wantedNodes action) [config.nodePlugHeat, config.nodePlugCool] world with
      ⟨anyFailed, off, offRun, offCommanded⟩
  simp only [switch, EStateM.run_bind, offRun]
  cases anyFailed with
  | true => exact ⟨false, off, rfl, offCommanded⟩
  | false =>
      rcases action.idle_or_direction with rfl | ⟨direction, rfl⟩
      · exact ⟨true, off, rfl, offCommanded⟩
      · rw [config.wantedNodes_action]
        exact ⟨_, _, switchOn_singleton_run tame _ _,
          offCommanded.trans (World.Commanded.sent _ _)⟩

theorem switch_commanded (tame : environment.Tame) {action : Action}
    {world after : World} {success : Bool}
    (switching : (switch config environment action).run world = .ok success after) :
    world.Commanded environment after := by
  rcases switch_commands config tame action world with ⟨_, final, run, commanded⟩
  rw [switching] at run
  cases run
  exact commanded

theorem switch_idle_run (tame : environment.Tame) (world : World) :
    (switch config environment .idle).run world =
      let heatOff := world.sent environment config.nodePlugHeat false
      .ok (world.succeeds environment config.nodePlugHeat false &&
          heatOff.succeeds environment config.nodePlugCool false)
        (heatOff.sent environment config.nodePlugCool false) := by
  simp only [switch, Config.wantedNodes, EStateM.run_bind,
    switchOff_cons_run tame (List.not_mem_nil), switchOff_nil_run, Bool.or_false]
  cases world.succeeds environment config.nodePlugHeat false <;>
    cases (world.sent environment config.nodePlugHeat false).succeeds environment
      config.nodePlugCool false <;> rfl

/-- Switching to a direction sends OFF to the opposite plug, and ON only if
that succeeded. -/
theorem switch_action_run (tame : environment.Tame)
    (distinct : config.nodePlugHeat ≠ config.nodePlugCool) (direction : Direction)
    (world : World) :
    (switch config environment direction.action).run world =
      let opposed :=
        world.sent environment (config.node direction.opposite) false
      if world.succeeds environment (config.node direction.opposite) false then
        .ok (opposed.succeeds environment (config.node direction) true)
          (opposed.sent environment (config.node direction) true)
      else
        .ok false opposed := by
  have offRun : (switchOff environment [config.node direction]
      [config.nodePlugHeat, config.nodePlugCool]).run world =
      .ok (!world.succeeds environment (config.node direction.opposite) false)
        (world.sent environment (config.node direction.opposite) false) := by
    cases direction with
    | heat =>
        rw [switchOff_cons_wanted (by simp [Config.node]),
          switchOff_cons_run tame (by simpa [Config.node] using distinct.symm)]
        simp [Config.node, Direction.opposite]
    | cool =>
        rw [switchOff_cons_run tame (by simpa [Config.node] using distinct),
          switchOff_cons_wanted (by simp [Config.node])]
        simp [Config.node, Direction.opposite]
  rw [switch, config.wantedNodes_action]
  simp only [EStateM.run_bind, offRun]
  cases world.succeeds environment (config.node direction.opposite) false <;>
    simp [switchOn_singleton_run tame]

theorem switchOff_succeeds (tame : environment.Tame)
    (done : ∀ world node on, (environment.setPlug world node on).outcome = .done)
    (wanted nodes : List Int) (world : World) :
    ∃ final, (switchOff environment wanted nodes).run world = .ok false final := by
  induction nodes generalizing world with
  | nil => exact ⟨world, rfl⟩
  | cons node nodes induction =>
      by_cases member : node ∈ wanted
      · rw [switchOff_cons_wanted member]
        exact induction world
      · rcases induction (world.sent environment node false) with ⟨final, ran⟩
        have success : world.succeeds environment node false = true := by
          simp [World.succeeds, World.reply, done]
        rw [switchOff_cons_run tame member, ran]
        exact ⟨final, by simp [success]⟩

theorem switch_succeeds (tame : environment.Tame)
    (done : ∀ world node on, (environment.setPlug world node on).outcome = .done)
    {action : Action} {world after : World} {success : Bool}
    (switching : (switch config environment action).run world = .ok success after) :
    success = true := by
  rcases switchOff_succeeds tame done (config.wantedNodes action)
    [config.nodePlugHeat, config.nodePlugCool] world with ⟨off, ran⟩
  simp only [switch, EStateM.run_bind, ran, Bool.false_eq_true, if_false] at switching
  rcases action.idle_or_direction with rfl | ⟨direction, rfl⟩
  · cases switching
    rfl
  · rw [config.wantedNodes_action, switchOn_singleton_run tame,
      EStateM.Result.ok.injEq] at switching
    rw [← switching.1]
    simp [World.succeeds, World.reply, done]

theorem bothOff_of_switch_idle (tame : environment.Tame) {world switched : World}
    (switching : (switch config environment .idle).run world = .ok true switched) :
    BothOff config switched.plugs := by
  rw [switch_idle_run tame, EStateM.Result.ok.injEq, Bool.and_eq_true] at switching
  rcases switching with ⟨⟨heatOff, coolOff⟩, rfl⟩
  rw [BothOff, World.sent_plugs_of_succeeds environment coolOff,
    World.sent_plugs_of_succeeds environment heatOff]
  simp [Function.update_apply]

end TimeProportionalActuator

/-! ## Decisions -/

namespace Actuator

/-- `_advance_window` leaves a window start, so the assertion in `plan` holds. -/
theorem plan_advanceWindow [Rounding] (tuning : ControlTuning) (now : ℚ) (self : Actuator) :
    ∃ plan, (self.advanceWindow tuning.windowS now).plan tuning now = .ok plan := by
  have started : ∃ start,
      (self.advanceWindow tuning.windowS now).windowStart = some start := by
    unfold advanceWindow
    cases known : self.windowStart with
    | none => exact ⟨now, rfl⟩
    | some start =>
        by_cases elapsed : fl (now - start) ≥ tuning.windowS
        · exact ⟨_, by simp only [elapsed, if_true]; rfl⟩
        · exact ⟨start, by simp only [elapsed, if_false, known]⟩
  rcases started with ⟨start, started⟩
  unfold plan
  rw [started]
  split
  · exact ⟨_, rfl⟩
  · dsimp only
    split_ifs <;> exact ⟨_, rfl⟩

def settled (wanted : Action) (now : ℚ) (self : Actuator) : Actuator :=
  { (if self.action.isActive ∧ wanted ≠ self.action then
      { self with
        lastActiveDirection := some self.action
        idleSince := if wanted = .idle then some now else none }
    else if self.action = .idle ∧ wanted.isActive then
      { self with idleSince := none }
    else
      self) with action := wanted }

def effortSet [Rounding] (tuning : ControlTuning) (effort now : ℚ) (self : Actuator) : Actuator :=
  { self with
    windowStart := if self.wasStale tuning now then some now else self.windowStart
    effort := max (-1) (min 1 effort)
    lastEffortUpdate := some now }

end Actuator

section Plans

variable [Rounding]

def Config.Plans (config : Config) (now : ℚ) (self : Actuator) (plan : ActuatorPlan) :
    Prop :=
  (self.advanceWindow config.control.windowS now).plan config.control now = .ok plan

instance (config : Config) (now : ℚ) (self : Actuator) (plan : ActuatorPlan) :
    Decidable (config.Plans now self plan) :=
  inferInstanceAs (Decidable (_ = _))

theorem Config.Plans.unique {config : Config} {now : ℚ} {self : Actuator}
    {first second : ActuatorPlan} (one : config.Plans now self first)
    (other : config.Plans now self second) : first = second :=
  Except.ok.inj (one.symm.trans other)

theorem Config.Plans.requests {config : Config} {now : ℚ} {self : Actuator}
    {decided : ActuatorPlan} {direction : Direction}
    (plans : config.Plans now self decided)
    (requested : decided.requestedAction = direction.action) :
    (self.advanceWindow config.control.windowS now).Requests config.control now
      direction :=
  Actuator.requests_of_plan plans requested

/-- A change towards a direction starts from IDLE. -/
theorem Config.Plans.wasIdle {config : Config} {now : ℚ} {self : Actuator}
    {decided : ActuatorPlan} {direction : Direction}
    (plans : config.Plans now self decided)
    (requested : decided.requestedAction = direction.action)
    (different : decided.requestedAction ≠ self.action) : self.action = .idle := by
  have compatible := (plans.requests requested).compatible
  rw [Actuator.advanceWindow_action] at compatible
  exact compatible.resolve_right fun active => different (requested.trans active.symm)

end Plans

namespace World

def planned [Rounding] (config : Config) (now : ℚ) (plan : ActuatorPlan) (world : World) :
    World :=
  { world.pointed with
    actuator := world.actuator.advanceWindow config.control.windowS now
    log := ⟨world.now, .planned plan⟩ :: world.log }

@[simp] theorem planned_action [Rounding] (config : Config) (now : ℚ) (plan : ActuatorPlan)
    (world : World) :
    (world.planned config now plan).actuator.action = world.actuator.action :=
  Actuator.advanceWindow_action _ _ _

def effortSet [Rounding] (config : Config) (effort now : ℚ) (points : Nat) (world : World) :
    World :=
  { world with
    points
    actuator := world.actuator.effortSet config.control effort now
    log := ⟨world.now, .setEffort (max (-1) (min 1 effort))
      (world.actuator.wasStale config.control now)⟩ :: world.log }

def settled (wanted : Action) (now : ℚ) (points : Nat) (world : World) : World :=
  { world with
    points
    actuator := world.actuator.settled wanted now
    log := ⟨world.now, .became wanted⟩ :: world.log }

end World

namespace TimeProportionalActuator

theorem plan_run [Rounding] (quiet : environment.Quiet) {now : ℚ} (world : World)
    {decided : ActuatorPlan} (plans : config.Plans now world.actuator decided) :
    (plan config environment now).run world =
      .ok decided (world.planned config now decided) := by
  unfold Config.Plans at plans
  simp only [plan, EStateM.run_bind, assign_run quiet, EStateM.run_get, plans]
  rfl

theorem commit_run (quiet : environment.Quiet) (wanted : Action) (now : ℚ)
    (world : World) :
    ∃ points, (commit environment wanted world.actuator.action now).run world =
      .ok () (world.settled wanted now points) := by
  unfold commit World.settled Actuator.settled
  split_ifs <;>
    exact ⟨_, by simp only [EStateM.run_bind, assign_run quiet, become_run quiet]; rfl⟩

section TickRuns

variable [Rounding] {now : ℚ} {start final : World} {decided : ActuatorPlan}

theorem tick_run (quiet : environment.Quiet)
    (plans : config.Plans now start.actuator decided) :
    (tick config environment now).run start =
      EStateM.run (if decided.requestedAction = start.actuator.action then pure none else do
        if !(← switch config environment decided.requestedAction) then
          return none
        commit environment decided.requestedAction start.actuator.action now
        return some ⟨decided.requestedAction, decided⟩)
        ((start.logged .ticked).planned config now decided) := by
  have planning := plan_run quiet (start.logged .ticked) plans
  have previous : ((start.logged .ticked).planned config now decided).actuator.action =
      start.actuator.action := Actuator.advanceWindow_action _ _ _
  simp only [tick, record, EStateM.run_bind, EStateM.run_modify, planning, EStateM.run_get,
    previous]

theorem tick_unchanged (quiet : environment.Quiet)
    (plans : config.Plans now start.actuator decided)
    (same : decided.requestedAction = start.actuator.action) :
    (tick config environment now).run start =
      .ok none ((start.logged .ticked).planned config now decided) := by
  rw [tick_run quiet plans, if_pos same]
  rfl

theorem tick_raised (quiet : environment.Quiet)
    (plans : config.Plans now start.actuator decided)
    (different : decided.requestedAction ≠ start.actuator.action) {exception : Exn}
    (switching : (switch config environment decided.requestedAction).run
      ((start.logged .ticked).planned config now decided) = .error exception final) :
    (tick config environment now).run start = .error exception final := by
  rw [tick_run quiet plans, if_neg different, EStateM.run_bind, switching]

theorem tick_refused (quiet : environment.Quiet)
    (plans : config.Plans now start.actuator decided)
    (different : decided.requestedAction ≠ start.actuator.action)
    (switching : (switch config environment decided.requestedAction).run
      ((start.logged .ticked).planned config now decided) = .ok false final) :
    (tick config environment now).run start = .ok none final := by
  rw [tick_run quiet plans, if_neg different, run_bind_of_ok switching]
  rfl

theorem tick_switched (quiet : environment.Quiet)
    (plans : config.Plans now start.actuator decided)
    (different : decided.requestedAction ≠ start.actuator.action)
    (switching : (switch config environment decided.requestedAction).run
      ((start.logged .ticked).planned config now decided) = .ok true final)
    (kept : final.actuator.action = start.actuator.action) :
    ∃ points, (tick config environment now).run start =
      .ok (some ⟨decided.requestedAction, decided⟩)
        (final.settled decided.requestedAction now points) := by
  rcases commit_run quiet decided.requestedAction now final with ⟨points, committing⟩
  rw [kept] at committing
  use points
  rw [tick_run quiet plans, if_neg different, run_bind_of_ok switching]
  simp only [Bool.not_true, Bool.false_eq_true, if_false]
  rw [run_bind_of_ok committing, EStateM.run_pure]

end TickRuns

section ForceIdleRuns

variable {now : ℚ} {reason : Reason} {start final : World}

theorem forceIdle_unchanged (idle : start.actuator.action = .idle) :
    (forceIdle config environment now reason).run start = .ok none start := by
  simp only [forceIdle, EStateM.run_bind, EStateM.run_get, idle, if_true, EStateM.run_pure]

theorem forceIdle_raised (active : start.actuator.action ≠ .idle) {exception : Exn}
    (switching : (switch config environment .idle).run start = .error exception final) :
    (forceIdle config environment now reason).run start = .error exception final := by
  simp only [forceIdle, EStateM.run_bind, EStateM.run_get, active, if_false, switching]

theorem forceIdle_refused (active : start.actuator.action ≠ .idle)
    (switching : (switch config environment .idle).run start = .ok false final) :
    (forceIdle config environment now reason).run start = .ok none final := by
  simp only [forceIdle, EStateM.run_bind, EStateM.run_get, active, if_false, switching]
  rfl

theorem forceIdle_switched (quiet : environment.Quiet)
    (active : start.actuator.action ≠ .idle)
    (switching : (switch config environment .idle).run start = .ok true final)
    (kept : final.actuator = start.actuator) :
    (forceIdle config environment now reason).run start =
      .ok (some ⟨.idle, ⟨.idle, start.actuator.effort, 0, 0, config.control.windowS, reason⟩⟩)
        (final.settled .idle now (final.points + 3)) := by
  have leaves : start.actuator.action.isActive = true ∧
      Action.idle ≠ start.actuator.action := by
    cases known : start.actuator.action <;> simp_all [Action.isActive]
  simp only [forceIdle, EStateM.run_bind, EStateM.run_get, if_neg active, switching,
    Bool.not_true, Bool.false_eq_true, if_false, assign_run quiet, become_run quiet,
    EStateM.run_pure, World.settled, Actuator.settled, kept, if_pos leaves, if_true]
  rfl

end ForceIdleRuns

inductive TickResult [Rounding] (config : Config) (environment : Environment) (now : ℚ)
    (world : World) : EStateM.Result Exn World (Option ActuatorTransition) → Prop
  | unchanged (decided : ActuatorPlan)
      (plans : config.Plans now world.actuator decided)
      (same : decided.requestedAction = world.actuator.action) :
      TickResult config environment now world
        (.ok none ((world.logged .ticked).planned config now decided))
  | refused (decided : ActuatorPlan) (switched : World)
      (plans : config.Plans now world.actuator decided)
      (different : decided.requestedAction ≠ world.actuator.action)
      (switching : (switch config environment decided.requestedAction).run
        ((world.logged .ticked).planned config now decided) = .ok false switched) :
      TickResult config environment now world (.ok none switched)
  | switched (decided : ActuatorPlan) (switched : World) (points : Nat)
      (plans : config.Plans now world.actuator decided)
      (different : decided.requestedAction ≠ world.actuator.action)
      (switching : (switch config environment decided.requestedAction).run
        ((world.logged .ticked).planned config now decided) = .ok true switched) :
      TickResult config environment now world
        (.ok (some ⟨decided.requestedAction, decided⟩)
          (switched.settled decided.requestedAction now points))

inductive ForceIdleResult (config : Config) (environment : Environment) (now : ℚ)
    (world : World) : EStateM.Result Exn World (Option ActuatorTransition) → Prop
  | unchanged (idle : world.actuator.action = .idle) :
      ForceIdleResult config environment now world (.ok none world)
  | refused (switched : World) (active : world.actuator.action ≠ .idle)
      (switching : (switch config environment .idle).run world =
        .ok false switched) :
      ForceIdleResult config environment now world (.ok none switched)
  | switched (switched : World) (points : Nat) (transition : ActuatorTransition)
      (active : world.actuator.action ≠ .idle)
      (switching : (switch config environment .idle).run world = .ok true switched) :
      ForceIdleResult config environment now world
        (.ok (some transition) (switched.settled .idle now points))

theorem forceIdle_result (config : Config) (tame : environment.Tame) (now : ℚ)
    (reason : Reason) (world : World) :
    ForceIdleResult config environment now world
      ((forceIdle config environment now reason).run world) := by
  by_cases idle : world.actuator.action = .idle
  · rw [forceIdle_unchanged idle]
    exact .unchanged idle
  · rcases switch_commands config tame .idle world with
        ⟨success, switched, switching, commanded⟩
    cases success with
    | false =>
        rw [forceIdle_refused idle switching]
        exact .refused switched idle switching
    | true =>
        rw [forceIdle_switched tame.quiet idle switching commanded.actuator]
        exact .switched switched _ _ idle switching

/-- `initialize` succeeds exactly when both OFF commands do. -/
theorem initializeActuator_run (tame : environment.Tame) (now : ℚ) (world : World) :
    let heatOff := world.sent environment config.nodePlugHeat false
    let bothOff := heatOff.sent environment config.nodePlugCool false
    (initializeActuator config environment now).run world =
      if world.succeeds environment config.nodePlugHeat false ∧
          heatOff.succeeds environment config.nodePlugCool false then
        .ok ⟨.idle, ⟨.idle, 0, 0, 0, config.control.windowS, .startup⟩⟩
          { bothOff.pointed.pointed with
            actuator := { world.actuator with
              windowStart := some now, idleSince := some now } }
      else
        .error .runtimeError bothOff := by
  intro heatOff bothOff
  simp only [initializeActuator, EStateM.run_bind, switch_idle_run tame,
    ← Bool.and_eq_true]
  cases success : (world.succeeds environment config.nodePlugHeat false &&
    heatOff.succeeds environment config.nodePlugCool false) with
  | false => simp [heatOff, bothOff]
  | true =>
      simp only [heatOff, bothOff, Bool.not_true, Bool.false_eq_true, if_false,
        if_true, EStateM.run_bind, assign_run tame.quiet, EStateM.run_pure]
      rfl

theorem setEffort_run [Rounding] (config : Config) (quiet : environment.Quiet)
    (effort now : ℚ) (world : World) :
    ∃ points, (setEffort config environment effort now).run world =
      .ok () (world.effortSet config effort now points) := by
  unfold setEffort World.effortSet Actuator.effortSet
  simp only [EStateM.run_bind, EStateM.run_get]
  cases world.actuator.wasStale config.control now <;>
    exact ⟨_, by
      simp only [EStateM.run_bind, assign_run quiet, record, Bool.false_eq_true,
        if_false, if_true]
      rfl⟩

theorem tick_result [Rounding] (config : Config) (tame : environment.Tame) (now : ℚ)
    (world : World) :
    TickResult config environment now world ((tick config environment now).run world) := by
  rcases world.actuator.plan_advanceWindow config.control now with ⟨decided, plans⟩
  by_cases same : decided.requestedAction = world.actuator.action
  · rw [tick_unchanged tame.quiet plans same]
    exact .unchanged decided plans same
  · rcases switch_commands config tame decided.requestedAction
        ((world.logged .ticked).planned config now decided) with
        ⟨success, switched, switching, commanded⟩
    cases success with
    | false =>
        rw [tick_refused tame.quiet plans same switching]
        exact .refused decided switched plans same switching
    | true =>
        have kept : switched.actuator.action = world.actuator.action := by
          rw [commanded.actuator]
          exact Actuator.advanceWindow_action _ _ _
        rcases tick_switched tame.quiet plans same switching kept with ⟨points, ran⟩
        rw [ran]
        exact .switched decided switched points plans same switching

end TimeProportionalActuator

/-! ## Statements of a healthy run -/

section Statements

open TimeProportionalActuator

variable {config : Config} {environment : Environment} {invariant : World → Prop}

theorem monotonic_returns (healthy : environment.Healthy config)
    (pointFree : PointFree invariant) :
    Returns invariant (monotonic environment)
      (fun now world => ∃ before, invariant before ∧ before.now = now ∧
        world = before.clocked now) := by
  apply Ensures.bind (point_returns healthy.quiet pointFree)
  intro _ world holds
  exact ⟨world, holds, (healthy.clock world).symm, rfl⟩

theorem emit_returns (healthy : environment.Healthy config)
    (pointFree : PointFree invariant) (connected : Bool) {telemetry : Telemetry}
    (emitted : ∀ world, invariant world →
      invariant (world.logged (.emitted telemetry))) :
    Returns invariant (emit environment connected telemetry) (fun _ => invariant) := by
  apply Ensures.bind (point_returns healthy.quiet pointFree)
  intro _
  cases connected with
  | false => exact Ensures.pure fun _ => id
  | true =>
      apply Ensures.get_bind
      intro current holds
      split
      · apply Ensures.modify
        intro world same
        subst same
        exact emitted world holds
      · next exception raised =>
          rw [if_pos (healthy.telemetry current exception raised)]
          apply Ensures.pure
          intro world same
          subst same
          exact holds

theorem readThrough_returns (quiet : environment.Quiet)
    {answer : World → Int → Int → ReadReply} {node endpoint : Int}
    (answers : ∀ world, ∃ value, (answer world node endpoint).value = .ok value)
    (pointFree : PointFree invariant) {after : World → Prop}
    (answered : ∀ world, invariant world →
      after (world.answered node endpoint (answer world node endpoint))) :
    Returns invariant (readThrough environment answer node endpoint) (fun _ => after) := by
  apply Ensures.bind (point_returns quiet pointFree)
  intro _
  apply Ensures.get_bind
  intro current holds
  rcases answers current with ⟨value, known⟩
  have stored : Returns (fun world => world = current)
      (set (current.answered node endpoint (answer current node endpoint)) : Py Unit)
      (fun _ => after) := Ensures.set fun _ _ => answered current holds
  apply Ensures.bind stored
  intro _
  rw [known]
  exact Ensures.pure fun _ => id

end Statements

end BuranBrew.Host

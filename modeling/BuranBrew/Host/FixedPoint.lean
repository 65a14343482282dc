import BuranBrew.Host.Moves
import BuranBrew.Host.LoopRules

/-! # A tick reaches a fixed point

A tick changes exactly the attributes that the lockout of the next plan reads. A second
plan at the same time nevertheless requests what the first one did, as long as it finds the
window open.
-/

namespace BuranBrew.Host

open Execution TimeProportionalActuator

variable {config : Config} {environment : Environment}

namespace Actuator

variable {tuning : ControlTuning} {now windowS : ℚ} {self other : Actuator}
  {decided : ActuatorPlan} {direction : Direction}

def Unrested (self : Actuator) : Prop :=
  self.action ≠ .idle → self.idleSince = none

/-- The attributes once the plan of a tick has been carried out. -/
def followed (wanted : Action) (now : ℚ) (self : Actuator) : Actuator :=
  if wanted = self.action then self else self.settled wanted now

@[simp] theorem followed_action (wanted : Action) (now : ℚ) (self : Actuator) :
    (self.followed wanted now).action = wanted := by
  unfold followed
  split_ifs with same
  · exact same.symm
  · rfl

@[simp] theorem followed_effort (wanted : Action) (now : ℚ) (self : Actuator) :
    (self.followed wanted now).effort = self.effort := by
  unfold followed
  split_ifs
  · rfl
  · exact settled_effort wanted now self

@[simp] theorem followed_lastEffortUpdate (wanted : Action) (now : ℚ) (self : Actuator) :
    (self.followed wanted now).lastEffortUpdate = self.lastEffortUpdate := by
  unfold followed
  split_ifs
  · rfl
  · exact settled_lastEffortUpdate wanted now self

@[simp] theorem followed_windowStart (wanted : Action) (now : ℚ) (self : Actuator) :
    (self.followed wanted now).windowStart = self.windowStart := by
  unfold followed
  split_ifs
  · rfl
  · exact settled_windowStart wanted now self

theorem settled_idle (active : self.action ≠ .idle) (now : ℚ) :
    (self.settled .idle now).lastActiveDirection = some self.action ∧
      (self.settled .idle now).idleSince = some now := by
  have ends : self.action.isActive = true ∧ Action.idle ≠ self.action := by
    rcases self.action.idle_or_direction with idle | ⟨direction, heading⟩
    · exact absurd idle active
    · rw [heading]
      exact ⟨direction.isActive_action, direction.action_ne_idle.symm⟩
  unfold settled
  rw [if_pos ends]
  exact ⟨rfl, rfl⟩

theorem settled_unrested (direction : Direction) (different : direction.action ≠ self.action)
    (now : ℚ) : (self.settled direction.action now).idleSince = none := by
  unfold settled
  dsimp only
  rcases self.action.idle_or_direction with idle | ⟨current, heading⟩
  · rw [idle, if_neg (by simp [Action.isActive]), if_pos ⟨rfl, direction.isActive_action⟩]
  · rw [if_pos ⟨by rw [heading]; exact current.isActive_action, different⟩]
    exact if_neg direction.action_ne_idle

theorem Unrested.followed (unrested : self.Unrested) (wanted : Action) (now : ℚ) :
    (self.followed wanted now).Unrested := by
  intro active
  rw [followed_action] at active
  rcases wanted.idle_or_direction with idle | ⟨direction, rfl⟩
  · exact absurd idle active
  · unfold Actuator.followed
    split_ifs with same
    · exact unrested (same ▸ active)
    · exact settled_unrested direction same now

variable [Rounding]

def WindowOpen (windowS now : ℚ) (self : Actuator) : Prop :=
  ∃ start, self.windowStart = some start ∧ fl (now - start) < windowS

theorem WindowOpen.advanceWindow (opened : self.WindowOpen windowS now) :
    self.advanceWindow windowS now = self := by
  rcases opened with ⟨start, started, within⟩
  unfold Actuator.advanceWindow
  rw [started]
  exact if_neg within.not_ge

/-- What `plan` checks before it requests a direction is also enough for it. -/
theorem Requests.granted (requests : self.Requests tuning now direction)
    (decides : self.Decides tuning now decided) :
    decided.requestedAction = direction.action := by
  have heading : self.direction = direction.action := requests.sign.symm
  rcases requests.fresh with ⟨last, updated, recent⟩
  cases decides with
  | noCommand never =>
      rw [updated] at never
      cases never
  | staleCommand other update late =>
      cases updated.symm.trans update
      exact absurd recent late.not_ge
  | deadband other update fresh small => exact absurd requests.outsideDeadband small.not_gt
  | belowMinPulse other update fresh short =>
      have enough := requests.minOn
      rw [← heading] at enough
      exact absurd short enough.not_gt
  | dutyOff start asks started ended =>
      rcases requests.onPhase with ⟨opened, known, onPhase⟩
      cases started.symm.trans known
      exact absurd onPhase ended.not_gt
  | reverseLockout start asks started onPhase locked =>
      rw [heading] at locked
      unfold reverseLocked at locked
      split_ifs at locked with opposed
      · rcases requests.compatible with idle | same
        · rw [idle] at opposed
          cases opposed.1
        · exact absurd same.symm opposed.2
      · cases last : self.lastActiveDirection with
        | none => simp [last] at locked
        | some last' =>
            cases since : self.idleSince with
            | none => simp [last, since] at locked
            | some since' =>
                simp only [last, since, decide_eq_true_eq] at locked
                have rested := requests.unlocked last' since' last since locked.1
                exact absurd locked.2 rested.not_gt
  | dutyOn start asks started onPhase free => exact heading

theorem Requests.of_same (requests : self.Requests tuning now direction)
    (effort : other.effort = self.effort)
    (update : other.lastEffortUpdate = self.lastEffortUpdate)
    (window : other.windowStart = self.windowStart)
    (compatible : other.action = .idle ∨ other.action = direction.action)
    (unlocked : ∀ last since, other.lastActiveDirection = some last →
      other.idleSince = some since → direction.action ≠ last →
      tuning.reverseIdleS ≤ fl (now - since)) : other.Requests tuning now direction where
  fresh := update ▸ requests.fresh
  outsideDeadband := effort ▸ requests.outsideDeadband
  sign := effort ▸ requests.sign
  minOn := effort ▸ requests.minOn
  onPhase := by
    rw [window, effort]
    exact requests.onPhase
  compatible := compatible
  unlocked := unlocked

/-- Carrying out a plan changes what the next plan may request to what was requested. -/
theorem requests_followed_iff (idles : 0 < tuning.reverseIdleS) (unrested : self.Unrested)
    (plans : self.plan tuning now = .ok decided) (direction : Direction) :
    (self.followed decided.requestedAction now).Requests tuning now direction ↔
      decided.requestedAction = direction.action := by
  constructor
  · intro requests
    have compatible := requests.compatible
    rw [followed_action] at compatible
    apply compatible.resolve_left
    intro idle
    have before : self.Requests tuning now direction := by
      by_cases wasIdle : self.action = .idle
      · have same : self.followed decided.requestedAction now = self := by
          rw [followed, idle, wasIdle, if_pos rfl]
        rwa [same] at requests
      · have settled : self.followed decided.requestedAction now = self.settled .idle now := by
          rw [followed, idle, if_neg (Ne.symm wasIdle)]
        rw [settled] at requests
        have recorded := settled_idle wasIdle now
        have continued : self.action = direction.action := by
          by_contra reversed
          have rested := requests.unlocked self.action now recorded.1 recorded.2
            (Ne.symm reversed)
          rw [sub_self, fl_zero] at rested
          exact rested.not_gt idles
        apply requests.of_same (settled_effort _ _ _).symm
          (settled_lastEffortUpdate _ _ _).symm (settled_windowStart _ _ _).symm
        · exact .inr continued
        · intro last since _ resting
          rw [unrested wasIdle] at resting
          cases resting
    have granted := before.granted (decides_of_plan plans)
    rw [idle] at granted
    exact direction.action_ne_idle granted.symm
  · intro requested
    apply (requests_of_plan plans requested).of_same (followed_effort _ _ _)
      (followed_lastEffortUpdate _ _ _) (followed_windowStart _ _ _)
    · rw [followed_action]
      exact .inr requested
    · intro last since _ resting
      have active : (self.followed decided.requestedAction now).action ≠ .idle := by
        rw [followed_action, requested]
        exact direction.action_ne_idle
      rw [unrested.followed decided.requestedAction now active] at resting
      cases resting

theorem plan_followed (idles : 0 < tuning.reverseIdleS) (unrested : self.Unrested)
    (plans : self.plan tuning now = .ok decided) {again : ActuatorPlan}
    (plansAgain : (self.followed decided.requestedAction now).plan tuning now = .ok again) :
    again.requestedAction = decided.requestedAction := by
  rcases again.requestedAction.idle_or_direction with idle | ⟨direction, requested⟩
  · rcases decided.requestedAction.idle_or_direction with wasIdle | ⟨direction, requested⟩
    · rw [idle, wasIdle]
    · have requests := (requests_followed_iff idles unrested plans direction).mpr requested
      rw [requests.granted (decides_of_plan plansAgain), requested]
  · have requests := requests_of_plan plansAgain requested
    rw [requested, (requests_followed_iff idles unrested plans direction).mp requests]

theorem Unrested.moves {before after : Actuator} (unrested : before.Unrested)
    {call : ActuatorCall} {transition : Option ActuatorTransition}
    (moves : Moves config before call after transition) : after.Unrested := by
  have advanced (now : ℚ) : (before.advanceWindow config.control.windowS now).Unrested := by
    intro active
    rw [advanceWindow_action] at active
    rw [advanceWindow_idleSince]
    exact unrested active
  cases moves with
  | effortSet effort now => exact unrested
  | planned now => exact advanced now
  | stayed now => exact advanced now
  | switched now decided plans different =>
      have followed := (advanced now).followed decided.requestedAction now
      rwa [Actuator.followed, advanceWindow_action, if_neg different] at followed
  | kept now reason => exact unrested
  | idled now reason active => exact fun heading => absurd rfl heading

end Actuator

variable [Rounding]

/-! ## Ticks -/

namespace TimeProportionalActuator

theorem tick_follows (quiet : environment.Quiet) {now : ℚ} (start : World)
    {decided : ActuatorPlan} (plans : config.Plans now start.actuator decided) :
    Ensures (fun world => world = start) (tick config environment now)
      (fun _ world => Extends start true world ∨ world.actuator =
        (start.actuator.advanceWindow config.control.windowS now).followed
          decided.requestedAction now)
      (fun _ => Extends start true) := by
  intro world equal
  rw [equal]
  have ends := tick_ends config quiet now start
  generalize (tick config environment now).run start = result at ends ⊢
  have advanced := Actuator.advanceWindow_action config.control.windowS now start.actuator
  cases ends with
  | unchanged other otherPlans same =>
      cases plans.unique otherPlans
      have stays : (start.actuator.advanceWindow config.control.windowS now).followed
          decided.requestedAction now =
          start.actuator.advanceWindow config.control.windowS now := by
        rw [Actuator.followed, advanced, if_pos same]
      exact .inr stays.symm
  | refused other final otherPlans different kept failed => exact .inl failed
  | raised other exception final otherPlans different kept failed => exact failed
  | switched other final otherPlans different settled =>
      cases plans.unique otherPlans
      have switches : (start.actuator.advanceWindow config.control.windowS now).followed
          decided.requestedAction now =
          (start.actuator.advanceWindow config.control.windowS now).settled
            decided.requestedAction now := by
        rw [Actuator.followed, advanced, if_neg different]
      exact .inr (settled.trans switches.symm)

end TimeProportionalActuator

/-- A tick may be taken to have just happened. -/
def FixedAt (config : Config) (now : ℚ) (self : Actuator) : Prop :=
  self.WindowOpen config.control.windowS now ∧
    ∀ decided, config.Plans now self decided → decided.requestedAction = self.action

namespace FixedAt

variable {now : ℚ} {self : Actuator} {world : World}

theorem advanceWindow (fixed : FixedAt config now self) :
    self.advanceWindow config.control.windowS now = self :=
  fixed.1.advanceWindow

theorem of_followed (idles : 0 < config.control.reverseIdleS) (unrested : self.Unrested)
    (reached : (self.advanceWindow config.control.windowS now).WindowOpen
      config.control.windowS now)
    {decided : ActuatorPlan} (plans : config.Plans now self decided) :
    FixedAt config now ((self.advanceWindow config.control.windowS now).followed
      decided.requestedAction now) := by
  have opened : ((self.advanceWindow config.control.windowS now).followed
      decided.requestedAction now).WindowOpen config.control.windowS now := by
    unfold Actuator.WindowOpen
    rw [Actuator.followed_windowStart]
    exact reached
  have advanced : (self.advanceWindow config.control.windowS now).Unrested := by
    intro active
    rw [Actuator.advanceWindow_action] at active
    rw [Actuator.advanceWindow_idleSince]
    exact unrested active
  constructor
  · exact opened
  · intro again plansAgain
    rw [Config.Plans, opened.advanceWindow] at plansAgain
    rw [Actuator.followed_action]
    exact Actuator.plan_followed idles advanced plans plansAgain

theorem plan_run (fixed : FixedAt config now world.actuator) (quiet : environment.Quiet) :
    ∃ decided final, (plan config environment now).run world = .ok decided final ∧
      decided.requestedAction = world.actuator.action ∧ final.actuator = world.actuator := by
  rcases world.actuator.plan_advanceWindow config.control now with ⟨decided, plans⟩
  have ran := TimeProportionalActuator.plan_run quiet world plans
  exact ⟨decided, _, ran, fixed.2 decided plans, fixed.advanceWindow⟩

theorem tick_run (fixed : FixedAt config now world.actuator) (quiet : environment.Quiet) :
    ∃ final, (tick config environment now).run world = .ok none final ∧
      final.actuator = world.actuator ∧
      ∀ event ∈ world.eventsSince final, ∀ node on outcome,
        event.kind ≠ .setPlug node on outcome := by
  rcases world.actuator.plan_advanceWindow config.control now with ⟨decided, plans⟩
  have ran := tick_unchanged quiet plans (fixed.2 decided plans)
  refine ⟨_, ran, fixed.advanceWindow, ?_⟩
  have since : world.eventsSince ((world.logged .ticked).planned config now decided) =
      [⟨world.now, .planned decided⟩, ⟨world.now, .ticked⟩] :=
    World.eventsSince_eq rfl
  rw [since]
  simp

end FixedAt

/-! ## Reachable states -/

def Started (config : Config) (environment : Environment) (ready : World) : Prop :=
  ∃ start plugs, ready = World.fresh start plugs ∨
    InitializedAt config environment start plugs ready

theorem unrested_runCalls (quiet : environment.Quiet) {ready : World}
    (started : Started config environment ready) (calls : List ActuatorCall) :
    (runCalls config environment ready calls).actuator.Unrested := by
  apply runCalls_moves config quiet
  · exact fun before call after transition unrested moves => unrested.moves moves
  · rcases started with ⟨start, plugs, fresh | initialized⟩
    · rw [fresh]
      exact fun active => absurd rfl active
    · rcases initialized with ⟨first, initialized⟩
      rw [(initialized_actuator quiet initialized).2]
      exact fun active => absurd rfl active

theorem performed_followed (quiet : environment.Quiet) {world : World} {now : ℚ}
    {decided : ActuatorPlan} (plans : config.Plans now world.actuator decided)
    (succeeded : NoneFailed world (performed config environment world (.tick now))) :
    (performed config environment world (.tick now)).actuator =
      (world.actuator.advanceWindow config.control.windowS now).followed
        decided.requestedAction now := by
  let follows (final : World) : Prop := NoneFailed world final → final.actuator =
    (world.actuator.advanceWindow config.control.windowS now).followed
      decided.requestedAction now
  have ticked := tick_follows quiet { world with now } plans
  have ends : Ensures (fun state => state = { world with now })
      (tick config environment now) (fun _ => follows) (fun _ => follows) := by
    apply ticked.weaken (fun _ => id)
    · intro transition final outcome noneFailed
      exact outcome.resolve_left fun failed => failed.not_noneFailed noneFailed
    · exact fun exception final failed noneFailed => absurd noneFailed failed.not_noneFailed
  unfold performed at succeeded ⊢
  rw [ActuatorCall.perform, finalState_discard] at succeeded ⊢
  exact ends.finalState rfl succeeded

theorem fixedAt_performed (idles : 0 < config.control.reverseIdleS)
    (quiet : environment.Quiet) {world : World} (unrested : world.actuator.Unrested) {now : ℚ}
    (reached : (world.actuator.advanceWindow config.control.windowS now).WindowOpen
      config.control.windowS now)
    (succeeded : NoneFailed world (performed config environment world (.tick now))) :
    FixedAt config now (performed config environment world (.tick now)).actuator := by
  rcases world.actuator.plan_advanceWindow config.control now with ⟨decided, plans⟩
  rw [performed_followed quiet plans succeeded]
  exact FixedAt.of_followed idles unrested reached plans

end BuranBrew.Host

import BuranBrew.Host.Decisions
import BuranBrew.Host.Updates

/-! # Heating and cooling exchanged

What the controller and the actuator decide for temperatures reflected about the setpoint
and for the opposite effort.
-/

namespace BuranBrew.Host

open Exact

def Action.mirror : Action → Action
  | .heat => .cool
  | .cool => .heat
  | .idle => .idle

namespace Action

@[simp] theorem mirror_idle : idle.mirror = idle := rfl

@[simp] theorem mirror_mirror (action : Action) : action.mirror.mirror = action := by
  cases action <;> rfl

@[simp] theorem mirror_inj {action other : Action} :
    action.mirror = other.mirror ↔ action = other :=
  Function.Injective.eq_iff (Function.LeftInverse.injective mirror_mirror)

@[simp] theorem mirror_eq_idle {action : Action} : action.mirror = .idle ↔ action = .idle :=
  (mirror_inj : action.mirror = idle.mirror ↔ action = idle)

@[simp] theorem isActive_mirror (action : Action) :
    action.mirror.isActive = action.isActive := by
  cases action <;> rfl

end Action

theorem Direction.mirror_action (direction : Direction) :
    direction.action.mirror = direction.opposite.action := by
  cases direction <;> rfl

def ActuatorPlan.mirror (plan : ActuatorPlan) : ActuatorPlan :=
  { plan with
    requestedAction := plan.requestedAction.mirror
    effort := -plan.effort }

def ActuatorTransition.mirror (transition : ActuatorTransition) : ActuatorTransition where
  action := transition.action.mirror
  plan := transition.plan.mirror

def ControlDecision.mirror (decision : ControlDecision) : ControlDecision where
  effort := -decision.effort
  errorC := -decision.errorC
  pTerm := -decision.pTerm
  iTerm := -decision.iTerm
  feedforwardTerm := -decision.feedforwardTerm

/-! ## The controller -/

def Controller.mirror (self : Controller) : Controller :=
  { self with integral := -self.integral }

/-- The call with both temperatures reflected about the setpoint. -/
def ControllerCall.reflected (config : Config) (call : ControllerCall) : ControllerCall where
  internalC := 2 * config.setpointC - call.internalC
  ambientC := 2 * config.setpointC - call.ambientC
  now := call.now

namespace Controller

variable {config : Config} (self : Controller) (call : ControllerCall)

theorem error_reflected : (call.reflected config).error config = -call.error config := by
  unfold ControllerCall.error ControllerCall.reflected
  ring

theorem feedforward_reflected : config.setpointC - (call.reflected config).ambientC =
    -(config.setpointC - call.ambientC) := by
  unfold ControllerCall.reflected
  ring

theorem feedthrough_reflected :
    feedthrough config (call.reflected config) = -feedthrough config call := by
  unfold feedthrough
  rw [error_reflected, feedforward_reflected]
  ring

theorem candidateI_mirror (valid : config.Valid) :
    self.mirror.candidateI config (call.reflected config) = -self.candidateI config call := by
  have opposite : self.mirror.integral + config.control.kiPerHour *
        (call.reflected config).error config *
          (PIController.dtS config (call.reflected config).now self.mirror / 3600) =
      -(self.integral + config.control.kiPerHour * call.error config *
        (PIController.dtS config call.now self / 3600)) := by
    have sameTime : PIController.dtS config (call.reflected config).now self.mirror =
        PIController.dtS config call.now self := rfl
    rw [error_reflected, sameTime]
    unfold mirror
    ring
  unfold candidateI
  rw [opposite]
  exact Saturation.clamp_neg valid.control.integralLimit_nonneg

/-- The two one-sided tests of the anti-windup exchange their roles. -/
theorem drivingFarther_mirror (valid : config.Valid) :
    self.mirror.DrivingFarther config (call.reflected config) ↔
      self.DrivingFarther config call := by
  unfold DrivingFarther
  rw [feedthrough_reflected, candidateI_mirror self call valid, error_reflected]
  constructor
  · intro driving
    rcases driving with ⟨high, warm⟩ | ⟨low, cold⟩
    · exact .inr ⟨by linarith, by linarith⟩
    · exact .inl ⟨by linarith, by linarith⟩
  · intro driving
    rcases driving with ⟨high, cold⟩ | ⟨low, warm⟩
    · exact .inr ⟨by linarith, by linarith⟩
    · exact .inl ⟨by linarith, by linarith⟩

theorem updated_mirror (valid : config.Valid) :
    self.mirror.updated config (call.reflected config) = (self.updated config call).mirror := by
  have integral : (self.mirror.updated config (call.reflected config)).integral =
      -(self.updated config call).integral := by
    rw [updated_integral, updated_integral, candidateI_mirror self call valid]
    simp only [drivingFarther_mirror self call valid]
    split_ifs
    · rfl
    · rfl
  calc self.mirror.updated config (call.reflected config)
      = ⟨(self.mirror.updated config (call.reflected config)).integral, some call.now⟩ := rfl
    _ = (self.updated config call).mirror := by rw [integral]; rfl

theorem decision_mirror (valid : config.Valid) :
    self.mirror.decision config (call.reflected config) = (self.decision config call).mirror := by
  have integral : (self.mirror.updated config (call.reflected config)).integral =
      -(self.updated config call).integral := by
    rw [updated_mirror self call valid]
    rfl
  have error : config.setpointC - (call.reflected config).internalC =
      -(config.setpointC - call.internalC) := error_reflected call
  have sum (p i ff : ℚ) : -p + -i + -ff = -(p + i + ff) := by ring
  simp only [decision, PIController.decide, ControlDecision.mirror, fl_eq, integral, error,
    feedforward_reflected, mul_neg, sum]
  rw [ControlDecision.mk.injEq]
  exact ⟨Saturation.clamp_neg zero_le_one, rfl, rfl, rfl, rfl⟩

end Controller

/-! ## The actuator -/

def Actuator.mirror (self : Actuator) : Actuator :=
  { self with
    effort := -self.effort
    action := self.action.mirror
    lastActiveDirection := self.lastActiveDirection.map Action.mirror }

namespace Actuator

variable {tuning : ControlTuning} {now : ℚ} (self : Actuator)

@[simp] theorem mirror_effort : self.mirror.effort = -self.effort := rfl

@[simp] theorem mirror_action : self.mirror.action = self.action.mirror := rfl

@[simp] theorem mirror_lastEffortUpdate :
    self.mirror.lastEffortUpdate = self.lastEffortUpdate := rfl

@[simp] theorem mirror_windowStart : self.mirror.windowStart = self.windowStart := rfl

theorem advanceWindow_mirror (windowS : ℚ) :
    self.mirror.advanceWindow windowS now = (self.advanceWindow windowS now).mirror := by
  unfold advanceWindow
  rw [mirror_windowStart]
  cases self.windowStart with
  | none => rfl
  | some start =>
      dsimp only
      split_ifs
      · rfl
      · rfl

theorem effortSet_mirror (effort : ℚ) :
    self.mirror.effortSet tuning (-effort) now = (self.effortSet tuning effort now).mirror := by
  have clamped : max (-1) (min 1 (-effort)) = -max (-1) (min 1 effort) :=
    Saturation.clamp_neg zero_le_one
  unfold effortSet
  rw [clamped]
  rfl

theorem settled_mirror (wanted : Action) :
    self.mirror.settled wanted.mirror now = (self.settled wanted now).mirror := by
  unfold settled
  simp only [mirror_action, Action.isActive_mirror, ne_eq, Action.mirror_inj,
    Action.mirror_eq_idle]
  split_ifs
  · rfl
  · rfl
  · rfl
  · rfl

theorem reverseLocked_mirror (requested : Action) :
    self.mirror.reverseLocked tuning now requested.mirror =
      self.reverseLocked tuning now requested := by
  have remembered : self.mirror.lastActiveDirection =
      self.lastActiveDirection.map Action.mirror := rfl
  have since : self.mirror.idleSince = self.idleSince := rfl
  unfold reverseLocked
  rw [remembered, since]
  simp only [mirror_action, Action.isActive_mirror, ne_eq, Action.mirror_inj]
  cases self.lastActiveDirection with
  | none => rfl
  | some last =>
      cases self.idleSince with
      | none => rfl
      | some since => simp only [Option.map_some, Action.mirror_inj]

theorem directionOf_neg {effort : ℚ} (nonzero : effort ≠ 0) :
    directionOf (-effort) = (directionOf effort).mirror := by
  unfold directionOf
  rcases lt_or_gt_of_ne nonzero with negative | positive
  · rw [if_pos (neg_pos.mpr negative), if_neg negative.not_gt]
    rfl
  · rw [if_neg (neg_neg_of_pos positive).not_gt, if_pos positive]
    rfl

/-- The effort zero, which counts as COOL, never gets out of the deadband. -/
theorem plan_mirror (deadband : 0 ≤ tuning.effortDeadband)
    (minOn : tuning.heatMinOnS = tuning.coolMinOnS) :
    self.mirror.plan tuning now = (self.plan tuning now).map ActuatorPlan.mirror := by
  have minOnS (direction : Action) : tuning.minOnS direction = tuning.coolMinOnS := by
    unfold ControlTuning.minOnS
    split_ifs
    · exact minOn
    · rfl
  have magnitude : |self.mirror.effort| = |self.effort| := abs_neg _
  unfold plan
  simp only [mirror_lastEffortUpdate, mirror_windowStart, magnitude, minOnS, fl_eq]
  cases self.lastEffortUpdate with
  | none => rfl
  | some last =>
      dsimp only
      by_cases late : now - last > tuning.commandStaleTimeoutS
      · rw [if_pos late, if_pos late]
        rfl
      rw [if_neg late, if_neg late]
      by_cases small : |self.effort| ≤ tuning.effortDeadband
      · rw [if_pos small, if_pos small]
        rfl
      rw [if_neg small, if_neg small]
      by_cases short : |self.effort| * tuning.windowS < tuning.coolMinOnS
      · rw [if_pos short, if_pos short]
        rfl
      rw [if_neg short, if_neg short]
      have nonzero : self.effort ≠ 0 := by
        intro zero
        rw [zero, abs_zero] at small
        exact small deadband
      have direction : (if self.mirror.effort > 0 then Action.heat else Action.cool) =
          self.direction.mirror := directionOf_neg nonzero
      have folded : (if self.effort > 0 then Action.heat else Action.cool) =
          self.direction := rfl
      rw [direction, folded]
      cases self.windowStart with
      | none => rfl
      | some start =>
          dsimp only
          by_cases onPhase : now - start < |self.effort| * tuning.windowS
          · simp only [if_pos onPhase, Action.isActive_mirror, reverseLocked_mirror, ne_eq,
              Action.mirror_eq_idle]
            split_ifs
            · rfl
            · rfl
            · rfl
          · simp only [if_neg onPhase]
            rfl

end Actuator

end BuranBrew.Host

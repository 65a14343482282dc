import BuranBrew.Foundation.Saturation
import BuranBrew.Host.Commands
import BuranBrew.Host.ControlLoop

/-! # Runs of the controller

A run is a sequence of `update` calls with any temperatures and at any times. Whatever a
call raises, the next one finds the attributes as they were left.
-/

namespace BuranBrew.Host

open Execution Exact

structure ControllerCall where
  internalC : ℚ
  ambientC : ℚ
  now : ℚ
  deriving DecidableEq, Repr

namespace ControllerCall

variable (config : Config) (environment : Environment)

def perform (call : ControllerCall) : Py ControlDecision :=
  PIController.update config environment call.internalC call.ambientC call.now

def error (call : ControllerCall) : ℚ :=
  config.setpointC - call.internalC

end ControllerCall

namespace Controller

variable (config : Config)

def updated (self : Controller) (call : ControllerCall) : Controller where
  integral := PIController.integrate config call.internalC call.ambientC
    (PIController.dtS config call.now self) self
  lastUpdate := some call.now

def candidateI (self : Controller) (call : ControllerCall) : ℚ :=
  PIController.clamp
    (self.integral + config.control.kiPerHour * call.error config *
      (PIController.dtS config call.now self / 3600))
    (-config.control.integralLimit) config.control.integralLimit

/-- The terms of a call besides the integral. -/
def feedthrough (call : ControllerCall) : ℚ :=
  config.control.kp * call.error config +
    config.control.kff * (config.setpointC - call.ambientC)

def DrivingFarther (self : Controller) (call : ControllerCall) : Prop :=
  (feedthrough config call + self.candidateI config call > 1 ∧ call.error config > 0) ∨
    (feedthrough config call + self.candidateI config call < -1 ∧ call.error config < 0)

instance (self : Controller) (call : ControllerCall) :
    Decidable (self.DrivingFarther config call) :=
  inferInstanceAs (Decidable (_ ∨ _))

def decision (self : Controller) (call : ControllerCall) : ControlDecision :=
  PIController.decide config call.internalC call.ambientC (self.updated config call)

end Controller

variable (config : Config) (environment : Environment)

def updated (world : World) (call : ControllerCall) : World :=
  finalState ((call.perform config environment).run world)

def runUpdates (world : World) (calls : List ControllerCall) : World :=
  calls.foldl (updated config environment) world

variable {config environment}

namespace PIController

theorem assign_ensures {before : World → Prop} (pointFree : PointFree before)
    (update : Controller → Controller) {after : World → Prop}
    (assigned : ∀ world, before world →
      after { world with controller := update world.controller }) :
    Ensures before (assign environment update) (fun _ => after) (fun _ => before) :=
  Ensures.bind (point_keeps pointFree) fun _ => Ensures.modify assigned

/-- An exception may keep the integral from following the time of the update. -/
theorem update_ensures (config : Config) (environment : Environment) (self : Controller)
    (call : ControllerCall) :
    Ensures (fun world => world.controller = self) (call.perform config environment)
      (fun decision world => world.controller = self.updated config call ∧
        decision = self.decision config call)
      (fun _ world => world.controller = self ∨
        world.controller = { self with lastUpdate := some call.now }) := by
  have noted : Ensures (fun world => world.controller = self)
      (assign environment fun self => { self with lastUpdate := some call.now })
      (fun _ world => world.controller = { self with lastUpdate := some call.now })
      (fun _ world => world.controller = self) :=
    assign_ensures (fun _ => id) _ fun world same => by rw [same]
  have integrated : Ensures
      (fun world => world.controller = { self with lastUpdate := some call.now })
      (assign environment fun self' => { self' with
        integral := integrate config call.internalC call.ambientC
          (dtS config call.now self) self' })
      (fun _ world => world.controller = self.updated config call)
      (fun _ world => world.controller = { self with lastUpdate := some call.now }) :=
    assign_ensures (fun _ => id) _ fun world same => by rw [same]; rfl
  apply Ensures.get_bind
  intro start same
  rw [same]
  apply Ensures.bind ((noted.startingAt same).raising fun _ _ => Or.inl)
  intro _
  apply Ensures.bind (integrated.raising fun _ _ => Or.inr)
  intro _
  apply Ensures.get_bind
  intro final updated
  apply Ensures.pureAt
  exact ⟨updated, by rw [updated]; rfl⟩

end PIController

theorem updated_of_returned {world after : World} {call : ControllerCall}
    {decision : ControlDecision}
    (returned : (call.perform config environment).run world = .ok decision after) :
    after.controller = world.controller.updated config call ∧
      decision = world.controller.decision config call := by
  have outcome := PIController.update_ensures config environment world.controller call world
    rfl
  rw [returned] at outcome
  exact outcome

theorem perform_run (config : Config) (quiet : environment.Quiet) (world : World)
    (call : ControllerCall) :
    (call.perform config environment).run world =
      .ok (world.controller.decision config call)
        { world.pointed.pointed with controller := world.controller.updated config call } := by
  simp only [ControllerCall.perform, PIController.update, PIController.assign,
    EStateM.run_bind, EStateM.run_get, TimeProportionalActuator.point_run quiet,
    EStateM.run_modify, EStateM.run_pure]
  rfl

@[simp] theorem runUpdates_nil (world : World) :
    runUpdates config environment world [] = world := rfl

@[simp] theorem runUpdates_cons (world : World) (call : ControllerCall)
    (calls : List ControllerCall) :
    runUpdates config environment world (call :: calls) =
      runUpdates config environment (updated config environment world call) calls := rfl

theorem runUpdates_append (world : World) (first second : List ControllerCall) :
    runUpdates config environment world (first ++ second) =
      runUpdates config environment (runUpdates config environment world first) second :=
  List.foldl_append

theorem runUpdates_invariant {invariant : Controller → Prop}
    (updates : ∀ self call, invariant self → invariant (self.updated config call))
    (notes : ∀ self now, invariant self → invariant { self with lastUpdate := some now })
    {world : World} (initial : invariant world.controller) (calls : List ControllerCall) :
    invariant (runUpdates config environment world calls).controller := by
  induction calls generalizing world with
  | nil => exact initial
  | cons call calls induction =>
      apply induction
      have outcome := PIController.update_ensures config environment world.controller call
        world rfl
      unfold updated
      cases ran : (call.perform config environment).run world with
      | ok decision after =>
          rw [ran] at outcome
          rw [finalState_ok, outcome.1]
          exact updates _ _ initial
      | error exception after =>
          rw [ran] at outcome
          rw [finalState_error]
          rcases outcome with same | noted
          · rw [same]
            exact initial
          · rw [noted]
            exact notes _ _ initial

/-! ## The integral -/

namespace Controller

variable {self : Controller} {call : ControllerCall}

theorem updated_integral (self : Controller) (call : ControllerCall) :
    (self.updated config call).integral =
      if self.DrivingFarther config call then self.integral
      else self.candidateI config call := by
  have sum (integral : ℚ) : config.control.kp * (config.setpointC - call.internalC) +
        integral + config.control.kff * (config.setpointC - call.ambientC) =
      feedthrough config call + integral := by
    unfold feedthrough ControllerCall.error
    ring
  simp only [updated, PIController.integrate, fl_eq, sum]
  rfl

def WithinLimit (config : Config) (self : Controller) : Prop :=
  |self.integral| ≤ config.control.integralLimit

theorem dtS_nonneg (valid : config.Valid) (now : ℚ) (self : Controller) :
    0 ≤ PIController.dtS config now self := by
  unfold PIController.dtS
  cases self.lastUpdate with
  | none => exact valid.periodS_pos.le
  | some last => exact Saturation.low_le_clamp

theorem dtS_le (valid : config.Valid) (now : ℚ) (later : self.lastUpdate ≠ none) :
    PIController.dtS config now self ≤ config.control.integralDtMaxS := by
  unfold PIController.dtS
  cases known : self.lastUpdate with
  | none => exact absurd known later
  | some last => exact Saturation.clamp_le_high valid.control.integralDtMaxS_pos.le

theorem withinLimit_updated (valid : config.Valid) (within : self.WithinLimit config)
    (call : ControllerCall) : (self.updated config call).WithinLimit config := by
  unfold WithinLimit
  rw [updated_integral]
  split_ifs
  · exact within
  · exact Saturation.abs_clamp_le valid.control.integralLimit_nonneg

theorem integral_le_candidateI (valid : config.Valid)
    (gain : 0 ≤ config.control.kiPerHour) (within : self.WithinLimit config)
    (cold : 0 ≤ call.error config) : self.integral ≤ self.candidateI config call := by
  apply Saturation.le_clamp (abs_le.mp within).2
  have dt := dtS_nonneg valid call.now self
  exact le_add_of_nonneg_right (mul_nonneg (mul_nonneg gain cold) (div_nonneg dt (by norm_num)))

theorem candidateI_le_integral (valid : config.Valid)
    (gain : 0 ≤ config.control.kiPerHour) (within : self.WithinLimit config)
    (warm : call.error config ≤ 0) : self.candidateI config call ≤ self.integral := by
  apply Saturation.clamp_le (abs_le.mp within).1
  have dt := dtS_nonneg valid call.now self
  exact add_le_of_nonpos_right
    (mul_nonpos_of_nonpos_of_nonneg (mul_nonpos_of_nonneg_of_nonpos gain warm)
      (div_nonneg dt (by norm_num)))

end Controller

theorem runUpdates_withinLimit (valid : config.Valid) (start : ℚ) (plugs : Int → Bool)
    (calls : List ControllerCall) :
    (runUpdates config environment (World.fresh start plugs) calls).controller.WithinLimit
      config := by
  apply runUpdates_invariant
  · exact fun self call within => Controller.withinLimit_updated valid within call
  · exact fun self now within => within
  · change |(0 : ℚ)| ≤ config.control.integralLimit
    rw [abs_zero]
    exact valid.control.integralLimit_nonneg

end BuranBrew.Host

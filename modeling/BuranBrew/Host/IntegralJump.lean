import BuranBrew.Host.Updates

/-! # Jumps of the integral

`integral_dt_max_s` limits the time that an update integrates over. The first update
integrates over `period_s` instead, which may be longer.
-/

namespace BuranBrew.Host

open Execution Exact

variable {config : Config} {environment : Environment}

/-- What `integral_dt_max_s` allows an update to add to the integral. -/
def ControllerCall.jumpLimit (config : Config) (call : ControllerCall) : ℚ :=
  |config.control.kiPerHour| * |call.error config| * config.control.integralDtMaxS / 3600

def SmallJump (config : Config) (before after : Controller) (call : ControllerCall) : Prop :=
  |after.integral - before.integral| ≤ call.jumpLimit config

/-- The first update may not take more than its share: its time step is short, it has
nothing to integrate, `integral_limit` is low, or the anti-windup test holds it back. -/
def FirstJumpSmall (config : Config) (call : ControllerCall) : Prop :=
  config.periodS ≤ config.control.integralDtMaxS ∨
    config.control.kiPerHour * call.error config = 0 ∨
    config.control.integralLimit ≤ call.jumpLimit config ∨
    ({} : Controller).DrivingFarther config call

instance (config : Config) (call : ControllerCall) : Decidable (FirstJumpSmall config call) :=
  inferInstanceAs (Decidable (_ ∨ _ ∨ _ ∨ _))

namespace Controller

variable {self : Controller} {call : ControllerCall}

theorem jump_le (valid : config.Valid) (within : self.WithinLimit config)
    (call : ControllerCall) :
    |(self.updated config call).integral - self.integral| ≤
      |config.control.kiPerHour * call.error config| *
        (PIController.dtS config call.now self / 3600) := by
  have dt : 0 ≤ PIController.dtS config call.now self / 3600 :=
    div_nonneg (dtS_nonneg valid call.now self) (by norm_num)
  rw [updated_integral]
  split_ifs
  · rw [sub_self, abs_zero]
    exact mul_nonneg (abs_nonneg _) dt
  · calc |self.candidateI config call - self.integral|
        ≤ |self.integral + config.control.kiPerHour * call.error config *
            (PIController.dtS config call.now self / 3600) - self.integral| :=
          Saturation.abs_clamp_sub_le (abs_le.mp within).1 (abs_le.mp within).2
      _ = |config.control.kiPerHour * call.error config| *
            (PIController.dtS config call.now self / 3600) := by
          rw [add_sub_cancel_left, abs_mul, abs_of_nonneg dt]

theorem smallJump_of_dtS (valid : config.Valid) (within : self.WithinLimit config)
    (short : PIController.dtS config call.now self ≤ config.control.integralDtMaxS) :
    SmallJump config self (self.updated config call) call := by
  apply (jump_le valid within call).trans
  rw [ControllerCall.jumpLimit, ← abs_mul, mul_div_assoc]
  exact mul_le_mul_of_nonneg_left (div_le_div_of_nonneg_right short (by norm_num))
    (abs_nonneg _)

/-- The first update starts from a zero integral, so all of the candidate is its jump. -/
theorem first_jump_small_iff (valid : config.Valid) (call : ControllerCall) :
    SmallJump config {} (({} : Controller).updated config call) call ↔
      FirstJumpSmall config call := by
  have within : ({} : Controller).WithinLimit config := by
    change |(0 : ℚ)| ≤ config.control.integralLimit
    rw [abs_zero]
    exact valid.control.integralLimit_nonneg
  have limitNonneg : 0 ≤ call.jumpLimit config := by
    unfold ControllerCall.jumpLimit
    have dtMax := valid.control.integralDtMaxS_pos.le
    positivity
  constructor
  · intro small
    by_contra large
    simp only [FirstJumpSmall, not_or, not_le] at large
    rcases large with ⟨long, integrates, low, driving⟩
    have candidate : (({} : Controller).candidateI config call) =
        Saturation.clamp (config.control.kiPerHour * call.error config *
          (config.periodS / 3600)) (-config.control.integralLimit)
          config.control.integralLimit := by
      change Saturation.clamp (0 + _) _ _ = _
      rw [zero_add]
      rfl
    have further : call.jumpLimit config <
        |config.control.kiPerHour * call.error config * (config.periodS / 3600)| := by
      rw [ControllerCall.jumpLimit, ← abs_mul, mul_div_assoc, abs_mul _ (config.periodS / 3600),
        abs_of_pos (div_pos valid.periodS_pos (by norm_num))]
      exact mul_lt_mul_of_pos_left (div_lt_div_of_pos_right long (by norm_num))
        (abs_pos.mpr integrates)
    rw [SmallJump, updated_integral, if_neg driving, candidate] at small
    change |_ - (0 : ℚ)| ≤ _ at small
    rw [sub_zero, Saturation.abs_clamp valid.control.integralLimit_nonneg] at small
    exact (lt_min low further).not_ge small
  · intro condition
    rcases condition with short | nothing | low | driving
    · exact smallJump_of_dtS valid within short
    · apply (jump_le valid within call).trans
      rw [nothing, abs_zero, zero_mul]
      exact limitNonneg
    · change |_ - (0 : ℚ)| ≤ _
      rw [sub_zero]
      exact (withinLimit_updated valid within call).trans low
    · rw [SmallJump, updated_integral, if_pos driving, sub_self, abs_zero]
      exact limitNonneg

end Controller

theorem updated_controller (quiet : environment.Quiet) (world : World)
    (call : ControllerCall) :
    (updated config environment world call).controller =
      world.controller.updated config call := by
  rw [updated, perform_run config quiet, finalState_ok]

theorem lastUpdate_of_cons (config : Config) (quiet : environment.Quiet)
    (world : World) (first : ControllerCall) (calls : List ControllerCall) :
    (runUpdates config environment world (first :: calls)).controller.lastUpdate ≠ none := by
  let later (self : Controller) : Prop := self.lastUpdate ≠ none
  change later (runUpdates config environment (updated config environment world first)
    calls).controller
  apply runUpdates_invariant
  · exact fun self call _ => Option.some_ne_none _
  · exact fun self now _ => Option.some_ne_none _
  · rw [updated_controller quiet]
    exact Option.some_ne_none _

/-- No update makes a large jump if and only if the first one does not. -/
theorem integral_jumps_small_iff (accepted : config.Accepted) (quiet : environment.Quiet)
    (start : ℚ) (plugs : Int → Bool) (calls : List ControllerCall) :
    (∀ done call rest, calls = done ++ call :: rest →
      SmallJump config
        (runUpdates config environment (World.fresh start plugs) done).controller
        (runUpdates config environment (World.fresh start plugs) (done ++ [call])).controller
        call) ↔
      ∀ call rest, calls = call :: rest → FirstJumpSmall config call := by
  have first (call : ControllerCall) :
      (updated config environment (World.fresh start plugs) call).controller =
        ({} : Controller).updated config call :=
    updated_controller quiet _ call
  constructor
  · intro small call rest split
    have jump := small [] call rest split
    rw [List.nil_append, runUpdates_cons, runUpdates_nil, runUpdates_nil, first] at jump
    exact (Controller.first_jump_small_iff accepted.valid call).mp jump
  · intro condition done call rest split
    cases done with
    | nil =>
        rw [List.nil_append, runUpdates_cons, runUpdates_nil, runUpdates_nil, first]
        exact (Controller.first_jump_small_iff accepted.valid call).mpr
          (condition call rest split)
    | cons earlier done =>
        have within : Controller.WithinLimit config (runUpdates config environment
            (World.fresh start plugs) (earlier :: done)).controller :=
          runUpdates_withinLimit accepted.valid start plugs _
        have later := lastUpdate_of_cons config quiet
          (World.fresh start plugs) earlier done
        rw [runUpdates_append]
        generalize runUpdates config environment (World.fresh start plugs)
          (earlier :: done) = before at within later ⊢
        rw [runUpdates_cons, runUpdates_nil, updated_controller quiet]
        exact Controller.smallJump_of_dtS accepted.valid within
          (Controller.dtS_le accepted.valid call.now later)

/-- Updates every ten minutes, with a limit of five minutes for the time step. -/
def Config.slow : Config :=
  { Config.shipped with
    periodS := 600
    control := { Config.shipped.control with commandStaleTimeoutS := 600 } }

theorem Config.slow_accepted : slow.Accepted := by
  rw [accepted_iff_valid]
  have control : slow.control.Valid slow.periodS := by
    constructor <;> norm_num [slow, shipped]
  exact ⟨by norm_num [slow], control, by decide, by decide, by decide⟩

/-- Half a degree below the setpoint, the first update integrates over ten minutes. -/
theorem first_integral_jump_large :
    ¬∀ (config : Config) (environment : Environment) (start : ℚ) (plugs : Int → Bool)
      (calls : List ControllerCall), config.Accepted → environment.Quiet →
      ∀ done call rest, calls = done ++ call :: rest →
        SmallJump config
          (runUpdates config environment (World.fresh start plugs) done).controller
          (runUpdates config environment (World.fresh start plugs)
            (done ++ [call])).controller call := by
  intro claimed
  have small := claimed Config.slow .obedient 0 (fun _ => false) [⟨37 / 2, 19, 0⟩]
    Config.slow_accepted Environment.obedient_tame.quiet [] ⟨37 / 2, 19, 0⟩ [] rfl
  exact absurd small (by unfold SmallJump; decide +kernel)

theorem integral_jumps_small_iff_shipped :
    FirstJumpSmall Config.shipped ⟨37 / 2, 19, 0⟩ ∧
    ∀ done call rest,
      [(⟨37 / 2, 19, 0⟩ : ControllerCall), ⟨17, 19, 3600⟩] = done ++ call :: rest →
      SmallJump Config.shipped
        (runUpdates Config.shipped .obedient (World.fresh 0 fun _ => false) done).controller
        (runUpdates Config.shipped .obedient (World.fresh 0 fun _ => false)
          (done ++ [call])).controller call := by
  have small : FirstJumpSmall Config.shipped ⟨37 / 2, 19, 0⟩ := .inl (by decide +kernel)
  have jumps := (integral_jumps_small_iff Config.shipped_accepted
    Environment.obedient_tame.quiet 0 (fun _ => false)
    [⟨37 / 2, 19, 0⟩, ⟨17, 19, 3600⟩]).mpr
  refine ⟨small, jumps fun call rest split => ?_⟩
  cases split
  exact small

end BuranBrew.Host

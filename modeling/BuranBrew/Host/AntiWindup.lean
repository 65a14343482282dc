import BuranBrew.Host.Updates

/-! # The anti-windup test

An update that would drive a saturated sum further keeps the integral as it is. The test
looks at the candidate, the guarantee is about the sum that was used.
-/

namespace BuranBrew.Host

open Execution Exact

variable {config : Config} {environment : Environment}

def ControlDecision.sum (decision : ControlDecision) : ℚ :=
  decision.pTerm + decision.iTerm + decision.feedforwardTerm

/-- The sum is beyond a limit and the error drives it further. -/
def ControlDecision.Saturated (decision : ControlDecision) : Prop :=
  (decision.sum > 1 ∧ decision.errorC > 0) ∨ (decision.sum < -1 ∧ decision.errorC < 0)

structure AntiWindup (config : Config) (before after : Controller)
    (decision : ControlDecision) : Prop where
  withinLimit : |after.integral| ≤ config.control.integralLimit
  iTerm : decision.iTerm = after.integral
  effort : decision.effort = PIController.clamp decision.sum (-1) 1
  effortRange : -1 ≤ decision.effort ∧ decision.effort ≤ 1
  rises : 0 < decision.errorC → before.integral ≤ after.integral
  falls : decision.errorC < 0 → after.integral ≤ before.integral
  rests : decision.errorC = 0 → after.integral = before.integral
  frozen : decision.Saturated → after.integral = before.integral

namespace Controller

variable {self : Controller} {call : ControllerCall}

theorem decision_sum (self : Controller) (call : ControllerCall) :
    (self.decision config call).sum =
      feedthrough config call + (self.updated config call).integral := by
  change config.control.kp * call.error config + (self.updated config call).integral +
    config.control.kff * (config.setpointC - call.ambientC) = _
  unfold feedthrough
  ring

/-- A sum that is saturated after the update was already saturated by the candidate. -/
theorem integral_of_saturated (saturated : (self.decision config call).Saturated) :
    (self.updated config call).integral = self.integral := by
  rw [ControlDecision.Saturated, decision_sum] at saturated
  rw [updated_integral] at *
  split_ifs at * with driving
  · rfl
  · exact absurd saturated driving

theorem integral_le_updated (valid : config.Valid)
    (gain : 0 ≤ config.control.kiPerHour) (within : self.WithinLimit config)
    (cold : 0 ≤ call.error config) :
    self.integral ≤ (self.updated config call).integral := by
  rw [updated_integral]
  split_ifs
  · exact le_refl _
  · exact integral_le_candidateI valid gain within cold

theorem updated_le_integral (valid : config.Valid)
    (gain : 0 ≤ config.control.kiPerHour) (within : self.WithinLimit config)
    (warm : call.error config ≤ 0) :
    (self.updated config call).integral ≤ self.integral := by
  rw [updated_integral]
  split_ifs
  · exact le_refl _
  · exact candidateI_le_integral valid gain within warm

theorem antiWindup (valid : config.Valid) (gain : 0 ≤ config.control.kiPerHour)
    (within : self.WithinLimit config) (call : ControllerCall) :
    AntiWindup config self (self.updated config call) (self.decision config call) where
  withinLimit := withinLimit_updated valid within call
  iTerm := rfl
  effort := rfl
  effortRange := ⟨Saturation.low_le_clamp, Saturation.clamp_le_high (by norm_num)⟩
  rises cold := integral_le_updated valid gain within cold.le
  falls warm := updated_le_integral valid gain within warm.le
  rests level :=
    le_antisymm (updated_le_integral valid gain within level.le)
      (integral_le_updated valid gain within level.ge)
  frozen := integral_of_saturated

end Controller

def SaturatedThroughout (config : Config) (environment : Environment) (world : World)
    (stretch : List ControllerCall) : Prop :=
  ∀ done call rest, stretch = done ++ call :: rest → ∃ decision after,
    (call.perform config environment).run (runUpdates config environment world done) =
        .ok decision after ∧
      decision.Saturated

theorem SaturatedThroughout.integral {world : World} {stretch : List ControllerCall}
    (saturated : SaturatedThroughout config environment world stretch) :
    (runUpdates config environment world stretch).controller.integral =
      world.controller.integral := by
  induction stretch generalizing world with
  | nil => rfl
  | cons call stretch induction =>
      rcases saturated [] call stretch rfl with ⟨decision, after, returned, beyond⟩
      rcases updated_of_returned returned with ⟨changed, decided⟩
      have moved : updated config environment world call = after := by
        unfold updated
        exact congrArg finalState returned
      have rest : SaturatedThroughout config environment after stretch := by
        intro done next rest split
        rw [← moved]
        exact saturated (call :: done) next rest (by rw [split]; rfl)
      rw [runUpdates_cons, moved, induction rest, changed]
      rw [decided] at beyond
      exact Controller.integral_of_saturated beyond

/-- The integral stays within its limit, follows the sign of the error and stands still
while the sum is saturated. -/
theorem anti_windup_kept (accepted : config.Accepted)
    (gain : 0 ≤ config.control.kiPerHour) (environment : Environment) (start : ℚ)
    (plugs : Int → Bool) (calls : List ControllerCall) :
    let world := runUpdates config environment (World.fresh start plugs) calls
    |world.controller.integral| ≤ config.control.integralLimit ∧
      (∀ (call : ControllerCall) (decision : ControlDecision) (after : World),
        (call.perform config environment).run world = .ok decision after →
          AntiWindup config world.controller after.controller decision) ∧
      ∀ stretch, SaturatedThroughout config environment world stretch →
        (runUpdates config environment world stretch).controller.integral =
          world.controller.integral := by
  intro world
  have within : world.controller.WithinLimit config :=
    runUpdates_withinLimit accepted.valid start plugs calls
  constructor
  · exact within
  · constructor
    · intro call decision after returned
      rcases updated_of_returned returned with ⟨changed, decided⟩
      rw [changed, decided]
      exact Controller.antiWindup accepted.valid gain within call
    · exact fun stretch saturated => saturated.integral

theorem anti_windup_kept_shipped :
    |(runUpdates Config.shipped .obedient (World.fresh 0 fun _ => false)
      [⟨17, 19, 0⟩, ⟨18, 19, 60⟩, ⟨20, 19, 120⟩]).controller.integral| ≤ 1 / 2 :=
  (anti_windup_kept Config.shipped_accepted (by decide +kernel) .obedient 0
    (fun _ => false) [⟨17, 19, 0⟩, ⟨18, 19, 60⟩, ⟨20, 19, 120⟩]).1

end BuranBrew.Host

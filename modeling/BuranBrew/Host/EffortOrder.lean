import BuranBrew.Host.Updates

/-! # Colder beer and more effort

Two updates from one state, for two internal temperatures. The effort is ordered like
the error except where the anti-windup test tells the two updates apart.
-/

namespace BuranBrew.Host

open Execution Exact

variable {config : Config} {environment : Environment}

namespace Controller

/-- The anti-windup test keeps the integral for one of the updates, and what the other
one integrates is more than the proportional terms differ. -/
def Outpaced (config : Config) (self : Controller) (cold warm : ControllerCall) : Prop :=
  let proportional := config.control.kp * (warm.internalC - cold.internalC)
  let coldRaw := feedthrough config cold + self.candidateI config cold
  let warmRaw := feedthrough config warm + self.candidateI config warm
  (coldRaw > 1 ∧ warm.error config > 0 ∧ -1 < warmRaw ∧ warmRaw ≤ 1 ∧
      proportional < self.candidateI config warm - self.integral) ∨
    (warmRaw < -1 ∧ cold.error config < 0 ∧ -1 ≤ coldRaw ∧ coldRaw < 1 ∧
      proportional < self.integral - self.candidateI config cold)

instance (config : Config) (self : Controller) (cold warm : ControllerCall) :
    Decidable (self.Outpaced config cold warm) :=
  inferInstanceAs (Decidable (_ ∨ _))

theorem decision_effort (self : Controller) (call : ControllerCall) :
    (self.decision config call).effort =
      Saturation.clamp (feedthrough config call + (self.updated config call).integral)
        (-1) 1 := by
  have sum : config.control.kp * (config.setpointC - call.internalC) +
        (self.updated config call).integral +
        config.control.kff * (config.setpointC - call.ambientC) =
      feedthrough config call + (self.updated config call).integral := by
    unfold feedthrough ControllerCall.error
    ring
  rw [← sum]
  rfl

structure Colder (config : Config) (controller : Controller)
    (cold warm : ControllerCall) : Prop where
  proportional : feedthrough config cold - feedthrough config warm =
    config.control.kp * (warm.internalC - cold.internalC)
  feedthrough_le : feedthrough config warm ≤ feedthrough config cold
  candidateI_le : controller.candidateI config warm ≤ controller.candidateI config cold
  error_le : warm.error config ≤ cold.error config
  rises : 0 ≤ cold.error config → controller.integral ≤ controller.candidateI config cold
  falls : warm.error config ≤ 0 → controller.candidateI config warm ≤ controller.integral

variable {self : Controller} {cold warm : ControllerCall}

theorem colder_of_le (valid : config.Valid) (kp : 0 ≤ config.control.kp)
    (ki : 0 ≤ config.control.kiPerHour) (within : self.WithinLimit config) {x y : ℚ}
    (ambientC now : ℚ) (colder : x ≤ y) :
    Colder config self ⟨x, ambientC, now⟩ ⟨y, ambientC, now⟩ := by
  have error : config.setpointC - y ≤ config.setpointC - x := sub_le_sub_left colder _
  have proportional : feedthrough config ⟨x, ambientC, now⟩ -
      feedthrough config ⟨y, ambientC, now⟩ = config.control.kp * (y - x) := by
    unfold feedthrough ControllerCall.error
    ring
  have dt : 0 ≤ PIController.dtS config now self / 3600 :=
    div_nonneg (dtS_nonneg valid now self) (by norm_num)
  constructor
  · exact proportional
  · have more : 0 ≤ config.control.kp * (y - x) := mul_nonneg kp (sub_nonneg.mpr colder)
    linarith
  · apply Saturation.clamp_mono
    exact add_le_add_right
      (mul_le_mul_of_nonneg_right (mul_le_mul_of_nonneg_left error ki) dt) self.integral
  · exact error
  · exact integral_le_candidateI valid ki within
  · exact candidateI_le_integral valid ki within

/-- What keeps the integral for the warmer beer alone keeps it at the lower limit. -/
theorem Colder.warmLow (colder : Colder config self cold warm)
    (free : ¬self.DrivingFarther config cold) (driven : self.DrivingFarther config warm) :
    feedthrough config warm + self.candidateI config warm < -1 ∧ warm.error config < 0 := by
  rcases driven with high | low
  · have raised := add_le_add colder.feedthrough_le colder.candidateI_le
    have driving : self.DrivingFarther config cold :=
      .inl ⟨high.1.trans_le raised, high.2.trans_le colder.error_le⟩
    exact absurd driving free
  · exact low

theorem Colder.coldHigh (colder : Colder config self cold warm)
    (driven : self.DrivingFarther config cold) (free : ¬self.DrivingFarther config warm) :
    feedthrough config cold + self.candidateI config cold > 1 ∧ cold.error config > 0 := by
  rcases driven with high | low
  · exact high
  · have lowered := add_le_add colder.feedthrough_le colder.candidateI_le
    have driving : self.DrivingFarther config warm :=
      .inr ⟨lowered.trans_lt low.1, colder.error_le.trans_lt low.2⟩
    exact absurd driving free

theorem Colder.outpaced_iff_high (colder : Colder config self cold warm)
    (driven : self.DrivingFarther config cold) (free : ¬self.DrivingFarther config warm) :
    self.Outpaced config cold warm ↔
      feedthrough config cold + self.integral <
          feedthrough config warm + self.candidateI config warm ∧
        -1 < feedthrough config warm + self.candidateI config warm ∧
        feedthrough config cold + self.integral < 1 := by
  have high := colder.coldHigh driven free
  have proportional := colder.proportional
  constructor
  · intro outpaced
    rcases outpaced with above | below
    · rcases above with ⟨_, _, warmLow, warmHigh, less⟩
      have increased : feedthrough config cold + self.integral <
          feedthrough config warm + self.candidateI config warm := by linarith
      exact ⟨increased, warmLow, increased.trans_le warmHigh⟩
    · exact absurd below.2.1 high.2.le.not_gt
  · intro given
    rcases given with ⟨increased, warmLow, _⟩
    have cold : warm.error config > 0 := by
      by_contra warm
      have fallen := colder.falls (not_lt.mp warm)
      have less := colder.feedthrough_le
      linarith
    have warmHigh : feedthrough config warm + self.candidateI config warm ≤ 1 := by
      by_contra beyond
      exact free (.inl ⟨not_le.mp beyond, cold⟩)
    exact .inl ⟨high.1, cold, warmLow, warmHigh, by linarith⟩

theorem Colder.outpaced_iff_low (colder : Colder config self cold warm)
    (free : ¬self.DrivingFarther config cold) (driven : self.DrivingFarther config warm) :
    self.Outpaced config cold warm ↔
      feedthrough config cold + self.candidateI config cold <
          feedthrough config warm + self.integral ∧
        -1 < feedthrough config warm + self.integral ∧
        feedthrough config cold + self.candidateI config cold < 1 := by
  have low := colder.warmLow free driven
  have proportional := colder.proportional
  constructor
  · intro outpaced
    rcases outpaced with above | below
    · exact absurd above.2.1 low.2.le.not_gt
    · rcases below with ⟨_, _, coldLow, coldHigh, less⟩
      have increased : feedthrough config cold + self.candidateI config cold <
          feedthrough config warm + self.integral := by linarith
      exact ⟨increased, coldLow.trans_lt increased, coldHigh⟩
  · intro given
    rcases given with ⟨increased, _, coldHigh⟩
    have warm : cold.error config < 0 := by
      by_contra cold
      have risen := colder.rises (not_lt.mp cold)
      have less := colder.feedthrough_le
      linarith
    have coldLow : -1 ≤ feedthrough config cold + self.candidateI config cold := by
      by_contra beyond
      exact free (.inr ⟨not_le.mp beyond, warm⟩)
    exact .inr ⟨low.1, warm, coldLow, coldHigh, by linarith⟩

theorem Colder.not_outpaced (colder : Colder config self cold warm)
    (alike : self.DrivingFarther config cold ↔ self.DrivingFarther config warm) :
    ¬self.Outpaced config cold warm := by
  intro outpaced
  rcases outpaced with above | below
  · rcases above with ⟨coldHigh, warmCold, _, warmHigh, _⟩
    have driven : self.DrivingFarther config cold :=
      .inl ⟨coldHigh, lt_of_lt_of_le warmCold colder.error_le⟩
    rcases alike.mp driven with high | low
    · exact absurd high.1 warmHigh.not_gt
    · exact absurd low.2 (lt_asymm warmCold)
  · rcases below with ⟨warmLow, coldWarm, coldLow, _, _⟩
    have driven : self.DrivingFarther config warm :=
      .inr ⟨warmLow, lt_of_le_of_lt colder.error_le coldWarm⟩
    rcases alike.mpr driven with high | low
    · exact absurd high.2 (lt_asymm coldWarm)
    · exact absurd low.1 coldLow.not_gt

theorem Colder.effort_lt_iff (colder : Colder config self cold warm) :
    (self.decision config cold).effort < (self.decision config warm).effort ↔
      self.Outpaced config cold warm := by
  have proper : (-1 : ℚ) < 1 := by norm_num
  rw [decision_effort, decision_effort, updated_integral, updated_integral]
  by_cases coldDriven : self.DrivingFarther config cold
  · by_cases warmDriven : self.DrivingFarther config warm
    · rw [if_pos coldDriven, if_pos warmDriven]
      have ordered := add_le_add_left colder.feedthrough_le self.integral
      exact iff_of_false (Saturation.clamp_mono ordered).not_gt
        (colder.not_outpaced (iff_of_true coldDriven warmDriven))
    · rw [if_pos coldDriven, if_neg warmDriven, Saturation.clamp_lt_clamp_iff proper]
      exact (colder.outpaced_iff_high coldDriven warmDriven).symm
  · by_cases warmDriven : self.DrivingFarther config warm
    · rw [if_neg coldDriven, if_pos warmDriven, Saturation.clamp_lt_clamp_iff proper]
      exact (colder.outpaced_iff_low coldDriven warmDriven).symm
    · rw [if_neg coldDriven, if_neg warmDriven]
      have ordered := add_le_add colder.feedthrough_le colder.candidateI_le
      exact iff_of_false (Saturation.clamp_mono ordered).not_gt
        (colder.not_outpaced (iff_of_false coldDriven warmDriven))

end Controller

/-- Colder beer gets at least as much effort unless its update is outpaced. -/
theorem colder_beer_effort_iff (accepted : config.Accepted)
    (kp : 0 ≤ config.control.kp) (ki : 0 ≤ config.control.kiPerHour)
    (environment : Environment) (start : ℚ) (plugs : Int → Bool)
    (calls : List ControllerCall) {x y : ℚ} (colder : x ≤ y) (ambientC now : ℚ)
    {cold warm : ControlDecision} {coldAfter warmAfter : World} :
    let world := runUpdates config environment (World.fresh start plugs) calls
    (PIController.update config environment x ambientC now).run world =
        .ok cold coldAfter →
      (PIController.update config environment y ambientC now).run world =
          .ok warm warmAfter →
        (warm.effort ≤ cold.effort ↔
          ¬world.controller.Outpaced config ⟨x, ambientC, now⟩ ⟨y, ambientC, now⟩) := by
  intro world coldReturned warmReturned
  have within : world.controller.WithinLimit config :=
    runUpdates_withinLimit accepted.valid start plugs calls
  have coldDecided := (@updated_of_returned _ _ _ _ ⟨x, ambientC, now⟩ _ coldReturned).2
  have warmDecided := (@updated_of_returned _ _ _ _ ⟨y, ambientC, now⟩ _ warmReturned).2
  rw [← not_lt, coldDecided, warmDecided,
    (Controller.colder_of_le accepted.valid kp ki within ambientC now colder).effort_lt_iff]

theorem colder_beer_effort_iff_shipped :
    (PIController.decide Config.shipped (189 / 10) 19
        (({} : Controller).updated Config.shipped ⟨189 / 10, 19, 0⟩)).effort ≤
      (PIController.decide Config.shipped (188 / 10) 19
        (({} : Controller).updated Config.shipped ⟨188 / 10, 19, 0⟩)).effort := by
  have cold := perform_run Config.shipped Environment.obedient_tame.quiet
    (World.fresh 0 fun _ => false) ⟨188 / 10, 19, 0⟩
  have warm := perform_run Config.shipped Environment.obedient_tame.quiet
    (World.fresh 0 fun _ => false) ⟨189 / 10, 19, 0⟩
  exact (colder_beer_effort_iff Config.shipped_accepted (by decide +kernel)
    (by decide +kernel) .obedient 0 (fun _ => false) [] (by decide +kernel) 19 0
    cold warm).mpr (by decide +kernel)

/-- With the shipped tuning, a thousandth of a degree tips the candidate sum over 1, and
the colder beer loses what its update would have integrated. -/
theorem colder_beer_gets_less :
    ¬∀ (config : Config) (environment : Environment) (start : ℚ) (plugs : Int → Bool)
      (calls : List ControllerCall) (x y ambientC now : ℚ) (cold warm : ControlDecision)
      (coldAfter warmAfter : World),
      config.Accepted → 0 ≤ config.control.kp → 0 ≤ config.control.kiPerHour → x ≤ y →
      (PIController.update config environment x ambientC now).run
          (runUpdates config environment (World.fresh start plugs) calls) =
        .ok cold coldAfter →
      (PIController.update config environment y ambientC now).run
          (runUpdates config environment (World.fresh start plugs) calls) =
        .ok warm warmAfter →
      warm.effort ≤ cold.effort := by
  intro claimed
  have cold := perform_run Config.shipped Environment.obedient_tame.quiet
    (World.fresh 0 fun _ => false) ⟨17890 / 1000, 19, 0⟩
  have warm := perform_run Config.shipped Environment.obedient_tame.quiet
    (World.fresh 0 fun _ => false) ⟨17891 / 1000, 19, 0⟩
  have ordered := claimed Config.shipped .obedient 0 (fun _ => false) []
    (17890 / 1000) (17891 / 1000) 19 0 _ _ _ _ Config.shipped_accepted
    (by decide +kernel) (by decide +kernel) (by decide +kernel) cold warm
  exact absurd ordered (by decide +kernel)

end BuranBrew.Host

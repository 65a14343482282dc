import BuranBrew.Host.Commands

/-! # What `plan` decides

Every way through `plan`, with the tests that lead there.
-/

namespace BuranBrew.Host

variable {config : Config} {tuning : ControlTuning} {now : ℚ} {self : Actuator}
  {decided : ActuatorPlan}

namespace Actuator

@[simp] theorem advanceWindow_effort [Rounding] (windowS now : ℚ) (self : Actuator) :
    (self.advanceWindow windowS now).effort = self.effort := by
  unfold advanceWindow
  split
  · rfl
  · dsimp only
    split_ifs <;> rfl

@[simp] theorem advanceWindow_lastEffortUpdate [Rounding] (windowS now : ℚ) (self : Actuator) :
    (self.advanceWindow windowS now).lastEffortUpdate = self.lastEffortUpdate := by
  unfold advanceWindow
  split
  · rfl
  · dsimp only
    split_ifs <;> rfl

@[simp] theorem settled_effort (wanted : Action) (now : ℚ) (self : Actuator) :
    (self.settled wanted now).effort = self.effort := by
  unfold settled
  dsimp only
  split_ifs <;> rfl

@[simp] theorem settled_lastEffortUpdate (wanted : Action) (now : ℚ) (self : Actuator) :
    (self.settled wanted now).lastEffortUpdate = self.lastEffortUpdate := by
  unfold settled
  dsimp only
  split_ifs <;> rfl

@[simp] theorem settled_windowStart (wanted : Action) (now : ℚ) (self : Actuator) :
    (self.settled wanted now).windowStart = self.windowStart := by
  unfold settled
  dsimp only
  split_ifs <;> rfl

theorem settled_lastActiveDirection {wanted last : Action}
    (remembered : (self.settled wanted now).lastActiveDirection = some last) :
    self.lastActiveDirection = some last ∨ self.action = last ∧ last.isActive = true := by
  unfold settled at remembered
  dsimp only at remembered
  by_cases ends : self.action.isActive = true ∧ wanted ≠ self.action
  · rw [if_pos ends] at remembered
    cases remembered
    exact .inr ⟨rfl, ends.1⟩
  · rw [if_neg ends] at remembered
    split_ifs at remembered <;> exact .inl remembered

/-- `"HEAT" if self._effort > 0 else "COOL"`. -/
def directionOf (effort : ℚ) : Action :=
  if effort > 0 then .heat else .cool

def direction (self : Actuator) : Action := directionOf self.effort

section

open Exact

/-- `_advance_window` moves the start by whole windows to the one that is open. -/
theorem advanceWindow_windowStart {windowS start : ℚ} (positive : 0 < windowS)
    (started : self.windowStart = some start) (past : start ≤ now) :
    ∃ windows : ℕ, (self.advanceWindow windowS now).windowStart =
        some (start + windows * windowS) ∧
      start + windows * windowS ≤ now ∧ now < start + windows * windowS + windowS := by
  unfold advanceWindow
  simp only [started, fl_eq]
  split_ifs with elapsed
  · have quotient : 0 ≤ ⌊(now - start) / windowS⌋ :=
      Int.floor_nonneg.mpr (div_nonneg (sub_nonneg.mpr past) positive.le)
    have below : (⌊(now - start) / windowS⌋ : ℚ) * windowS ≤ now - start :=
      (le_div_iff₀ positive).mp (Int.floor_le _)
    have above : now - start < ((⌊(now - start) / windowS⌋ : ℚ) + 1) * windowS :=
      (div_lt_iff₀ positive).mp (Int.lt_floor_add_one _)
    refine ⟨⌊(now - start) / windowS⌋.toNat, ?_⟩
    have natural : ((⌊(now - start) / windowS⌋.toNat : ℕ) : ℚ) =
        (⌊(now - start) / windowS⌋ : ℚ) := by exact_mod_cast Int.toNat_of_nonneg quotient
    rw [natural]
    refine ⟨rfl, ?_, ?_⟩ <;> linarith
  · refine ⟨0, ?_, ?_, ?_⟩
    · rw [started]
      simp
    · simpa using past
    · push Not at elapsed
      simp only [Nat.cast_zero, zero_mul]
      linarith

end

structure AsksForPulse [Rounding] (tuning : ControlTuning) (now : ℚ) (actuator : Actuator) :
    Prop where
  fresh : ∃ last, actuator.lastEffortUpdate = some last ∧
    fl (now - last) ≤ tuning.commandStaleTimeoutS
  outsideDeadband : tuning.effortDeadband < |actuator.effort|
  minOn : tuning.minOnS actuator.direction ≤ fl (|actuator.effort| * tuning.windowS)

inductive Decides [Rounding] (tuning : ControlTuning) (now : ℚ) (self : Actuator) :
    ActuatorPlan → Prop
  | noCommand (never : self.lastEffortUpdate = none) :
      Decides tuning now self ⟨.idle, 0, 0, 0, tuning.windowS, .noCommand⟩
  | staleCommand (last : ℚ) (update : self.lastEffortUpdate = some last)
      (late : fl (now - last) > tuning.commandStaleTimeoutS) :
      Decides tuning now self ⟨.idle, self.effort, 0, 0, tuning.windowS, .staleCommand⟩
  | deadband (last : ℚ) (update : self.lastEffortUpdate = some last)
      (fresh : fl (now - last) ≤ tuning.commandStaleTimeoutS)
      (small : |self.effort| ≤ tuning.effortDeadband) :
      Decides tuning now self ⟨.idle, self.effort, 0, 0, tuning.windowS, .deadband⟩
  | belowMinPulse (last : ℚ) (update : self.lastEffortUpdate = some last)
      (fresh : fl (now - last) ≤ tuning.commandStaleTimeoutS)
      (short : fl (|self.effort| * tuning.windowS) < tuning.minOnS self.direction) :
      Decides tuning now self ⟨.idle, self.effort, |self.effort|,
        fl (|self.effort| * tuning.windowS), tuning.windowS, .belowMinPulse⟩
  | dutyOff (start : ℚ) (asks : self.AsksForPulse tuning now)
      (started : self.windowStart = some start)
      (ended : fl (|self.effort| * tuning.windowS) ≤ fl (now - start)) :
      Decides tuning now self ⟨.idle, self.effort, |self.effort|,
        fl (|self.effort| * tuning.windowS), tuning.windowS, .dutyOff⟩
  | reverseLockout (start : ℚ) (asks : self.AsksForPulse tuning now)
      (started : self.windowStart = some start)
      (onPhase : fl (now - start) < fl (|self.effort| * tuning.windowS))
      (locked : self.reverseLocked tuning now self.direction = true) :
      Decides tuning now self ⟨.idle, self.effort, |self.effort|,
        fl (|self.effort| * tuning.windowS), tuning.windowS, .reverseLockout⟩
  | dutyOn (start : ℚ) (asks : self.AsksForPulse tuning now)
      (started : self.windowStart = some start)
      (onPhase : fl (now - start) < fl (|self.effort| * tuning.windowS))
      (free : self.reverseLocked tuning now self.direction = false) :
      Decides tuning now self ⟨self.direction, self.effort, |self.effort|,
        fl (|self.effort| * tuning.windowS), tuning.windowS, .dutyOn⟩

theorem directionOf_ne_idle (effort : ℚ) : directionOf effort ≠ .idle := by
  unfold directionOf
  split_ifs <;> decide

theorem isActive_directionOf (effort : ℚ) : (directionOf effort).isActive = true := by
  unfold directionOf
  split_ifs <;> rfl

theorem decides_of_plan [Rounding] (plans : self.plan tuning now = .ok decided) :
    self.Decides tuning now decided := by
  unfold plan at plans
  cases update : self.lastEffortUpdate with
  | none =>
      simp only [update] at plans
      cases plans
      exact .noCommand update
  | some last =>
      have folded : (if self.effort > 0 then Action.heat else Action.cool) =
          self.direction := rfl
      simp only [update, folded] at plans
      split_ifs at plans with late small short
      · cases plans
        exact .staleCommand last update late
      · cases plans
        exact .deadband last update (not_lt.mp late) small
      · cases plans
        exact .belowMinPulse last update (not_lt.mp late) short
      · have asks : self.AsksForPulse tuning now :=
          ⟨⟨last, update, not_lt.mp late⟩, not_le.mp small, not_lt.mp short⟩
        cases started : self.windowStart with
        | none => simp [started] at plans
        | some start =>
            simp only [started] at plans
            by_cases onPhase : fl (now - start) < fl (|self.effort| * tuning.windowS)
            · simp only [if_pos onPhase, isActive_directionOf, direction, true_and,
                if_pos (directionOf_ne_idle _)] at plans
              split_ifs at plans with locked
              · cases plans
                exact .reverseLockout start asks started onPhase locked
              · cases plans
                exact .dutyOn start asks started onPhase (Bool.eq_false_iff.mpr locked)
            · have idle : Action.idle.isActive = false := rfl
              simp only [if_neg onPhase, idle, Bool.false_eq_true, false_and, if_false,
                ne_eq, not_true_eq_false] at plans
              cases plans
              exact .dutyOff start asks started (not_lt.mp onPhase)

end Actuator

theorem Config.Plans.decides [Rounding] (plans : config.Plans now self decided) :
    (self.advanceWindow config.control.windowS now).Decides config.control now decided :=
  Actuator.decides_of_plan plans

end BuranBrew.Host

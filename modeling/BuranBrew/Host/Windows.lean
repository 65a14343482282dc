import BuranBrew.Foundation.Periods
import BuranBrew.Host.FixedPoint

/-! # Windows in floating point

Where `_advance_window` puts the start of the window when every result is rounded.
-/

namespace BuranBrew.Host

open Binary64 FloatingPoint Format

variable {config : Config} {environment : Environment}

namespace Actuator

variable {windowS start now : ℚ} {self : Actuator}

theorem advanceWindow_elapsed (started : self.windowStart = some start)
    (elapsed : windowS ≤ binary64.round (now - start)) :
    (self.advanceWindow windowS now).windowStart =
      some (binary64.lastPeriodEnd windowS start now) := by
  unfold advanceWindow
  rw [started]
  exact congrArg windowStart (if_pos elapsed)

def StartsAtFloat (self : Actuator) : Prop :=
  ∀ start, self.windowStart = some start → binary64.Member start

theorem StartsAtFloat.advanceWindow (float : self.StartsAtFloat) (windowS : ℚ)
    (nowFloat : binary64.Member now) : (self.advanceWindow windowS now).StartsAtFloat := by
  intro first known
  cases started : self.windowStart with
  | none =>
      unfold Actuator.advanceWindow at known
      rw [started] at known
      cases known
      exact nowFloat
  | some start =>
      by_cases elapsed : windowS ≤ binary64.round (now - start)
      · rw [advanceWindow_elapsed started elapsed] at known
        cases known
        exact binary64.member_round _
      · have opened : self.WindowOpen windowS now := ⟨start, started, not_le.mp elapsed⟩
        rw [opened.advanceWindow] at known
        exact float first known

theorem StartsAtFloat.moves {after : Actuator} (float : self.StartsAtFloat)
    {call : ActuatorCall} (nowFloat : binary64.Member call.now)
    {transition : Option ActuatorTransition} (moves : Moves config self call after transition) :
    after.StartsAtFloat := by
  have advanced := float.advanceWindow config.control.windowS nowFloat
  cases moves with
  | effortSet effort now =>
      intro first known
      change (if self.wasStale config.control now = true then some now else self.windowStart) =
        some first at known
      split_ifs at known
      · cases known
        exact nowFloat
      · exact float first known
  | planned now => exact advanced
  | stayed now => exact advanced
  | switched now decided plans different =>
      intro first known
      rw [settled_windowStart] at known
      exact advanced first known
  | kept now reason => exact float
  | idled now reason active =>
      intro first known
      rw [settled_windowStart] at known
      exact float first known

/-- The ends of later windows are further away than the errors of rounding. -/
def ClearOfWindowEnds (windowS now : ℚ) (self : Actuator) : Prop :=
  ∀ start, self.windowStart = some start → ∀ windows : ℤ, 2 ≤ windows →
    2 ^ (-49 : ℤ) * max |start| |now| < |now - (start + windows * windowS)|

theorem clearOfWindowEnds_of_early (positive : 0 < windowS)
    (started : self.windowStart = some start)
    (early : now + 2 ^ (-49 : ℤ) * max |start| |now| < start + 2 * windowS) :
    self.ClearOfWindowEnds windowS now := by
  intro first known windows later
  cases started.symm.trans known
  have far : 2 * windowS ≤ windows * windowS :=
    mul_le_mul_of_nonneg_right (by exact_mod_cast later) positive.le
  rw [abs_sub_comm]
  exact lt_of_lt_of_le (by linarith) (le_abs_self _)

theorem ClearOfWindowEnds.windowOpen (clear : self.ClearOfWindowEnds windowS now)
    (positive : 0 < windowS) (windowFloat : binary64.Member windowS)
    (nowFloat : binary64.Member now) (float : self.StartsAtFloat) :
    (self.advanceWindow windowS now).WindowOpen windowS now := by
  cases started : self.windowStart with
  | none =>
      unfold Actuator.advanceWindow
      rw [started]
      exact ⟨now, rfl, by rwa [sub_self, fl_zero]⟩
  | some start =>
      by_cases elapsed : windowS ≤ binary64.round (now - start)
      · refine ⟨_, advanceWindow_elapsed started elapsed, ?_⟩
        apply elapsed_lastPeriodEnd positive elapsed binary64_fine (float start started) nowFloat
          windowFloat (le_max_left _ _) (le_max_right |start| |now|)
        intro windows later
        have margin := clear start started windows later
        have errors : 16 * (binary64.unitRoundoff * max |start| |now|) =
            2 ^ (-49 : ℤ) * max |start| |now| := by
          norm_num [unitRoundoff, binary64]
          ring
        rwa [errors]
      · have opened : self.WindowOpen windowS now := ⟨start, started, not_le.mp elapsed⟩
        rwa [opened.advanceWindow]

end Actuator

theorem startsAtFloat_runCalls (quiet : environment.Quiet) (calls : List ActuatorCall)
    {world : World} (float : world.actuator.StartsAtFloat)
    (floats : ∀ call ∈ calls, binary64.Member call.now) :
    (runCalls config environment world calls).actuator.StartsAtFloat := by
  induction calls generalizing world with
  | nil => exact float
  | cons call calls induction =>
      have moved := float.moves (floats call List.mem_cons_self)
        (performed_moves config quiet world call)
      exact induction moved fun other among => floats other (List.mem_cons_of_mem _ among)

end BuranBrew.Host

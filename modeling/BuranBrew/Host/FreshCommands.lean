import BuranBrew.Host.Windows

/-! # No actuation without a fresh command

What the attributes remember of the calls so far. Histories of calls are listed newest
first.
-/

namespace BuranBrew.Host

open Execution TimeProportionalActuator FloatingPoint Format

variable {config : Config} {environment : Environment}

def lastCommand : List ActuatorCall → Option (ℚ × ℚ)
  | [] => none
  | .setEffort effort now :: _ => some (effort, now)
  | _ :: earlier => lastCommand earlier

structure Remembers (history : List ActuatorCall) (actuator : Actuator) : Prop where
  update : actuator.lastEffortUpdate = (lastCommand history).map Prod.snd
  effort : ∀ effort last, lastCommand history = some (effort, last) →
    actuator.effort = max (-1) (min 1 effort)

theorem Remembers.passive {history : List ActuatorCall} {before after : Actuator}
    (remembers : Remembers history before) {call : ActuatorCall}
    (kept : lastCommand (call :: history) = lastCommand history)
    (update : after.lastEffortUpdate = before.lastEffortUpdate)
    (effort : after.effort = before.effort) : Remembers (call :: history) after := by
  constructor
  · rw [update, kept, remembers.update]
  · rw [effort, kept]
    exact remembers.effort

section Commands

variable [Rounding]

/-- Whether a `set_effort` at `now` finds the previous command absent or stale. -/
def findsStale (timeout now : ℚ) (history : List ActuatorCall) : Bool :=
  match lastCommand history with
  | none => true
  | some (_, last) => decide (fl (now - last) > timeout)

/-- When the last `set_effort` happened that found the previous command absent or stale. -/
def lastRestart (timeout : ℚ) : List ActuatorCall → Option ℚ
  | [] => none
  | .setEffort _ now :: earlier =>
      if findsStale timeout now earlier then some now else lastRestart timeout earlier
  | _ :: earlier => lastRestart timeout earlier

theorem lastRestart_of_lastCommand (timeout : ℚ) {history : List ActuatorCall}
    {last : ℚ × ℚ} (set : lastCommand history = some last) :
    ∃ restart, lastRestart timeout history = some restart := by
  induction history generalizing last with
  | nil => cases set
  | cons call earlier induction =>
      cases call with
      | setEffort effort now =>
          unfold lastRestart
          split_ifs with stale
          · exact ⟨now, rfl⟩
          · cases before : lastCommand earlier with
            | none => simp [findsStale, before] at stale
            | some previous => exact induction before
      | plan now => exact induction set
      | tick now => exact induction set
      | forceIdle now reason => exact induction set

namespace Remembers

variable {history : List ActuatorCall} {before after : Actuator}

theorem wasStale (remembers : Remembers history before) (config : Config) (now : ℚ) :
    before.wasStale config.control now =
      findsStale config.control.commandStaleTimeoutS now history := by
  unfold Actuator.wasStale findsStale
  rw [remembers.update]
  cases lastCommand history <;> rfl

theorem moves (remembers : Remembers history before) {call : ActuatorCall}
    {transition : Option ActuatorTransition}
    (moves : Moves config before call after transition) :
    Remembers (call :: history) after := by
  cases moves with
  | effortSet effort now =>
      constructor
      · rfl
      · intro other last same
        cases same
        rfl
  | planned now => exact remembers.passive rfl (by simp) (by simp)
  | stayed now => exact remembers.passive rfl (by simp) (by simp)
  | switched now decided plans different => exact remembers.passive rfl (by simp) (by simp)
  | kept now reason => exact remembers.passive rfl rfl rfl
  | idled now reason active => exact remembers.passive rfl (by simp) (by simp)

end Remembers

theorem remembers_runCalls (config : Config) (quiet : environment.Quiet) (calls : List ActuatorCall)
    {history : List ActuatorCall} {world : World}
    (remembers : Remembers history world.actuator) :
    Remembers (calls.reverse ++ history)
      (runCalls config environment world calls).actuator := by
  induction calls generalizing history world with
  | nil => exact remembers
  | cons call calls induction =>
      have rest := induction (remembers.moves (performed_moves config quiet world call))
      rw [List.reverse_cons, List.append_assoc]
      exact rest

/-- Whole windows were added, one or more at a time, and each sum was rounded. -/
inductive WholeWindows (windowS start : ℚ) : ℚ → Prop
  | none : WholeWindows windowS start start
  | more {opened : ℚ} (earlier : WholeWindows windowS start opened) (windows : ℕ) :
      WholeWindows windowS start (fl (opened + fl (windows * windowS)))

end Commands

theorem InitializedAt.remembers (quiet : environment.Quiet) {start : ℚ}
    {plugs : Int → Bool} {ready : World}
    (initialized : InitializedAt config environment start plugs ready) :
    Remembers [] ready.actuator := by
  rcases initialized with ⟨first, initialized⟩
  rw [(initialized_actuator quiet initialized).2]
  exact ⟨rfl, by simp [lastCommand]⟩

/-! ## Windows of floats -/

section

open Binary64

/-- A few rounding errors of times from one instant to another. -/
def slack (start now : ℚ) : ℚ := 2 ^ (-50 : ℤ) * max |start| |now|

theorem slack_nonneg (start now : ℚ) : 0 ≤ slack start now :=
  mul_nonneg (by positivity) ((abs_nonneg now).trans (le_max_right |start| |now|))

theorem slack_mono {start now later : ℚ} (begun : start ≤ now) (past : now ≤ later) :
    slack start now ≤ slack start later := by
  apply mul_le_mul_of_nonneg_left _ (by positivity)
  apply max_le (le_max_left _ _)
  rw [abs_le]
  constructor
  · linarith [neg_abs_le start, le_max_left |start| |later|]
  · linarith [le_abs_self later, le_max_right |start| |later|]

theorem eight_rounding_errors (start now : ℚ) :
    8 * (binary64.unitRoundoff * max |start| |now|) = slack start now := by
  norm_num [slack, unitRoundoff, binary64]
  ring

/-- The window starts when the effort recovered, or whole windows later. -/
structure Windowed (config : Config) (start now : ℚ) (history : List ActuatorCall)
    (opened : ℚ) : Prop where
  float : binary64.Member opened
  later : start ≤ opened
  begun : opened ≤ now + slack start now
  aligned : ∀ restart, lastRestart config.control.commandStaleTimeoutS history = some restart →
    WholeWindows config.control.windowS restart opened

namespace Windowed

variable {start now later opened : ℚ} {history : List ActuatorCall} {before after : Actuator}

theorem past (windowed : Windowed config start now history opened) (begun : start ≤ now)
    (past : now ≤ later) : Windowed config start later history opened where
  float := windowed.float
  later := windowed.later
  begun := by linarith [windowed.begun, slack_mono begun past]
  aligned := windowed.aligned

theorem passive (windowed : Windowed config start now history opened) {call : ActuatorCall}
    (kept : lastRestart config.control.commandStaleTimeoutS (call :: history) =
      lastRestart config.control.commandStaleTimeoutS history) :
    Windowed config start now (call :: history) opened :=
  ⟨windowed.float, windowed.later, windowed.begun, by rw [kept]; exact windowed.aligned⟩

theorem restarted (begun : start ≤ now) (nowFloat : binary64.Member now) (effort : ℚ)
    (stale : findsStale config.control.commandStaleTimeoutS now history = true) :
    Windowed config start now (.setEffort effort now :: history) now where
  float := nowFloat
  later := begun
  begun := le_add_of_nonneg_right (slack_nonneg start now)
  aligned := by
    intro restart same
    unfold lastRestart at same
    rw [if_pos stale] at same
    cases same
    exact .none

theorem advanced (windowed : Windowed config start now history opened)
    (positive : 0 < config.control.windowS)
    (windowFloat : binary64.Member config.control.windowS) (nowFloat : binary64.Member now)
    (started : before.windowStart = some opened) :
    ∃ next, (before.advanceWindow config.control.windowS now).windowStart = some next ∧
      Windowed config start now history next ∧
      now < next + config.control.windowS + slack start now := by
  by_cases elapsed : config.control.windowS ≤ binary64.round (now - opened)
  · have earlier := lt_of_elapsed positive elapsed
    have size : |opened| ≤ max |start| |now| := by
      rw [abs_le]
      constructor
      · linarith [neg_abs_le start, le_max_left |start| |now|, windowed.later]
      · linarith [le_abs_self now, le_max_right |start| |now|]
    have near := lastPeriodEnd_near positive elapsed Format.binary64_fine windowed.float nowFloat
      windowFloat size (le_max_right |start| |now|)
    rw [eight_rounding_errors] at near
    refine ⟨_, Actuator.advanceWindow_elapsed started elapsed, ?_, near.2.1⟩
    constructor
    · exact binary64.member_round _
    · exact windowed.later.trans
        (le_lastPeriodEnd positive elapsed Format.binary64_fine windowed.float)
    · exact near.1
    · intro restart same
      have windows := one_le_wholePeriods positive elapsed Format.binary64_fine
      have aligned := windowed.aligned restart same
      have further := aligned.more
        (binary64.wholePeriods config.control.windowS opened now).toNat
      have natural : (((binary64.wholePeriods config.control.windowS opened now).toNat : ℕ) : ℚ) =
          (binary64.wholePeriods config.control.windowS opened now : ℚ) := by
        exact_mod_cast Int.toNat_of_nonneg (zero_le_one.trans windows)
      rw [natural] at further
      exact further
  · have within : now - opened < config.control.windowS := by
      by_contra late
      exact elapsed (windowFloat.le_round (not_lt.mp late))
    have open' : before.WindowOpen config.control.windowS now :=
      ⟨opened, started, not_le.mp elapsed⟩
    rw [open'.advanceWindow]
    exact ⟨opened, started, windowed, by linarith [slack_nonneg start now]⟩

theorem moves (windowed : Windowed config start now history opened) (begun : start ≤ now)
    (positive : 0 < config.control.windowS)
    (windowFloat : binary64.Member config.control.windowS)
    (remembers : Remembers history before) (started : before.windowStart = some opened)
    {call : ActuatorCall} (past : now ≤ call.now) (nowFloat : binary64.Member call.now)
    {transition : Option ActuatorTransition}
    (moves : Moves config before call after transition) :
    ∃ next, after.windowStart = some next ∧
      Windowed config start call.now (call :: history) next := by
  have windowed := windowed.past begun past
  rcases windowed.advanced positive windowFloat nowFloat started with ⟨next, moved, further, _⟩
  cases moves with
  | effortSet effort later =>
      cases stale : findsStale config.control.commandStaleTimeoutS later history with
      | true =>
          refine ⟨later, ?_, restarted (begun.trans past) nowFloat effort stale⟩
          change (if before.wasStale config.control later = true then some later
            else before.windowStart) = _
          rw [remembers.wasStale, stale, if_pos rfl]
      | false =>
          refine ⟨opened, ?_, windowed.passive ?_⟩
          · change (if before.wasStale config.control later = true then some later
              else before.windowStart) = _
            rw [remembers.wasStale, stale, if_neg Bool.false_ne_true, started]
          · change (if findsStale config.control.commandStaleTimeoutS later history then
              some later else lastRestart config.control.commandStaleTimeoutS history) = _
            rw [stale, if_neg Bool.false_ne_true]
  | planned later => exact ⟨next, moved, further.passive rfl⟩
  | stayed later => exact ⟨next, moved, further.passive rfl⟩
  | switched later decided plans different =>
      exact ⟨next, (Actuator.settled_windowStart _ _ _).trans moved, further.passive rfl⟩
  | kept later reason => exact ⟨opened, started, windowed.passive rfl⟩
  | idled later reason active =>
      exact ⟨opened, (Actuator.settled_windowStart _ _ _).trans started, windowed.passive rfl⟩

end Windowed

theorem InitializedAt.windowed (quiet : environment.Quiet) {start : ℚ}
    {plugs : Int → Bool} {ready : World}
    (initialized : InitializedAt config environment start plugs ready)
    (startFloat : binary64.Member start) :
    ready.actuator.windowStart = some start ∧ Windowed config start start [] start := by
  rcases initialized with ⟨first, initialized⟩
  rw [(initialized_actuator quiet initialized).2]
  exact ⟨rfl, startFloat, le_refl start, le_add_of_nonneg_right (slack_nonneg start start),
    by simp [lastRestart]⟩

theorem windowed_runCalls (quiet : environment.Quiet) (positive : 0 < config.control.windowS)
    (windowFloat : binary64.Member config.control.windowS) (calls : List ActuatorCall)
    (last : ActuatorCall) {start now opened : ℚ} {history : List ActuatorCall} {world : World}
    (begun : start ≤ now) (remembers : Remembers history world.actuator)
    (started : world.actuator.windowStart = some opened)
    (windowed : Windowed config start now history opened)
    (nondecreasing : ActuatorCall.Nondecreasing now (calls ++ [last]))
    (floats : ∀ call ∈ calls, binary64.Member call.now) :
    ∃ later ≤ last.now, start ≤ later ∧ ∃ next,
      (runCalls config environment world calls).actuator.windowStart = some next ∧
        Windowed config start later (calls.reverse ++ history) next := by
  induction calls generalizing now opened history world with
  | nil => exact ⟨now, nondecreasing.1, begun, opened, started, windowed⟩
  | cons call calls induction =>
      have moves := performed_moves config quiet world call
      rcases windowed.moves begun positive windowFloat remembers started nondecreasing.1
        (floats call List.mem_cons_self) moves with ⟨next, moved, further⟩
      have rest := induction (begun.trans nondecreasing.1) (remembers.moves moves) moved further
        nondecreasing.2 fun other among => floats other (List.mem_cons_of_mem _ among)
      rw [List.reverse_cons, List.append_assoc]
      exact rest

/-- A command that allows the direction at the given time. What `plan` compares is what it
computes, and the window may start a little after the time or end a little before it. -/
structure Warranted (config : Config) (direction : Direction) (start now : ℚ)
    (history : List ActuatorCall) (opened : ℚ) : Prop where
  fresh : ∃ effort last, lastCommand history = some (effort, last) ∧
    fl (now - last) ≤ config.control.commandStaleTimeoutS ∧
    (direction = .heat → 0 < max (-1) (min 1 effort)) ∧
    (direction = .cool → max (-1) (min 1 effort) < 0) ∧
    config.control.effortDeadband < |max (-1) (min 1 effort)| ∧
    config.control.minOnS direction.action ≤
      fl (|max (-1) (min 1 effort)| * config.control.windowS) ∧
    fl (now - opened) < fl (|max (-1) (min 1 effort)| * config.control.windowS)
  begun : opened ≤ now + slack start now
  lasting : now < opened + config.control.windowS + slack start now
  aligned : ∃ restart,
    lastRestart config.control.commandStaleTimeoutS history = some restart ∧
      WholeWindows config.control.windowS restart opened

theorem Actuator.Requests.signed {tuning : ControlTuning} {now : ℚ} {self : Actuator}
    {direction : Direction} (requests : self.Requests tuning now direction)
    (deadband : 0 ≤ tuning.effortDeadband) :
    (direction = .heat → 0 < self.effort) ∧ (direction = .cool → self.effort < 0) := by
  have sign := requests.sign
  constructor
  · intro heat
    rw [heat] at sign
    by_contra cold
    rw [if_neg cold] at sign
    cases sign
  · intro cool
    rw [cool] at sign
    split_ifs at sign with warm
    · cases sign
    · have nonzero := abs_pos.mp (deadband.trans_lt requests.outsideDeadband)
      exact lt_of_le_of_ne (not_lt.mp warm) nonzero

theorem Remembers.command {now : ℚ} {history : List ActuatorCall} {self after : Actuator}
    {direction : Direction} (remembers : Remembers history after)
    (requests : self.Requests config.control now direction)
    (effort : after.effort = self.effort)
    (update : after.lastEffortUpdate = self.lastEffortUpdate) :
    ∃ value last, lastCommand history = some (value, last) ∧
      fl (now - last) ≤ config.control.commandStaleTimeoutS ∧
      self.effort = max (-1) (min 1 value) := by
  rcases requests.fresh with ⟨last, updated, recent⟩
  rw [remembers.update, updated] at update
  rcases Option.map_eq_some_iff.mp update with ⟨⟨value, time⟩, command, rfl⟩
  have clamped := remembers.effort value time command
  rw [effort] at clamped
  exact ⟨value, time, command, recent, clamped⟩

theorem Windowed.warranted {start now opened : ℚ} {history : List ActuatorCall}
    {world : World} {direction : Direction}
    (windowed : Windowed config start now history opened)
    (remembers : Remembers history world.actuator)
    (started : world.actuator.windowStart = some opened)
    (valid : config.control.Valid config.periodS)
    (windowFloat : binary64.Member config.control.windowS) (nowFloat : binary64.Member now)
    (quiet : environment.Quiet)
    (succeeded : NoneFailed world (performed config environment world (.tick now)))
    (active : (performed config environment world (.tick now)).actuator.action =
      direction.action) :
    ∃ next, (performed config environment world (.tick now)).actuator.windowStart =
        some next ∧ Warranted config direction start now history next := by
  rcases world.actuator.plan_advanceWindow config.control now with ⟨decided, plans⟩
  have carried := performed_followed quiet plans succeeded
  have ticked : Remembers (.tick now :: history)
      (performed config environment world (.tick now)).actuator :=
    remembers.moves (performed_moves config quiet world (.tick now))
  have requested : decided.requestedAction = direction.action := by
    rw [carried, Actuator.followed_action] at active
    exact active
  have requests := Config.Plans.requests plans requested
  rcases windowed.advanced valid.windowS_pos windowFloat nowFloat started with
    ⟨next, moved, further, lasting⟩
  rcases requests.onPhase with ⟨other, otherStarted, onPhase⟩
  cases moved.symm.trans otherStarted
  have window : (performed config environment world (.tick now)).actuator.windowStart =
      some next := by
    rw [carried, Actuator.followed_windowStart, moved]
  have effort := congrArg Actuator.effort carried
  have update := congrArg Actuator.lastEffortUpdate carried
  rw [Actuator.followed_effort] at effort
  rw [Actuator.followed_lastEffortUpdate] at update
  rcases ticked.command requests effort update with ⟨value, last, command, recent, clamped⟩
  have outside := requests.outsideDeadband
  have signed := requests.signed valid.effortDeadband_nonneg
  have enough := requests.minOn
  rw [clamped] at outside signed enough onPhase
  refine ⟨next, window, ?_, further.begun, lasting, ?_⟩
  · exact ⟨value, last, command, recent, signed.1, signed.2, outside, enough, onPhase⟩
  · rcases lastRestart_of_lastCommand config.control.commandStaleTimeoutS command with
        ⟨restart, restarted⟩
    exact ⟨restart, restarted, further.aligned restart restarted⟩

/-- An action that a tick leaves behind is warranted by a command. -/
theorem actuation_is_warranted (accepted : config.Accepted)
    (windowFloat : binary64.Member config.control.windowS) (quiet : environment.Quiet)
    {start : ℚ} {plugs : Int → Bool} {ready : World}
    (initialized : InitializedAt config environment start plugs ready)
    (startFloat : binary64.Member start) (calls : List ActuatorCall) (now : ℚ)
    (nondecreasing : ActuatorCall.Nondecreasing start (calls ++ [.tick now]))
    (floats : ∀ call ∈ calls ++ [.tick now], binary64.Member call.now)
    (succeeded : NoneFailed (runCalls config environment ready calls)
      (runCalls config environment ready (calls ++ [.tick now])))
    (direction : Direction) :
    let after := runCalls config environment ready (calls ++ [.tick now])
    after.actuator.action = direction.action →
      ∃ opened, after.actuator.windowStart = some opened ∧
        Warranted config direction start now calls.reverse opened := by
  intro after active
  have valid := accepted.valid.control
  have remembers := remembers_runCalls config quiet calls
    (initialized.remembers quiet)
  rcases initialized.windowed quiet startFloat with ⟨started, windowed⟩
  rcases windowed_runCalls quiet valid.windowS_pos windowFloat calls (.tick now)
      (le_refl start) (initialized.remembers quiet) started windowed nondecreasing
      (fun call among => floats call (by simp [among])) with
    ⟨later, past, begun, opened, known, windowed⟩
  have nowFloat : binary64.Member now := floats (.tick now) (by simp)
  change (runCalls config environment ready (calls ++ [.tick now])).actuator.action = _
    at active
  change ∃ opened, (runCalls config environment ready
    (calls ++ [.tick now])).actuator.windowStart = _ ∧ _
  rw [runCalls_append, runCalls_cons, runCalls_nil] at succeeded active ⊢
  rw [List.append_nil] at remembers windowed
  generalize runCalls config environment ready calls = world at *
  exact (windowed.past begun past).warranted remembers known valid windowFloat nowFloat quiet
    succeeded active

theorem actuation_is_warranted_heating :
    ∃ opened, (runCalls Config.shipped .obedient
        (readyAt Config.shipped .obedient 0 fun _ => true)
        ([.setEffort 1 60, .tick 60, .setEffort 1 1900] ++ [.tick 1900])).actuator.windowStart =
          some opened ∧
      Warranted Config.shipped .heat 0 1900
        [ActuatorCall.setEffort 1 60, .tick 60, .setEffort 1 1900].reverse opened := by
  have initialized : InitializedAt Config.shipped .obedient 0 (fun _ => true)
      (readyAt Config.shipped .obedient 0 fun _ => true) := ⟨_, rfl⟩
  exact actuation_is_warranted Config.shipped_accepted (by decide +kernel)
    Environment.obedient_tame.quiet initialized (by decide +kernel)
    [.setEffort 1 60, .tick 60, .setEffort 1 1900] 1900 (by decide +kernel) (by decide +kernel)
    (by decide +kernel) .heat (by decide +kernel)

/-- An effort every three minutes, from 32.072 seconds on. -/
def everyThreeMinutes : List ActuatorCall :=
  .setEffort 1 (fl (32072 / 1000)) ::
    (List.range 10).map fun count => .setEffort 1 (180 * (count + 1))

/-- After 1800 seconds the window starts anew, a little later than it is. -/
theorem window_starts_late :
    ¬∀ (config : Config) (environment : Environment) (start : ℚ) (plugs : Int → Bool)
      (ready : World) (calls : List ActuatorCall) (now : ℚ) (direction : Direction),
      config.Accepted → binary64.Member config.control.windowS → environment.Quiet →
      InitializedAt config environment start plugs ready → binary64.Member start →
      ActuatorCall.Nondecreasing start (calls ++ [.tick now]) →
      (∀ call ∈ calls ++ [.tick now], binary64.Member call.now) →
      NoneFailed (runCalls config environment ready calls)
        (runCalls config environment ready (calls ++ [.tick now])) →
      (runCalls config environment ready (calls ++ [.tick now])).actuator.action =
        direction.action →
      ∃ opened, (runCalls config environment ready
        (calls ++ [.tick now])).actuator.windowStart = some opened ∧ opened ≤ now := by
  intro claimed
  rcases claimed .shipped .obedient (fl (32072 / 1000)) (fun _ => false)
    (readyAt .shipped .obedient (fl (32072 / 1000)) fun _ => false) everyThreeMinutes
    (fl (1832072 / 1000)) .heat Config.shipped_accepted (by decide +kernel)
    Environment.obedient_tame.quiet ⟨_, rfl⟩ (by decide +kernel) (by decide +kernel)
    (by decide +kernel) (by decide +kernel) (by decide +kernel) with ⟨opened, known, begun⟩
  have late : (runCalls Config.shipped .obedient
      (readyAt .shipped .obedient (fl (32072 / 1000)) fun _ => false)
      (everyThreeMinutes ++ [.tick (fl (1832072 / 1000))])).actuator.windowStart =
      some (fl (1832072 / 1000) + 2 ^ (-42 : ℤ)) := by
    decide +kernel
  cases known.symm.trans late
  exact absurd begun (by decide +kernel)

end

end BuranBrew.Host

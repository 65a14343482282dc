import BuranBrew.Host.FreshCommands
import BuranBrew.Host.SteadyDuty

/-! # The minimum pulse

`plan` compares the minimum on-time with the whole pulse of a window. A pulse that starts
late in its window is cut short at the same instant.
-/

namespace BuranBrew.Host

open Execution Exact TimeProportionalActuator ActuatorCall

variable {config : Config} {environment : Environment}

/-- The actuator is in the middle of a pulse for an effort that was set at `last`. -/
structure Pulsing (direction : Direction) (effort last : ℚ) (actuator : Actuator) :
    Prop where
  action : actuator.action = direction.action
  idleSince : actuator.idleSince = none
  effort : actuator.effort = effort
  update : actuator.lastEffortUpdate = some last

/-- The pulse of the window does not end before `finish`. -/
def Covers (config : Config) (effort finish : ℚ) (actuator : Actuator) : Prop :=
  |effort| = 1 ∨ ∃ opened, actuator.windowStart = some opened ∧
    finish ≤ opened + |effort| * config.control.windowS

namespace Pulsing

variable {direction : Direction} {effort last now : ℚ} {self : Actuator}

theorem requests (pulsing : Pulsing direction effort last self)
    (worth : WorthPulse config effort)
    (heading : direction.action = Actuator.directionOf effort)
    (fresh : now - last ≤ config.control.commandStaleTimeoutS)
    {opened : ℚ} (started : self.windowStart = some opened)
    (onPhase : now - opened < |effort| * config.control.windowS) :
    self.Requests config.control now direction where
  fresh := ⟨last, pulsing.update, fresh⟩
  outsideDeadband := pulsing.effort ▸ worth.outsideDeadband
  sign := pulsing.effort ▸ heading
  minOn := by
    rw [pulsing.effort, heading]
    exact worth.minOn
  onPhase := ⟨opened, started, pulsing.effort ▸ onPhase⟩
  compatible := .inr pulsing.action
  unlocked _ since _ resting := by
    rw [pulsing.idleSince] at resting
    cases resting

theorem advanceWindow (pulsing : Pulsing direction effort last self) (windowS now : ℚ) :
    Pulsing direction effort last (self.advanceWindow windowS now) := by
  constructor
  · rw [Actuator.advanceWindow_action, pulsing.action]
  · rw [Actuator.advanceWindow_idleSince, pulsing.idleSince]
  · rw [Actuator.advanceWindow_effort, pulsing.effort]
  · rw [Actuator.advanceWindow_lastEffortUpdate, pulsing.update]

theorem plan (pulsing : Pulsing direction effort last self)
    (worth : WorthPulse config effort)
    (heading : direction.action = Actuator.directionOf effort)
    (fresh : now - last ≤ config.control.commandStaleTimeoutS)
    {opened : ℚ}
    (started : (self.advanceWindow config.control.windowS now).windowStart = some opened)
    {decided : ActuatorPlan} (plans : config.Plans now self decided) :
    decided.requestedAction =
      if now - opened < |effort| * config.control.windowS then direction.action
      else .idle := by
  have advanced := pulsing.advanceWindow config.control.windowS now
  split_ifs with onPhase
  · exact (advanced.requests worth heading fresh started onPhase).granted plans.decides
  · rcases decided.requestedAction.idle_or_direction with idle | ⟨other, requested⟩
    · exact idle
    · rcases (plans.requests requested).onPhase with ⟨start, known, early⟩
      cases started.symm.trans known
      rw [advanced.effort] at early
      exact absurd early onPhase

end Pulsing

theorem Actuator.windowOpen_advanceWindow {windowS : ℚ} (positive : 0 < windowS) (now : ℚ)
    (self : Actuator) : (self.advanceWindow windowS now).WindowOpen windowS now := by
  unfold Actuator.advanceWindow Actuator.WindowOpen
  simp only [fl_eq]
  cases started : self.windowStart with
  | none => exact ⟨now, rfl, by rwa [sub_self]⟩
  | some start =>
      dsimp only
      split_ifs with elapsed
      · have above : now - start < ((⌊(now - start) / windowS⌋ : ℚ) + 1) * windowS :=
          (div_lt_iff₀ positive).mp (Int.lt_floor_add_one _)
        exact ⟨_, rfl, by linarith⟩
      · exact ⟨start, started, not_le.mp elapsed⟩

namespace Covers

variable {effort finish now : ℚ} {self : Actuator}

theorem onPhase (covers : Covers config effort finish self)
    (worth : WorthPulse config effort) (positive : 0 < config.control.windowS)
    (early : now < finish) :
    ∃ opened, (self.advanceWindow config.control.windowS now).windowStart = some opened ∧
      now - opened < |effort| * config.control.windowS := by
  rcases covers with full | ⟨opened, started, covered⟩
  · rcases Actuator.windowOpen_advanceWindow positive now self with ⟨opened, moved, within⟩
    exact ⟨opened, moved, by rwa [full, one_mul]⟩
  · have part : |effort| * config.control.windowS ≤ config.control.windowS :=
      mul_le_of_le_one_left positive.le worth.inRange
    have within : self.WindowOpen config.control.windowS now :=
      ⟨opened, started, by rw [fl_eq]; linarith⟩
    rw [within.advanceWindow]
    exact ⟨opened, started, by linarith⟩

theorem advanceWindow (covers : Covers config effort finish self)
    (positive : 0 < config.control.windowS) (now : ℚ) :
    Covers config effort finish (self.advanceWindow config.control.windowS now) := by
  rcases covers with full | ⟨opened, started, covered⟩
  · exact .inl full
  · unfold Actuator.advanceWindow
    rw [started]
    simp only [fl_eq]
    split_ifs with elapsed
    · have forward : 0 ≤ (⌊(now - opened) / config.control.windowS⌋ : ℚ) := by
        exact_mod_cast Int.floor_nonneg.mpr (div_nonneg (positive.le.trans elapsed) positive.le)
      have moved := mul_nonneg forward positive.le
      exact .inr ⟨_, rfl, by linarith⟩
    · exact .inr ⟨opened, started, covered⟩

end Covers

/-! ## While the effort stays the same -/

namespace Pulsing

variable {direction : Direction} {effort last finish : ℚ} {before after : Actuator}

theorem effortSet (pulsing : Pulsing direction effort last before)
    (worth : WorthPulse config effort) {now : ℚ}
    (fresh : now - last ≤ config.control.commandStaleTimeoutS) :
    Pulsing direction effort now (before.effortSet config.control effort now) ∧
      (before.effortSet config.control effort now).windowStart = before.windowStart := by
  have recent : before.wasStale config.control now = false := by
    unfold Actuator.wasStale
    rw [pulsing.update]
    simpa using fresh
  constructor
  · exact ⟨pulsing.action, pulsing.idleSince, worth.clamp, rfl⟩
  · unfold Actuator.effortSet
    rw [recent]
    rfl

/-- Only a tick at `finish` or later can end a covered pulse. -/
theorem moves (pulsing : Pulsing direction effort last before)
    (covers : Covers config effort finish before) (worth : WorthPulse config effort)
    (heading : direction.action = Actuator.directionOf effort)
    (positive : 0 < config.control.windowS) {call : ActuatorCall}
    {calls : List ActuatorCall} (early : ∀ now, call = .tick now → now < finish)
    (steady : call.IsSteady effort)
    (fresh : StaysFresh config.control.commandStaleTimeoutS (some last) (call :: calls))
    {transition : Option ActuatorTransition}
    (moves : Moves config before call after transition) :
    ∃ last', Pulsing direction effort last' after ∧ Covers config effort finish after ∧
      StaysFresh config.control.commandStaleTimeoutS (some last') calls := by
  cases moves with
  | effortSet value now =>
      cases steady
      rcases pulsing.effortSet worth fresh.1 with ⟨set, window⟩
      refine ⟨now, set, ?_, fresh.2⟩
      rwa [Covers, window]
  | planned now =>
      exact ⟨last, pulsing.advanceWindow _ now, covers.advanceWindow positive now, fresh⟩
  | stayed now =>
      exact ⟨last, pulsing.advanceWindow _ now, covers.advanceWindow positive now, fresh.2⟩
  | switched now decided plans different =>
      rcases covers.onPhase worth positive (early now rfl) with ⟨opened, started, onPhase⟩
      have requested := pulsing.plan worth heading fresh.1 started plans
      rw [if_pos onPhase, ← pulsing.action] at requested
      exact absurd requested different
  | kept now reason => exact steady.elim
  | idled now reason active => exact steady.elim

theorem lasts (quiet : environment.Quiet) (worth : WorthPulse config effort)
    (heading : direction.action = Actuator.directionOf effort)
    (positive : 0 < config.control.windowS) {calls : List ActuatorCall} {world : World}
    (pulsing : Pulsing direction effort last world.actuator)
    (covers : Covers config effort finish world.actuator)
    (early : ∀ now, .tick now ∈ calls → now < finish)
    (steady : ∀ call ∈ calls, call.IsSteady effort)
    (fresh : StaysFresh config.control.commandStaleTimeoutS (some last) calls) :
    (runCalls config environment world calls).actuator.action = direction.action := by
  induction calls generalizing last world with
  | nil => exact pulsing.action
  | cons call calls induction =>
      have moved := pulsing.moves covers worth heading positive
        (fun now same => early now (same ▸ List.mem_cons_self))
        (steady call List.mem_cons_self) fresh (performed_moves config quiet world call)
      rcases moved with ⟨last', pulsing', covers', fresh'⟩
      exact induction pulsing' covers'
        (fun now among => early now (List.mem_cons_of_mem call among))
        (fun other among => steady other (List.mem_cons_of_mem call among)) fresh'

end Pulsing

/-! ## A tick when the pulse ends -/

namespace ActuatorCall

/-- The effort is set again just before it goes stale. -/
def keepAlive (effort timeout : ℚ) : ℕ → ℚ → List ActuatorCall
  | 0, _ => []
  | count + 1, last =>
      .setEffort effort (last + timeout) :: keepAlive effort timeout count (last + timeout)

theorem keepAlive_steady (effort timeout : ℚ) (count : ℕ) (last : ℚ) :
    ∀ call ∈ keepAlive effort timeout count last, call.IsSteady effort := by
  induction count generalizing last with
  | zero => simp [keepAlive]
  | succ count induction =>
      intro call among
      rcases List.mem_cons.mp among with rfl | among
      · exact rfl
      · exact induction _ call among

theorem keepAlive_fresh (effort timeout : ℚ) {count : ℕ} {last now : ℚ}
    (soon : now ≤ last + timeout * (count + 1)) :
    StaysFresh timeout (some last) (keepAlive effort timeout count last ++ [.tick now]) := by
  induction count generalizing last with
  | zero =>
      refine ⟨?_, trivial⟩
      simp only [Nat.cast_zero, zero_add, mul_one] at soon
      linarith
  | succ count induction =>
      refine ⟨by linarith, induction ?_⟩
      push_cast at soon
      linarith

theorem keepAlive_nondecreasing (effort : ℚ) {timeout : ℚ} (nonneg : 0 ≤ timeout)
    {count : ℕ} {last now : ℚ} (past : last + timeout * count ≤ now) :
    Nondecreasing last (keepAlive effort timeout count last ++ [.tick now]) := by
  induction count generalizing last with
  | zero =>
      rw [Nat.cast_zero, mul_zero, add_zero] at past
      exact ⟨past, trivial⟩
  | succ count induction =>
      have before : last ≤ last + timeout := by linarith
      have rest : last + timeout + timeout * count ≤ now := by
        push_cast at past
        linarith
      exact ⟨before, induction rest⟩

end ActuatorCall

theorem Pulsing.keptAlive (quiet : environment.Quiet) {direction : Direction}
    {effort : ℚ} (worth : WorthPulse config effort) (count : ℕ) {last : ℚ} {world : World}
    (pulsing : Pulsing direction effort last world.actuator) :
    let after := runCalls config environment world
      (ActuatorCall.keepAlive effort config.control.commandStaleTimeoutS count last)
    Pulsing direction effort (last + config.control.commandStaleTimeoutS * count)
        after.actuator ∧
      after.actuator.windowStart = world.actuator.windowStart := by
  induction count generalizing last world with
  | zero =>
      rw [Nat.cast_zero, mul_zero, add_zero]
      exact ⟨pulsing, rfl⟩
  | succ count induction =>
      have set := performed_setEffort config quiet world effort
        (last + config.control.commandStaleTimeoutS)
      rcases pulsing.effortSet worth (by rw [add_sub_cancel_left]) with ⟨pulsing', window⟩
      rw [← set] at pulsing' window
      rcases induction pulsing' with ⟨later, laterWindow⟩
      constructor
      · rw [Nat.cast_succ, mul_add, mul_one, ← add_assoc, add_right_comm]
        exact later
      · exact laterWindow.trans window

theorem followed_of_prompt (prompt : environment.Prompt) {world : World} {now : ℚ}
    {decided : ActuatorPlan} (plans : config.Plans now world.actuator decided) :
    (performed config environment world (.tick now)).actuator =
      (world.actuator.advanceWindow config.control.windowS now).followed
        decided.requestedAction now := by
  have result := performed_result config prompt.tame world (.tick now)
  have advanced := Actuator.advanceWindow_action config.control.windowS now world.actuator
  generalize performed config environment world (.tick now) = after at result ⊢
  cases result with
  | unchanged _ other otherPlans same =>
      cases plans.unique otherPlans
      rw [Actuator.followed, advanced, if_pos same]
      rfl
  | refused _ other _ otherPlans different switching =>
      cases switch_succeeds prompt.tame prompt.commands switching
  | switched _ other after points otherPlans different switching =>
      cases plans.unique otherPlans
      rw [Actuator.followed, advanced, if_neg different]
      exact congrArg (Actuator.settled decided.requestedAction now)
        (switch_commanded prompt.tame switching).actuator

theorem Pulsing.ends (prompt : environment.Prompt) {direction : Direction}
    {effort last opened : ℚ} {world : World}
    (pulsing : Pulsing direction effort last world.actuator)
    (worth : WorthPulse config effort)
    (heading : direction.action = Actuator.directionOf effort)
    (started : world.actuator.windowStart = some opened)
    (part : |effort| * config.control.windowS < config.control.windowS)
    (fresh : opened + |effort| * config.control.windowS - last ≤
      config.control.commandStaleTimeoutS) :
    (performed config environment world
      (.tick (opened + |effort| * config.control.windowS))).actuator.action = .idle := by
  rcases world.actuator.plan_advanceWindow config.control
    (opened + |effort| * config.control.windowS) with ⟨decided, plans⟩
  have within : world.actuator.WindowOpen config.control.windowS
      (opened + |effort| * config.control.windowS) :=
    ⟨opened, started, by rwa [add_sub_cancel_left]⟩
  have requested := pulsing.plan worth heading fresh
    (by rw [within.advanceWindow, started]) plans
  rw [followed_of_prompt prompt plans, Actuator.followed_action, requested,
    add_sub_cancel_left, if_neg (lt_irrefl _)]

/-- Some continuation reaches the end of the pulse in time to end it there. -/
theorem Pulsing.cutShort (prompt : environment.Prompt) {direction : Direction}
    {effort last opened start : ℚ} {world : World}
    (pulsing : Pulsing direction effort last world.actuator)
    (worth : WorthPulse config effort)
    (heading : direction.action = Actuator.directionOf effort)
    (timeout : 0 < config.control.commandStaleTimeoutS)
    (fresh : start - last ≤ config.control.commandStaleTimeoutS)
    (started : world.actuator.windowStart = some opened)
    (part : |effort| * config.control.windowS < config.control.windowS)
    (later : start ≤ opened + |effort| * config.control.windowS) :
    ∃ done, Nondecreasing start
        (done ++ [.tick (opened + |effort| * config.control.windowS)]) ∧
      (∀ call ∈ done, call.IsSteady effort) ∧
      StaysFresh config.control.commandStaleTimeoutS (some last)
        (done ++ [.tick (opened + |effort| * config.control.windowS)]) ∧
      (runCalls config environment world
        (done ++ [.tick (opened + |effort| * config.control.windowS)])).actuator.action =
          .idle := by
  have positive : 0 ≤ (opened + |effort| * config.control.windowS - start) /
      config.control.commandStaleTimeoutS :=
    div_nonneg (sub_nonneg.mpr later) timeout.le
  let count := ⌊(opened + |effort| * config.control.windowS - start) /
    config.control.commandStaleTimeoutS⌋₊
  have below : start + config.control.commandStaleTimeoutS * count ≤
      opened + |effort| * config.control.windowS := by
    have floor := (le_div_iff₀ timeout).mp (Nat.floor_le positive)
    linarith
  have above : opened + |effort| * config.control.windowS ≤
      start + config.control.commandStaleTimeoutS * (count + 1) := by
    have ceiling := (div_lt_iff₀ timeout).mp (Nat.lt_floor_add_one
      ((opened + |effort| * config.control.windowS - start) /
        config.control.commandStaleTimeoutS))
    linarith
  rcases pulsing.effortSet worth fresh with ⟨set, window⟩
  rw [← performed_setEffort config prompt.tame.quiet] at set window
  rcases set.keptAlive prompt.tame.quiet worth count with ⟨alive, aliveWindow⟩
  refine ⟨.setEffort effort start ::
    keepAlive effort config.control.commandStaleTimeoutS count start, ?_, ?_, ?_, ?_⟩
  · exact ⟨le_refl start, keepAlive_nondecreasing effort timeout.le below⟩
  · intro call among
    rcases List.mem_cons.mp among with rfl | among
    · exact rfl
    · exact keepAlive_steady effort _ count start call among
  · exact ⟨fresh, keepAlive_fresh effort _ above⟩
  · rw [List.cons_append, runCalls_cons, runCalls_append, runCalls_cons, runCalls_nil]
    apply alive.ends prompt worth heading ((aliveWindow.trans window).trans started) part
    linarith

/-! ## The switch -/

theorem ActuatorCall.Nondecreasing.upTo {start : ℚ} {done rest : List ActuatorCall}
    {call : ActuatorCall} (nondecreasing : Nondecreasing start (done ++ call :: rest)) :
    ∀ other ∈ done ++ [call], other.now ≤ call.now := by
  induction done generalizing start with
  | nil =>
      intro other among
      rw [List.nil_append, List.mem_singleton] at among
      rw [among]
  | cons first done induction =>
      intro other among
      rcases List.mem_cons.mp among with rfl | among
      · exact nondecreasing.2.le (by simp)
      · exact induction nondecreasing.2 other among

/-- A tick switches to a direction at `now`, in the window that began at `opened`. -/
structure SwitchesOn (config : Config) (environment : Environment) (world : World)
    (direction : Direction) (now opened : ℚ) : Prop where
  different : world.actuator.action ≠ direction.action
  switched : (performed config environment world (.tick now)).actuator.action =
    direction.action
  started : (world.actuator.advanceWindow config.control.windowS now).windowStart =
    some opened

/-- What is left of the window's pulse is long enough, or there is nothing else. -/
def EnoughLeft (config : Config) (self : Actuator) (direction : Direction)
    (now opened : ℚ) : Prop :=
  |self.effort| = 1 ∨ now + config.control.minOnS direction.action ≤
    opened + |self.effort| * config.control.windowS

instance (config : Config) (self : Actuator) (direction : Direction) (now opened : ℚ) :
    Decidable (EnoughLeft config self direction now opened) :=
  inferInstanceAs (Decidable (_ ∨ _))

namespace SwitchesOn

variable {world : World} {direction : Direction} {now opened : ℚ}

theorem requests (switches : SwitchesOn config environment world direction now opened)
    (prompt : environment.Prompt) :
    (world.actuator.advanceWindow config.control.windowS now).Requests config.control now
        direction ∧
      (performed config environment world (.tick now)).actuator =
        (world.actuator.advanceWindow config.control.windowS now).followed
          direction.action now := by
  rcases world.actuator.plan_advanceWindow config.control now with ⟨decided, plans⟩
  have carried := followed_of_prompt prompt plans
  have switched := switches.switched
  rw [carried, Actuator.followed_action] at switched
  rw [switched] at carried
  exact ⟨Config.Plans.requests plans switched, carried⟩

theorem pulsing (switches : SwitchesOn config environment world direction now opened)
    (prompt : environment.Prompt) (unrested : world.actuator.Unrested) :
    ∃ last, Pulsing direction world.actuator.effort last
        (performed config environment world (.tick now)).actuator ∧
      now - last ≤ config.control.commandStaleTimeoutS := by
  rcases switches.requests prompt with ⟨requests, carried⟩
  rcases requests.fresh with ⟨last, updated, recent⟩
  refine ⟨last, ⟨switches.switched, ?_, ?_, ?_⟩, recent⟩
  · have after := unrested.moves
      (performed_moves config prompt.quiet world (.tick now))
    apply after
    rw [switches.switched]
    exact direction.action_ne_idle
  · rw [carried, Actuator.followed_effort, Actuator.advanceWindow_effort]
  · rw [carried, Actuator.followed_lastEffortUpdate, updated]

theorem worthPulse (switches : SwitchesOn config environment world direction now opened)
    (prompt : environment.Prompt) (inRange : |world.actuator.effort| ≤ 1) :
    WorthPulse config world.actuator.effort ∧
      direction.action = Actuator.directionOf world.actuator.effort := by
  have requests := (switches.requests prompt).1
  have outside := requests.outsideDeadband
  have sign := requests.sign
  have enough := requests.minOn
  rw [Actuator.advanceWindow_effort] at outside sign enough
  have heading : direction.action = Actuator.directionOf world.actuator.effort := sign
  rw [heading] at enough
  exact ⟨⟨inRange, outside, enough⟩, heading⟩

theorem window (switches : SwitchesOn config environment world direction now opened)
    (prompt : environment.Prompt) :
    (performed config environment world (.tick now)).actuator.windowStart = some opened := by
  rw [(switches.requests prompt).2, Actuator.followed_windowStart, switches.started]

/-- Where too little of the window is left, its end can cut the pulse short. -/
theorem cutShort (switches : SwitchesOn config environment world direction now opened)
    (valid : config.Valid) (prompt : environment.Prompt)
    (unrested : world.actuator.Unrested) (inRange : |world.actuator.effort| ≤ 1)
    (short : ¬EnoughLeft config world.actuator direction now opened) :
    let after := performed config environment world (.tick now)
    ∃ done instant, Nondecreasing now (done ++ [.tick instant]) ∧
      (∀ call ∈ done ++ [.tick instant], call.IsSteady world.actuator.effort) ∧
      StaysFresh config.control.commandStaleTimeoutS after.actuator.lastEffortUpdate
        (done ++ [.tick instant]) ∧
      instant < now + config.control.minOnS direction.action ∧
      (runCalls config environment after (done ++ [.tick instant])).actuator.action =
        .idle := by
  intro after
  rcases switches.pulsing prompt unrested with ⟨last, pulsing, recent⟩
  rcases switches.worthPulse prompt inRange with ⟨worth, heading⟩
  have timeout := valid.periodS_pos.trans_le valid.control.periodS_le
  rw [EnoughLeft, not_or, not_le] at short
  have part : |world.actuator.effort| * config.control.windowS < config.control.windowS :=
    mul_lt_of_lt_one_left valid.control.windowS_pos (lt_of_le_of_ne inRange short.1)
  have begun : now ≤ opened + |world.actuator.effort| * config.control.windowS := by
    rcases (switches.requests prompt).1.onPhase with ⟨other, known, onPhase⟩
    cases switches.started.symm.trans known
    rw [Actuator.advanceWindow_effort, fl_eq, fl_eq] at onPhase
    linarith
  rcases pulsing.cutShort prompt worth heading timeout recent (switches.window prompt) part
    begun with ⟨done, nondecreasing, steady, fresh, idle⟩
  have steadyToEnd : ∀ call ∈ done ++
      [.tick (opened + |world.actuator.effort| * config.control.windowS)],
      call.IsSteady world.actuator.effort := by
    intro call among
    rcases List.mem_append.mp among with among | among
    · exact steady call among
    · rw [List.mem_singleton.mp among]
      trivial
  change Pulsing direction _ last after.actuator at pulsing
  rw [pulsing.update]
  exact ⟨done, _, nondecreasing, steadyToEnd, fresh, short.2, idle⟩

/-- The pulse lasts for the minimum on-time, whatever follows, if and only if enough of
the window is left. -/
theorem lasts_iff (switches : SwitchesOn config environment world direction now opened)
    (valid : config.Valid) (prompt : environment.Prompt)
    (unrested : world.actuator.Unrested) (inRange : |world.actuator.effort| ≤ 1) :
    let after := performed config environment world (.tick now)
    (∀ later, Nondecreasing now later →
      (∀ call ∈ later, call.IsSteady after.actuator.effort) →
      StaysFresh config.control.commandStaleTimeoutS after.actuator.lastEffortUpdate later →
      ∀ done instant rest, later = done ++ .tick instant :: rest →
        instant < now + config.control.minOnS direction.action →
        (runCalls config environment after (done ++ [.tick instant])).actuator.action =
          direction.action) ↔
      EnoughLeft config world.actuator direction now opened := by
  intro after
  rcases switches.pulsing prompt unrested with ⟨last, pulsing, recent⟩
  rcases switches.worthPulse prompt inRange with ⟨worth, heading⟩
  change Pulsing direction _ last after.actuator at pulsing
  rw [pulsing.effort]
  constructor
  · intro lasts
    by_contra short
    rcases switches.cutShort valid prompt unrested inRange short with
        ⟨done, instant, nondecreasing, steady, fresh, early, idle⟩
    have active := lasts _ nondecreasing steady fresh done instant [] rfl early
    rw [idle] at active
    exact direction.action_ne_idle active.symm
  · intro enough later nondecreasing steady fresh done instant rest split early
    have covers : Covers config world.actuator.effort
        (now + config.control.minOnS direction.action) after.actuator :=
      enough.imp_right fun covered => ⟨opened, switches.window prompt, covered⟩
    have upTo : later = (done ++ [.tick instant]) ++ rest := by
      rw [split, List.append_assoc, List.singleton_append]
    rw [pulsing.update] at fresh
    rw [split] at nondecreasing
    rw [upTo] at steady fresh
    apply pulsing.lasts prompt.quiet worth heading valid.control.windowS_pos covers
    · intro other among
      exact (nondecreasing.upTo _ among).trans_lt early
    · exact fun call among => steady call (List.mem_append_left rest among)
    · exact fresh.left

end SwitchesOn

theorem Remembers.inRange {history : List ActuatorCall} {actuator : Actuator}
    (remembers : Remembers history actuator)
    (set : actuator.lastEffortUpdate ≠ none) : |actuator.effort| ≤ 1 := by
  rw [remembers.update] at set
  cases known : lastCommand history with
  | none => simp [known] at set
  | some command =>
      rw [remembers.effort command.1 command.2 known]
      exact abs_le.mpr ⟨le_max_left _ _, max_le (by norm_num) (min_le_left _ _)⟩

/-- A pulse that a tick starts lasts for the minimum on-time, as long as its effort stays
in force, if and only if enough of its window is left. -/
theorem pulse_lasts_min_on_iff (accepted : config.Accepted) (prompt : environment.Prompt)
    {start : ℚ} {plugs : Int → Bool} {ready : World}
    (initialized : InitializedAt config environment start plugs ready)
    (before : List ActuatorCall) (now : ℚ) {direction : Direction} {opened : ℚ}
    (switches : SwitchesOn config environment (runCalls config environment ready before)
      direction now opened) :
    let after := runCalls config environment ready (before ++ [.tick now])
    (∀ later, Nondecreasing now later →
      (∀ call ∈ later, call.IsSteady after.actuator.effort) →
      StaysFresh config.control.commandStaleTimeoutS after.actuator.lastEffortUpdate later →
      ∀ done instant rest, later = done ++ .tick instant :: rest →
        instant < now + config.control.minOnS direction.action →
        (runCalls config environment after (done ++ [.tick instant])).actuator.action =
          direction.action) ↔
      EnoughLeft config (runCalls config environment ready before).actuator direction now
        opened := by
  intro after
  have split : after = performed config environment
      (runCalls config environment ready before) (.tick now) := by
    change runCalls config environment ready (before ++ [.tick now]) = _
    rw [runCalls_append, runCalls_cons, runCalls_nil]
  have unrested := unrested_runCalls prompt.quiet ⟨start, plugs, .inr initialized⟩ before
  have inRange : |(runCalls config environment ready before).actuator.effort| ≤ 1 := by
    have remembers := initialized.remembers prompt.quiet
    apply (remembers_runCalls config prompt.quiet before remembers).inRange
    rcases (switches.requests prompt).1.fresh with ⟨last, updated, _⟩
    rw [Actuator.advanceWindow_lastEffortUpdate] at updated
    rw [updated]
    exact Option.some_ne_none last
  rw [split]
  exact switches.lasts_iff accepted.valid prompt unrested inRange

theorem pulse_lasts_min_on_iff_heating :
    EnoughLeft Config.shipped (runCalls Config.shipped .obedient
      (readyAt Config.shipped .obedient 0 fun _ => true) [.setEffort (1 / 2) 0]).actuator
      .heat 0 0 ∧
    ∀ later, Nondecreasing 0 later → (∀ call ∈ later, call.IsSteady (1 / 2)) →
      StaysFresh 180 (some 0) later →
      ∀ done instant rest, later = done ++ .tick instant :: rest → instant < 0 + 600 →
        (runCalls Config.shipped .obedient (runCalls Config.shipped .obedient
          (readyAt Config.shipped .obedient 0 fun _ => true)
          ([.setEffort (1 / 2) 0] ++ [.tick 0])) (done ++ [.tick instant])).actuator.action =
            .heat := by
  have initialized : InitializedAt Config.shipped .obedient 0 (fun _ => true)
      (readyAt Config.shipped .obedient 0 fun _ => true) := ⟨_, rfl⟩
  have switches : SwitchesOn Config.shipped .obedient (runCalls Config.shipped .obedient
      (readyAt Config.shipped .obedient 0 fun _ => true) [.setEffort (1 / 2) 0]) .heat 0 0 :=
    ⟨by decide +kernel, by decide +kernel, by decide +kernel⟩
  have effort : (runCalls Config.shipped .obedient
      (readyAt Config.shipped .obedient 0 fun _ => true)
      ([.setEffort (1 / 2) 0] ++ [.tick 0])).actuator.effort = 1 / 2 := by decide +kernel
  have update : (runCalls Config.shipped .obedient
      (readyAt Config.shipped .obedient 0 fun _ => true)
      ([.setEffort (1 / 2) 0] ++ [.tick 0])).actuator.lastEffortUpdate = some 0 := by
    decide +kernel
  have enough : EnoughLeft Config.shipped (runCalls Config.shipped .obedient
      (readyAt Config.shipped .obedient 0 fun _ => true) [.setEffort (1 / 2) 0]).actuator
      .heat 0 0 := by decide +kernel
  have lasts := (pulse_lasts_min_on_iff Config.shipped_accepted Environment.obedient_prompt
    initialized [.setEffort (1 / 2) 0] 0 switches).mpr enough
  rw [effort, update] at lasts
  exact ⟨enough, lasts⟩

/-- The effort rises ten minutes into a window of thirty. Its pulse of fifteen minutes ends
five minutes later, although the minimum is ten. -/
theorem pulse_shorter_than_min_on :
    ¬∀ (config : Config) (environment : Environment) (start : ℚ) (plugs : Int → Bool)
      (ready : World) (before : List ActuatorCall) (now : ℚ) (direction : Direction)
      (opened : ℚ) (later done : List ActuatorCall) (instant : ℚ)
      (rest : List ActuatorCall),
      config.Accepted → environment.Prompt →
      InitializedAt config environment start plugs ready →
      Nondecreasing start (before ++ [.tick now]) →
      SwitchesOn config environment (runCalls config environment ready before) direction now
        opened →
      Nondecreasing now later →
      (∀ call ∈ later, call.IsSteady (runCalls config environment ready
        (before ++ [.tick now])).actuator.effort) →
      StaysFresh config.control.commandStaleTimeoutS (runCalls config environment ready
        (before ++ [.tick now])).actuator.lastEffortUpdate later →
      later = done ++ .tick instant :: rest →
      instant < now + config.control.minOnS direction.action →
      (runCalls config environment (runCalls config environment ready
        (before ++ [.tick now])) (done ++ [.tick instant])).actuator.action =
          direction.action := by
  intro claimed
  have initialized : InitializedAt Config.shipped .obedient 0 (fun _ => true)
      (readyAt Config.shipped .obedient 0 fun _ => true) := ⟨_, rfl⟩
  have active := claimed Config.shipped .obedient 0 (fun _ => true)
    (readyAt Config.shipped .obedient 0 fun _ => true)
    [.setEffort (1 / 5) 0, .setEffort (1 / 5) 150, .setEffort (1 / 5) 300,
      .setEffort (1 / 5) 450, .setEffort (1 / 2) 600] 600 .heat 0
    [.setEffort (1 / 2) 750, .setEffort (1 / 2) 900, .tick 900]
    [.setEffort (1 / 2) 750, .setEffort (1 / 2) 900] 900 []
    Config.shipped_accepted Environment.obedient_prompt initialized (by decide +kernel)
    ⟨by decide +kernel, by decide +kernel, by decide +kernel⟩ (by decide +kernel)
    (by decide +kernel) (by decide +kernel) rfl (by decide +kernel)
  exact absurd active (by decide +kernel)

end BuranBrew.Host

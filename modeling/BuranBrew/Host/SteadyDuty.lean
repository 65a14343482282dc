import BuranBrew.Host.Recovery

/-! # The duty of a steady effort

With one effort that never goes stale, every window begins with the pulse that
the effort asks for, up to the spacing of the ticks.
-/

namespace BuranBrew.Host

open Exact Signal ActuatorCall Actuator

variable {config : Config} {environment : Environment}

/-! ## Steady runs -/

namespace ActuatorCall

/-- Only `force_idle` and other efforts disturb a steady run. -/
def IsSteady (effort : ℚ) : ActuatorCall → Prop
  | .setEffort value _ => value = effort
  | .forceIdle _ _ => False
  | _ => True

instance decidableIsSteady (effort : ℚ) :
    (call : ActuatorCall) → Decidable (call.IsSteady effort)
  | .setEffort value _ => inferInstanceAs (Decidable (value = effort))
  | .plan _ | .tick _ => isTrue trivial
  | .forceIdle _ _ => isFalse id

def firstSetEffort : List ActuatorCall → Option ℚ
  | [] => none
  | .setEffort _ now :: _ => some now
  | _ :: calls => firstSetEffort calls

/-- Neither a tick nor a call of `set_effort` finds the effort stale, which was
last set at `last`. -/
def StaysFresh (timeout : ℚ) : Option ℚ → List ActuatorCall → Prop
  | _, [] => True
  | none, .setEffort _ now :: calls => StaysFresh timeout (some now) calls
  | some last, .setEffort _ now :: calls =>
      now - last ≤ timeout ∧ StaysFresh timeout (some now) calls
  | some last, .tick now :: calls =>
      now - last ≤ timeout ∧ StaysFresh timeout (some last) calls
  | last, _ :: calls => StaysFresh timeout last calls

instance decidableStaysFresh (timeout : ℚ) :
    (last : Option ℚ) → (calls : List ActuatorCall) →
      Decidable (StaysFresh timeout last calls)
  | none, [] | some _, [] => isTrue trivial
  | none, .setEffort _ now :: calls => decidableStaysFresh timeout (some now) calls
  | some last, .setEffort _ now :: calls =>
      have := decidableStaysFresh timeout (some now) calls
      inferInstanceAs (Decidable (now - last ≤ timeout ∧ StaysFresh timeout (some now) calls))
  | some last, .tick now :: calls =>
      have := decidableStaysFresh timeout (some last) calls
      inferInstanceAs (Decidable (now - last ≤ timeout ∧ StaysFresh timeout (some last) calls))
  | none, .tick _ :: calls => decidableStaysFresh timeout none calls
  | none, .plan _ :: calls => decidableStaysFresh timeout none calls
  | some last, .plan _ :: calls => decidableStaysFresh timeout (some last) calls
  | none, .forceIdle _ _ :: calls => decidableStaysFresh timeout none calls
  | some last, .forceIdle _ _ :: calls => decidableStaysFresh timeout (some last) calls

theorem StaysFresh.left {timeout : ℚ} {last : Option ℚ} {before after : List ActuatorCall}
    (fresh : StaysFresh timeout last (before ++ after)) : StaysFresh timeout last before := by
  induction before generalizing last with
  | nil => cases last <;> trivial
  | cons call before induction =>
      cases call <;> cases last <;>
        first | exact induction fresh | exact ⟨fresh.1, induction fresh.2⟩

theorem firstSetEffort_mem {calls : List ActuatorCall} {first : ℚ}
    (known : firstSetEffort calls = some first) : ∃ call ∈ calls, call.now = first := by
  induction calls with
  | nil => cases known
  | cons call calls induction =>
      have later (known : firstSetEffort calls = some first) :
          ∃ other ∈ call :: calls, other.now = first := by
        rcases induction known with ⟨other, among, same⟩
        exact ⟨other, by simp [among], same⟩
      cases call with
      | setEffort value now =>
          cases known
          exact ⟨_, List.mem_cons_self, rfl⟩
      | plan now => exact later known
      | tick now => exact later known
      | forceIdle now reason => exact later known

theorem firstSetEffort_left {before after : List ActuatorCall} {first finish : ℚ}
    (known : firstSetEffort (before ++ after) = some first) (early : first < finish)
    (late : ∀ call ∈ after, finish ≤ call.now) : firstSetEffort before = some first := by
  induction before with
  | nil =>
      rcases firstSetEffort_mem known with ⟨call, among, same⟩
      have := late call among
      linarith
  | cons call before induction =>
      cases call <;> first | exact known | exact induction known

theorem Attended.finish_le {gap finish due : ℚ} {calls : List ActuatorCall}
    (attended : Attended gap finish due calls) (negative : gap ≤ 0) : finish ≤ due := by
  induction calls generalizing due with
  | nil => exact attended
  | cons call calls induction =>
      cases call with
      | tick now =>
          have := induction attended.2
          have := attended.1
          linarith
      | setEffort value now => exact induction attended
      | plan now => exact induction attended
      | forceIdle now reason => exact induction attended

end ActuatorCall

/-! ## Decisions on a steady effort -/

structure WorthPulse (config : Config) (effort : ℚ) : Prop where
  inRange : |effort| ≤ 1
  outsideDeadband : config.control.effortDeadband < |effort|
  minOn : config.control.minOnS (directionOf effort) ≤ |effort| * config.control.windowS

theorem WorthPulse.clamp {effort : ℚ} (worth : WorthPulse config effort) :
    max (-1) (min 1 effort) = effort := by
  rcases abs_le.mp worth.inRange with ⟨low, high⟩
  rw [min_eq_right high, max_eq_right low]

/-- The actuator has never turned in any other direction. -/
def NeverOpposed (effort : ℚ) (self : Actuator) : Prop :=
  (self.action = .idle ∨ self.action = directionOf effort) ∧
    ∀ last, self.lastActiveDirection = some last → last = directionOf effort

theorem NeverOpposed.unlocked {effort now : ℚ} {self : Actuator}
    (never : NeverOpposed effort self) (tuning : ControlTuning) :
    self.reverseLocked tuning now (directionOf effort) = false := by
  unfold reverseLocked
  have compatible : ¬(self.action.isActive = true ∧ directionOf effort ≠ self.action) := by
    rintro ⟨active, differs⟩
    rcases never.1 with idle | same
    · rw [idle] at active
      cases active
    · exact differs same.symm
  rw [if_neg compatible]
  split
  · next last since known _ =>
      simp [never.2 last known]
  · rfl

theorem steady_plan {effort now last opened : ℚ} {self : Actuator} {decided : ActuatorPlan}
    (worth : WorthPulse config effort) (plans : config.Plans now self decided)
    (sameEffort : self.effort = effort) (update : self.lastEffortUpdate = some last)
    (fresh : now - last ≤ config.control.commandStaleTimeoutS)
    (started : (self.advanceWindow config.control.windowS now).windowStart = some opened)
    (never : NeverOpposed effort self) :
    decided.requestedAction =
      if now - opened < |effort| * config.control.windowS then directionOf effort
      else .idle := by
  have decides := plans.decides
  have neverAdvanced : NeverOpposed effort
      (self.advanceWindow config.control.windowS now) := by
    simpa [NeverOpposed] using never
  rw [← advanceWindow_effort config.control.windowS now] at sameEffort
  rw [← advanceWindow_lastEffortUpdate config.control.windowS now] at update
  generalize self.advanceWindow config.control.windowS now = advanced at *
  subst sameEffort
  cases decides with
  | noCommand unset =>
      rw [update] at unset
      cases unset
  | staleCommand other same late =>
      cases update.symm.trans same
      exact absurd late (not_lt.mpr fresh)
  | deadband _ _ _ small => exact absurd small (not_le.mpr worth.outsideDeadband)
  | belowMinPulse _ _ _ short => exact absurd short (not_lt.mpr worth.minOn)
  | dutyOff start asks known ended =>
      cases started.symm.trans known
      rw [fl_eq, fl_eq] at ended
      rw [if_neg (not_lt.mpr ended)]
  | reverseLockout start asks known onPhase locked =>
      have unlocked : advanced.reverseLocked config.control now advanced.direction = false :=
        neverAdvanced.unlocked config.control
      exact absurd (unlocked.symm.trans locked) Bool.false_ne_true
  | dutyOn start asks known onPhase free =>
      cases started.symm.trans known
      rw [fl_eq, fl_eq] at onPhase
      rw [if_pos onPhase]
      rfl

/-! ## One window -/

/-- The changes to IDLE from one instant to before another. -/
def changesToIdle (start finish : ℚ) (changes : List (ℚ × Action)) : ℕ :=
  (changes.filter fun change =>
    decide (start ≤ change.1 ∧ change.1 < finish ∧ change.2 = .idle)).length

theorem changesToIdle_of_past {start finish : ℚ} {changes : List (ℚ × Action)}
    (past : ∀ change ∈ changes, change.1 < start) : changesToIdle start finish changes = 0 := by
  unfold changesToIdle
  rw [List.length_eq_zero_iff, List.filter_eq_nil_iff]
  intro change among
  have := past change among
  simp [not_le.mpr this]

theorem changesToIdle_cons (start finish time : ℚ) (action : Action)
    (changes : List (ℚ × Action)) :
    changesToIdle start finish ((time, action) :: changes) =
      changesToIdle start finish changes +
        if start ≤ time ∧ time < finish ∧ action = .idle then 1 else 0 := by
  unfold changesToIdle
  rw [List.filter_cons]
  by_cases counted : start ≤ time ∧ time < finish ∧ action = .idle
  · simp [counted]
  · simp [counted]

theorem changesToIdle_append_of_le {start finish : ℚ} {added changes : List (ℚ × Action)}
    (late : ∀ change ∈ added, finish ≤ change.1) :
    changesToIdle start finish (added ++ changes) = changesToIdle start finish changes := by
  unfold changesToIdle
  have none : (added.filter fun change =>
      decide (start ≤ change.1 ∧ change.1 < finish ∧ change.2 = .idle)) = [] := by
    rw [List.filter_eq_nil_iff]
    intro change among
    have := late change among
    simp [not_lt.mpr this]
  rw [List.filter_append, none, List.nil_append]

section Invariant

variable (config) (effort gap start finish : ℚ)

/-- What holds in the window from `start` to `finish` when the next tick is due
at `due`. -/
structure InWindow (due : ℚ) (ideal : Ideal) : Prop where
  active : ideal.actuator.action ≠ .idle →
    due < start + |effort| * config.control.windowS + gap
  idle : ideal.actuator.action = .idle →
    due ≤ start + gap ∨ start + |effort| * config.control.windowS ≤ ideal.now
  least : min (ideal.now - start) (|effort| * config.control.windowS) - gap ≤
    timeSpent Action.isActive .idle start ideal.now ideal.changes
  most : timeSpent Action.isActive .idle start ideal.now ideal.changes ≤
    |effort| * config.control.windowS + gap
  once : changesToIdle start finish ideal.changes = 0 ∨
    changesToIdle start finish ideal.changes = 1 ∧ ideal.actuator.action = .idle ∧
      start + |effort| * config.control.windowS ≤ ideal.now

structure Untouched (ideal : Ideal) : Prop where
  update : ideal.actuator.lastEffortUpdate = none
  changes : ideal.changes = []
  action : ideal.actuator.action = .idle
  direction : ideal.actuator.lastActiveDirection = none

structure Driven (first due : ℚ) (ideal : Ideal) : Prop where
  set : ideal.actuator.effort = effort
  update : ∃ last, ideal.actuator.lastEffortUpdate = some last
  window : ∃ windows : ℕ, ideal.actuator.windowStart =
      some (first + windows * config.control.windowS) ∧
    first + windows * config.control.windowS ≤ ideal.now
  never : NeverOpposed effort ideal.actuator
  changes : ∀ change ∈ ideal.changes, change.2 = .idle ∨ change.2 = directionOf effort
  inWindow : start ≤ ideal.now → InWindow config effort gap start finish due ideal

structure SteadyRun (first due : ℚ) (ideal : Ideal) (calls : List ActuatorCall) : Prop where
  steady : ∀ call ∈ calls, call.IsSteady effort
  fresh : StaysFresh config.control.commandStaleTimeoutS ideal.actuator.lastEffortUpdate calls
  coherent : ideal.Coherent
  soon : due ≤ max ideal.now start + gap
  phase : Untouched ideal ∧ firstSetEffort calls = some first ∨
    Driven config effort gap start finish first due ideal

end Invariant

namespace InWindow

variable {effort gap start finish due : ℚ} {ideal : Ideal}

theorem wait (inWindow : InWindow config effort gap start finish due ideal)
    (coherent : ideal.Coherent) (started : start ≤ ideal.now) {now : ℚ}
    (later : ideal.now ≤ now) (inTime : now ≤ due) :
    InWindow config effort gap start finish due (ideal.wait now) := by
  have spent := coherent.activeTime_wait started later
  have nonneg : 0 ≤ timeSpent Action.isActive .idle start ideal.now ideal.changes :=
    timeSpent_nonneg
  have atMost : timeSpent Action.isActive .idle start ideal.now ideal.changes ≤
      ideal.now - start := timeSpent_le_span.trans (span_of_le started).le
  have least := inWindow.least
  have most := inWindow.most
  by_cases idle : ideal.actuator.action = .idle
  · have still : ideal.actuator.action.isActive = false := by rw [idle]; rfl
    rw [still, if_neg Bool.false_ne_true, add_zero] at spent
    refine ⟨inWindow.active, fun _ => ?_, ?_, ?_, ?_⟩
    · rcases inWindow.idle idle with soon | ended
      · exact .inl soon
      · exact .inr (ended.trans later)
    · rw [Ideal.wait_changes, Ideal.wait_now, spent]
      rcases inWindow.idle idle with soon | ended
      · have := min_le_left (now - start) (|effort| * config.control.windowS)
        linarith
      · have := min_le_right (now - start) (|effort| * config.control.windowS)
        rw [min_eq_right (by linarith)] at least
        linarith
    · rw [Ideal.wait_changes, Ideal.wait_now, spent]
      exact most
    · rcases inWindow.once with none | ⟨one, still, ended⟩
      · exact .inl none
      · exact .inr ⟨one, still, ended.trans later⟩
  · have running : ideal.actuator.action.isActive = true := by
      rcases ideal.actuator.action.idle_or_direction with same | ⟨direction, same⟩
      · exact absurd same idle
      · rw [same, direction.isActive_action]
    rw [running, if_pos rfl] at spent
    have soon := inWindow.active idle
    refine ⟨inWindow.active, fun same => absurd same idle, ?_, ?_, ?_⟩
    · rw [Ideal.wait_changes, Ideal.wait_now, spent]
      have : min (now - start) (|effort| * config.control.windowS) ≤
          min (ideal.now - start) (|effort| * config.control.windowS) +
            (now - ideal.now) := by
        rw [← min_add_add_right]
        apply min_le_min <;> linarith
      linarith
    · rw [Ideal.wait_changes, Ideal.wait_now, spent]
      linarith
    · rcases inWindow.once with none | ⟨_, same, _⟩
      · exact .inl none
      · exact absurd same idle

theorem opens (before : ∀ change ∈ ideal.changes, change.1 < start)
    (now : ideal.now = start) (soon : due ≤ start + gap) (gapNonneg : 0 ≤ gap)
    (pulse : 0 < |effort| * config.control.windowS) :
    InWindow config effort gap start finish due ideal := by
  have nothing : timeSpent Action.isActive .idle start ideal.now ideal.changes = 0 :=
    timeSpent_of_ge now.le
  refine ⟨fun _ => by linarith, fun _ => .inl soon, ?_, ?_, .inl ?_⟩
  · rw [nothing, now, sub_self, min_eq_left pulse.le]
    linarith
  · rw [nothing]
    linarith
  · exact changesToIdle_of_past before

theorem unchanged {next : Ideal} (inWindow : InWindow config effort gap start finish due ideal)
    (now : next.now = ideal.now) (changes : next.changes = ideal.changes)
    (action : next.actuator.action = ideal.actuator.action) :
    InWindow config effort gap start finish due next := by
  constructor
  · rw [action]
    exact inWindow.active
  · rw [action, now]
    exact inWindow.idle
  · rw [now, changes]
    exact inWindow.least
  · rw [now, changes]
    exact inWindow.most
  · rw [action, now, changes]
    exact inWindow.once

end InWindow

theorem InWindow.ticked {effort gap start finish due : ℚ} {before after : Ideal}
    {decided : ActuatorPlan}
    (inWindow : InWindow config effort gap start finish due before)
    (ticked : Ideal.Ticked config before after decided) {now : ℚ}
    (acts : after = before.act config (.tick now))
    (started : start ≤ before.now) (early : before.now < finish)
    (decision : decided.requestedAction =
      if before.now - start < |effort| * config.control.windowS then directionOf effort
      else .idle) :
    InWindow config effort gap start finish (before.now + gap) after := by
  have sameNow : after.now = before.now := by rw [acts, Ideal.act_now]
  have spent : timeSpent Action.isActive .idle start before.now after.changes =
      timeSpent Action.isActive .idle start before.now before.changes := by
    rw [acts]
    exact Ideal.Coherent.activeTime_act config before (.tick now) start
  have active (notIdle : after.actuator.action ≠ .idle) :
      before.now - start < |effort| * config.control.windowS := by
    by_contra ended
    rw [ticked.action, decision, if_neg ended] at notIdle
    exact notIdle rfl
  have idle (isIdle : after.actuator.action = .idle) :
      start + |effort| * config.control.windowS ≤ before.now := by
    by_contra early
    rw [ticked.action, decision, if_pos (by linarith)] at isIdle
    exact directionOf_ne_idle effort isIdle
  constructor
  · intro notIdle
    have := active notIdle
    linarith
  · intro isIdle
    rw [sameNow]
    exact .inr (idle isIdle)
  · rw [sameNow, spent]
    exact inWindow.least
  · rw [sameNow, spent]
    exact inWindow.most
  · rw [sameNow]
    by_cases same : decided.requestedAction = before.actuator.action
    · rw [ticked.unchanged same, ticked.action, same]
      exact inWindow.once
    · rw [ticked.changed same, changesToIdle_cons, ticked.action]
      by_cases onPhase : before.now - start < |effort| * config.control.windowS
      · rw [if_pos onPhase] at decision
        rw [decision, if_neg fun counted => directionOf_ne_idle effort counted.2.2, add_zero]
        rcases inWindow.once with none | ⟨_, _, ended⟩
        · exact .inl none
        · linarith
      · rw [if_neg onPhase] at decision
        rw [decision] at same
        rw [decision, if_pos ⟨started, early, rfl⟩]
        rcases inWindow.once with none | ⟨_, isIdle, _⟩
        · exact .inr ⟨by rw [none], rfl, by linarith⟩
        · exact absurd isIdle.symm same

theorem Untouched.ticked {before after : Ideal} {decided : ActuatorPlan}
    (untouched : Untouched before) (ticked : Ideal.Ticked config before after decided) :
    Untouched after := by
  have idle := idle_of_never ticked.plans untouched.update
  have same : decided.requestedAction = before.actuator.action :=
    idle.trans untouched.action.symm
  constructor
  · rw [ticked.update, untouched.update]
  · rw [ticked.unchanged same, untouched.changes]
  · rw [ticked.action, idle]
  · by_contra remembered
    rcases Option.ne_none_iff_exists'.mp remembered with ⟨last, known⟩
    rcases ticked.direction last known with before | ⟨action, active⟩
    · rw [untouched.direction] at before
      cases before
    · rw [← action, untouched.action] at active
      cases active

namespace Driven

variable {effort gap start finish first due : ℚ} {ideal : Ideal}
  {calls : List ActuatorCall} {now : ℚ}

theorem setEffort (driven : Driven config effort gap start finish first due ideal)
    (worth : WorthPulse config effort)
    (fresh : ideal.actuator.wasStale config.control ideal.now = false) :
    Driven config effort gap start finish first due
      (ideal.act config (.setEffort effort now)) := by
  rcases driven.window with ⟨windows, known, past⟩
  refine ⟨worth.clamp, ⟨ideal.now, rfl⟩, ⟨windows, ?_, past⟩, driven.never, driven.changes,
    fun started => ?_⟩
  · simpa [Ideal.act, effortSet, fresh] using known
  · exact (driven.inWindow started).unchanged rfl rfl rfl

theorem plan (driven : Driven config effort gap start finish first due ideal)
    (valid : config.Valid) :
    Driven config effort gap start finish first due (ideal.act config (.plan now)) := by
  rcases driven.window with ⟨windows, known, past⟩
  rcases advanceWindow_windowStart valid.control.windowS_pos known past with
      ⟨more, moved, movedPast, _⟩
  rcases driven.update with ⟨last, update⟩
  refine ⟨?_, ⟨last, ?_⟩, ⟨windows + more, ?_, ?_⟩, ?_, driven.changes, fun started => ?_⟩
  · exact (advanceWindow_effort _ _ _).trans driven.set
  · exact (advanceWindow_lastEffortUpdate _ _ _).trans update
  · refine moved.trans ?_
    push_cast
    ring_nf
  · push_cast
    change _ ≤ ideal.now
    linarith
  · have never := driven.never
    simpa [NeverOpposed, Ideal.act] using never
  · exact (driven.inWindow started).unchanged rfl rfl (advanceWindow_action _ _ _)

theorem tick (driven : Driven config effort gap start finish first due ideal)
    (worth : WorthPulse config effort) (valid : config.Valid) {windows : ℕ}
    (opening : start = first + windows * config.control.windowS)
    (closing : finish = start + config.control.windowS) (early : ideal.now < finish)
    (fresh : ∀ last, ideal.actuator.lastEffortUpdate = some last →
      ideal.now - last ≤ config.control.commandStaleTimeoutS) :
    Driven config effort gap start finish first (ideal.now + gap)
      (ideal.act config (.tick now)) := by
  have windowPos := valid.control.windowS_pos
  rcases driven.window with ⟨passed, known, past⟩
  rcases advanceWindow_windowStart windowPos known past with ⟨more, moved, movedPast, stillOpen⟩
  rcases driven.update with ⟨last, update⟩
  rcases ideal.ticked config now with ⟨decided, ticked⟩
  have decision := steady_plan worth ticked.plans driven.set update (fresh last update) moved
    driven.never
  have direction : decided.requestedAction = .idle ∨
      decided.requestedAction = directionOf effort := by
    rw [decision]
    split_ifs
    · exact .inr rfl
    · exact .inl rfl
  have merged : first + passed * config.control.windowS + more * config.control.windowS =
      first + (passed + more : ℕ) * config.control.windowS := by
    push_cast
    ring
  refine ⟨ticked.effort.trans driven.set, ⟨last, ticked.update.trans update⟩,
    ⟨passed + more, ?_, ?_⟩, ⟨?_, ?_⟩, ?_, fun started => ?_⟩
  · rw [ticked.windowStart, moved, merged]
  · rw [Ideal.act_now, ← merged]
    exact movedPast
  · rw [ticked.action]
    exact direction
  · intro last remembered
    rcases ticked.direction last remembered with before | ⟨action, active⟩
    · exact driven.never.2 last before
    · rcases driven.never.1 with idle | same
      · rw [← action, idle] at active
        cases active
      · exact action.symm.trans same
  · intro change among
    by_cases same : decided.requestedAction = ideal.actuator.action
    · rw [ticked.unchanged same] at among
      exact driven.changes change among
    · rw [ticked.changed same] at among
      rcases List.mem_cons.mp among with rfl | among
      · exact direction
      · exact driven.changes change among
  · rw [Ideal.act_now] at started
    have sameWindow : passed + more = windows := by
      have below : ((windows : ℕ) : ℚ) * config.control.windowS <
          ((passed + more + 1 : ℕ) : ℚ) * config.control.windowS := by
        push_cast
        linarith
      have above : ((passed + more : ℕ) : ℚ) * config.control.windowS <
          ((windows + 1 : ℕ) : ℚ) * config.control.windowS := by
        push_cast
        linarith
      have := Nat.cast_lt.mp (lt_of_mul_lt_mul_right below windowPos.le)
      have := Nat.cast_lt.mp (lt_of_mul_lt_mul_right above windowPos.le)
      omega
    apply (driven.inWindow started).ticked ticked rfl started early
    rw [decision, merged, sameWindow, opening]

end Driven

/-! ## The whole run -/

namespace SteadyRun

variable {effort gap start finish first due : ℚ} {ideal : Ideal}
  {calls : List ActuatorCall}

theorem wait (worth : WorthPulse config effort) (valid : config.Valid) (gapNonneg : 0 ≤ gap)
    (run : SteadyRun config effort gap start finish first due ideal calls) {now : ℚ}
    (later : ideal.now ≤ now) (inTime : now ≤ due) :
    SteadyRun config effort gap start finish first due (ideal.wait now) calls := by
  have pulse : 0 < |effort| * config.control.windowS :=
    mul_pos (valid.control.effortDeadband_nonneg.trans_lt worth.outsideDeadband)
      valid.control.windowS_pos
  constructor
  · exact run.steady
  · exact run.fresh
  · exact run.coherent.wait later
  · have := max_le_max_right start later
    have := run.soon
    rw [Ideal.wait_now]
    linarith
  · rcases run.phase with ⟨untouched, known⟩ | driven
    · exact .inl ⟨⟨untouched.update, untouched.changes, untouched.action,
        untouched.direction⟩, known⟩
    · rcases driven.window with ⟨windows, known, past⟩
      refine .inr ⟨driven.set, driven.update, ⟨windows, known, past.trans later⟩,
        driven.never, driven.changes, fun started => ?_⟩
      rcases le_or_gt start ideal.now with already | notYet
      · exact (driven.inWindow already).wait run.coherent already later inTime
      · have soon : due ≤ start + gap := by
          have := run.soon
          rwa [max_eq_right notYet.le] at this
        have opened : InWindow config effort gap start finish due (ideal.wait start) := by
          apply InWindow.opens
          · exact fun change among => (run.coherent.past change among).trans_lt notYet
          · rfl
          · exact soon
          · exact gapNonneg
          · exact pulse
        exact opened.wait (run.coherent.wait notYet.le) le_rfl started inTime

theorem setsFirst (worth : WorthPulse config effort) (valid : config.Valid)
    (gapNonneg : 0 ≤ gap) {now : ℚ} (current : ideal.now = now)
    (firstLe : first ≤ start)
    (run : SteadyRun config effort gap start finish first due ideal
      (.setEffort effort now :: calls))
    (untouched : Untouched ideal)
    (known : firstSetEffort (.setEffort effort now :: calls) = some first) :
    SteadyRun config effort gap start finish first due
      (ideal.act config (.setEffort effort now)) calls := by
  cases known
  have pulse : 0 < |effort| * config.control.windowS :=
    mul_pos (valid.control.effortDeadband_nonneg.trans_lt worth.outsideDeadband)
      valid.control.windowS_pos
  have stale : ideal.actuator.wasStale config.control ideal.now = true := by
    simp [wasStale, untouched.update]
  have fresh := run.fresh
  rw [untouched.update] at fresh
  constructor
  · exact fun call among => run.steady call (by simp [among])
  · have update : (ideal.act config (.setEffort effort first)).actuator.lastEffortUpdate =
        some first := congrArg some current
    rw [update]
    exact fresh
  · exact run.coherent.act config _
  · rw [Ideal.act_now]
    exact run.soon
  · refine .inr ⟨worth.clamp, ⟨ideal.now, rfl⟩, ⟨0, ?_, ?_⟩, ⟨.inl untouched.action, ?_⟩, ?_,
      fun started => ?_⟩
    · have opened : (ideal.act config (.setEffort effort first)).actuator.windowStart =
          some ideal.now := by simp [Ideal.act, effortSet, stale]
      rw [opened, current]
      simp
    · simp [current]
    · intro last remembered
      have same : ideal.actuator.lastActiveDirection = some last := remembered
      rw [untouched.direction] at same
      cases same
    · intro change among
      have same : change ∈ ideal.changes := among
      rw [untouched.changes] at same
      simp at same
    · have atStart : ideal.now = start := le_antisymm (by linarith) started
      apply InWindow.opens
      · intro change among
        have same : change ∈ ideal.changes := among
        rw [untouched.changes] at same
        simp at same
      · exact atStart
      · have := run.soon
        rwa [atStart, max_self] at this
      · exact gapNonneg
      · exact pulse

theorem act (worth : WorthPulse config effort) (valid : config.Valid)
    (gapNonneg : 0 ≤ gap) {windows : ℕ}
    (opening : start = first + windows * config.control.windowS)
    (closing : finish = start + config.control.windowS) {call : ActuatorCall}
    (current : ideal.now = call.now) (early : ideal.now < finish)
    (run : SteadyRun config effort gap start finish first due ideal (call :: calls)) :
    SteadyRun config effort gap start finish first (call.dueAfter gap due)
      (ideal.act config call) calls := by
  have steady := run.steady call (by simp)
  have later (call : ActuatorCall) (among : call ∈ calls) : call.IsSteady effort :=
    run.steady call (by simp [among])
  have coherent := run.coherent.act config call
  have soon := run.soon
  have firstLe : first ≤ start := by
    have := mul_nonneg (Nat.cast_nonneg windows : (0 : ℚ) ≤ windows)
      valid.control.windowS_pos.le
    linarith
  cases call with
  | setEffort value now =>
      cases steady
      rcases run.phase with ⟨untouched, known⟩ | driven
      · exact run.setsFirst worth valid gapNonneg current firstLe untouched known
      · rcases driven.update with ⟨last, update⟩
        have fresh := run.fresh
        rw [update] at fresh
        have instant : ideal.now = now := current
        have notStale : ideal.actuator.wasStale config.control ideal.now = false := by
          simpa [wasStale, update, instant] using fresh.1
        have updated : (ideal.act config (.setEffort effort now)).actuator.lastEffortUpdate =
            some now := congrArg some current
        refine ⟨later, ?_, coherent, soon, .inr (driven.setEffort worth notStale)⟩
        rw [updated]
        exact fresh.2
  | plan now =>
      have update : (ideal.act config (.plan now)).actuator.lastEffortUpdate =
          ideal.actuator.lastEffortUpdate := advanceWindow_lastEffortUpdate _ _ _
      refine ⟨later, ?_, coherent, soon, ?_⟩
      · have fresh := run.fresh
        rw [update]
        cases known : ideal.actuator.lastEffortUpdate with
        | none => rw [known] at fresh; exact fresh
        | some last => rw [known] at fresh; exact fresh
      · rcases run.phase with ⟨untouched, known⟩ | driven
        · exact .inl ⟨⟨update.trans untouched.update, untouched.changes,
            (advanceWindow_action _ _ _).trans untouched.action,
            (advanceWindow_lastActiveDirection _ _ _).trans untouched.direction⟩, known⟩
        · exact .inr (driven.plan valid)
  | tick now =>
      rcases ideal.ticked config now with ⟨decided, ticked⟩
      have fresh := run.fresh
      refine ⟨later, ?_, coherent, ?_, ?_⟩
      · rw [ticked.update]
        cases known : ideal.actuator.lastEffortUpdate with
        | none => rw [known] at fresh; exact fresh
        | some last => rw [known] at fresh; exact fresh.2
      · rw [Ideal.act_now, current]
        exact add_le_add_left (le_max_left _ _) gap
      · rcases run.phase with ⟨untouched, known⟩ | driven
        · exact .inl ⟨untouched.ticked ticked, known⟩
        · have inTime (last : ℚ) (update : ideal.actuator.lastEffortUpdate = some last) :
              ideal.now - last ≤ config.control.commandStaleTimeoutS := by
            rw [update] at fresh
            rw [current]
            exact fresh.1
          have kept : Driven config effort gap start finish first (ideal.now + gap)
              (ideal.act config (.tick now)) :=
            driven.tick worth valid opening closing early inTime
          rw [current] at kept
          exact .inr kept
  | forceIdle now reason => exact steady.elim

end SteadyRun

theorem steadyRun_ready {effort gap start finish first beginning : ℚ}
    {calls : List ActuatorCall} (steady : ∀ call ∈ calls, call.IsSteady effort)
    (fresh : StaysFresh config.control.commandStaleTimeoutS none calls)
    (known : firstSetEffort calls = some first) :
    SteadyRun config effort gap start finish first (start + gap) (Ideal.ready beginning)
      calls := by
  constructor
  · exact steady
  · exact fresh
  · exact ⟨by simp [Ideal.ready], rfl⟩
  · exact add_le_add_left (le_max_right _ _) gap
  · exact .inl ⟨⟨rfl, rfl, rfl, rfl⟩, known⟩

/-- In every window that ticks attend, a steady effort is a pulse of its share of
the window, up to the spacing of the ticks, and at most one change to IDLE. -/
theorem steady_effort_is_duty (prompt : environment.Prompt) (accepted : config.Accepted)
    {beginning : ℚ} {initialPlugs : Int → Bool} {ready : World}
    (initialized : InitializedAt config environment beginning initialPlugs ready)
    {effort : ℚ} (inRange : |effort| ≤ 1)
    (outsideDeadband : config.control.effortDeadband < |effort|)
    (minOn : config.control.minOnS (directionOf effort) ≤ |effort| * config.control.windowS)
    {calls : List ActuatorCall} (nondecreasing : Nondecreasing beginning calls)
    (steady : ∀ call ∈ calls, call.IsSteady effort)
    (fresh : StaysFresh config.control.commandStaleTimeoutS none calls) {first : ℚ}
    (known : firstSetEffort calls = some first) (gap : ℚ) (windows : ℕ)
    (attended : Attended gap
      (first + windows * config.control.windowS + config.control.windowS)
      (first + windows * config.control.windowS + gap) calls) :
    let log := (runCalls config environment ready calls).log
    let start := first + windows * config.control.windowS
    let finish := start + config.control.windowS
    (∀ instant, start ≤ instant → instant < finish →
      actionAt log instant = .idle ∨ actionAt log instant = directionOf effort) ∧
    changesToIdle start finish (actionChanges log) ≤ 1 ∧
    |effort| * config.control.windowS - gap ≤ activeTime log start finish ∧
    activeTime log start finish ≤ |effort| * config.control.windowS + gap := by
  intro log start finish
  have worth : WorthPulse config effort := ⟨inRange, outsideDeadband, minOn⟩
  have valid := accepted.valid
  have windowPos := valid.control.windowS_pos
  have gapNonneg : 0 ≤ gap := by
    by_contra negative
    have := attended.finish_le (by linarith)
    linarith
  have firstLe : first ≤ start := by
    have := mul_nonneg (Nat.cast_nonneg windows : (0 : ℚ) ≤ windows) windowPos.le
    change first ≤ first + _
    linarith
  have startLt : start < finish := lt_add_of_pos_right start windowPos
  rcases nondecreasing.split finish with ⟨before, after, rfl, ordered, early, late⟩
  have knownBefore := firstSetEffort_left known (firstLe.trans_lt startLt) late
  have initially : SteadyRun config effort gap start finish first (start + gap)
      (Ideal.ready beginning) before :=
    steadyRun_ready (fun call among => steady call (List.mem_append_left after among))
      fresh.left knownBefore
  have beginningLe : beginning ≤ finish := by
    rcases firstSetEffort_mem knownBefore with ⟨call, among, same⟩
    have := ordered.le among
    linarith
  have ran := Ideal.run_invariant
    (fun due ideal now calls (run : SteadyRun config effort gap start finish first due ideal
      calls) later inTime _ => run.wait worth valid gapNonneg later inTime)
    (fun due ideal call calls run current callEarly =>
      run.act worth valid gapNonneg rfl rfl current (current ▸ callEarly))
    initially beginningLe ordered early late attended
  rcases ran with ⟨due, run⟩
  rcases run.phase with ⟨_, impossible⟩ | driven
  · cases impossible
  have inWindow := driven.inWindow startLt.le
  have final := initialized.ideal_run prompt (before ++ after)
  rw [Ideal.run_append] at final
  rcases @Ideal.run_adds config ((Ideal.ready beginning).run config before) after finish late
    with ⟨⟨added, changes, addedLate⟩, _⟩
  have logged : actionChanges log =
      added ++ ((Ideal.ready beginning).run config before).changes := by
    change (Ideal.of _).changes = _
    rw [final, changes]
  have active : activeTime log start finish = timeSpent Action.isActive .idle start finish
      ((Ideal.ready beginning).run config before).changes := by
    rw [activeTime, logged, timeSpent_append_of_le addedLate]
  have whole : finish - start = config.control.windowS := add_sub_cancel_left _ _
  have least := inWindow.least
  rw [Ideal.wait_now, Ideal.wait_changes, ← active, whole,
    min_eq_right (mul_le_of_le_one_left windowPos.le inRange)] at least
  have most := inWindow.most
  rw [Ideal.wait_now, Ideal.wait_changes, ← active] at most
  refine ⟨fun instant _ inside => ?_, ?_, least, most⟩
  · rw [actionAt, logged, valueAt_append_of_lt fun change among =>
      inside.trans_le (addedLate change among)]
    let steadyAction (action : Action) : Prop := action = .idle ∨ action = directionOf effort
    have initially : steadyAction .idle := .inl rfl
    exact valueAt_of_forall initially driven.changes
  · rw [logged, changesToIdle_append_of_le addedLate]
    rcases inWindow.once with none | ⟨one, _⟩
    · exact none.le.trans (Nat.zero_le 1)
    · exact one.le

def minutely (effort : ℚ) (minutes : ℕ) : List ActuatorCall :=
  (List.range minutes).flatMap fun index =>
    [.setEffort effort (60 * index), .tick (60 * index)]

theorem steady_effort_is_duty_minutely :
    let log := (runCalls Config.shipped .obedient
      (readyAt Config.shipped .obedient 0 fun _ => true) (minutely (2 / 5) 31)).log
    changesToIdle 0 1800 (actionChanges log) ≤ 1 ∧
      660 ≤ activeTime log 0 1800 ∧ activeTime log 0 1800 ≤ 780 := by
  have initialized : InitializedAt Config.shipped .obedient 0 (fun _ => true)
      (readyAt Config.shipped .obedient 0 fun _ => true) := ⟨_, rfl⟩
  have worth : WorthPulse Config.shipped (2 / 5) :=
    ⟨by decide +kernel, by decide +kernel, by decide +kernel⟩
  have steady : ∀ call ∈ minutely (2 / 5) 31, call.IsSteady (2 / 5) := by decide +kernel
  have known : firstSetEffort (minutely (2 / 5) 31) = some 0 := by decide +kernel
  have duty := steady_effort_is_duty Environment.obedient_prompt Config.shipped_accepted
    initialized worth.inRange worth.outsideDeadband worth.minOn (by decide +kernel) steady
    (by decide +kernel) known 60 0 (by decide +kernel)
  have start : (0 : ℚ) + (0 : ℕ) * Config.shipped.control.windowS = 0 := by decide +kernel
  have finish : (0 : ℚ) + Config.shipped.control.windowS = 1800 := by decide +kernel
  have least : |(2 / 5 : ℚ)| * Config.shipped.control.windowS - 60 = 660 := by decide +kernel
  have most : |(2 / 5 : ℚ)| * Config.shipped.control.windowS + 60 = 780 := by decide +kernel
  simp only [start, finish, least, most] at duty
  exact duty.2

end BuranBrew.Host

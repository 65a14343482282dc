import BuranBrew.Host.Ideal

/-! # The duty when updates have gaps

`set_effort` restarts the window when it finds the previous effort stale, so
every recovery grants one more pulse than the windows do.
-/

namespace BuranBrew.Host

open Exact Signal ActuatorCall

variable {config : Config} {environment : Environment}

/-- The ON time that an effort gets in each window. -/
def activeS (config : Config) (effort : ℚ) : ℚ :=
  |max (-1) (min 1 effort)| * config.control.windowS

theorem activeS_nonneg (positive : 0 < config.control.windowS) (effort : ℚ) :
    0 ≤ activeS config effort :=
  mul_nonneg (abs_nonneg _) positive.le

/-- The recoveries between two instants. The oldest restart is the first call of
`set_effort`, which recovers nothing. -/
def recoveriesIn (start finish : ℚ) (restarts : List ℚ) : ℕ :=
  (restarts.dropLast.filter fun time => decide (start ≤ time ∧ time < finish)).length

theorem recoveriesIn_cons {start finish time : ℚ} {restarts : List ℚ}
    (known : restarts ≠ []) (started : start ≤ time) (early : time < finish) :
    recoveriesIn start finish (time :: restarts) =
      recoveriesIn start finish restarts + 1 := by
  unfold recoveriesIn
  rw [List.dropLast_cons_of_ne_nil known, List.filter_cons_of_pos (by simp [started, early])]
  rfl

theorem recoveriesIn_le_append (start finish : ℚ) (added restarts : List ℚ) :
    recoveriesIn start finish restarts ≤ recoveriesIn start finish (added ++ restarts) := by
  unfold recoveriesIn
  by_cases none : restarts = []
  · simp [none]
  · rw [List.dropLast_append_of_ne_nil none, List.filter_append, List.length_append]
    omega

section Invariant

variable (config) (effort gap start finish : ℚ)

/-- Since `start`, the windows opened and the recoveries bound the active time. -/
structure Granted (due opened : ℚ) (ideal : Ideal) : Prop where
  past : opened ≤ ideal.now
  pulse : ideal.actuator.action.isActive = true → due ≤ opened + activeS config effort + gap
  spent : start ≤ ideal.now → ∃ windows : ℕ,
    (windows = 0 ∨ start + (windows - 1) * config.control.windowS ≤ opened) ∧
    timeSpent Action.isActive .idle start ideal.now ideal.changes ≤
      (windows + recoveriesIn start finish ideal.restarts) * (activeS config effort + gap) +
        min (ideal.now - max opened start) (activeS config effort + gap)

/-- The invariant of a run in which `set_effort` is called with one value only. -/
structure Rationed (due : ℚ) (ideal : Ideal) (calls : List ActuatorCall) : Prop where
  only : ∀ call ∈ calls, call.SetsOnly effort
  coherent : ideal.Coherent
  untouched : ideal.actuator.lastEffortUpdate = none →
    ideal.changes = [] ∧ ideal.restarts = []
  touched : ideal.actuator.lastEffortUpdate ≠ none →
    ideal.actuator.effort = max (-1) (min 1 effort) ∧ ideal.restarts ≠ []
  window : ∃ opened, ideal.actuator.windowStart = some opened ∧
    Granted config effort gap start finish due opened ideal

end Invariant

namespace Granted

variable {effort gap start finish due opened : ℚ} {ideal : Ideal}
  (granted : Granted config effort gap start finish due opened ideal)
  (valid : config.Valid) (gapNonneg : 0 ≤ gap)

include granted

theorem wait_after (coherent : ideal.Coherent) (started : start ≤ ideal.now) {now : ℚ}
    (later : ideal.now ≤ now) (inTime : now ≤ due) :
    Granted config effort gap start finish due opened (ideal.wait now) := by
  refine ⟨granted.past.trans later, granted.pulse, fun _ => ?_⟩
  rcases granted.spent started with ⟨windows, bounded, spent⟩
  refine ⟨windows, bounded, ?_⟩
  rw [Ideal.wait_changes, Ideal.wait_restarts, Ideal.wait_now,
    coherent.activeTime_wait started later]
  have opening : max opened start ≤ ideal.now := max_le granted.past started
  split_ifs with active
  · have pulse := granted.pulse active
    have within : now - max opened start ≤ activeS config effort + gap := by
      have := le_max_left opened start
      linarith
    have before : ideal.now - max opened start ≤ activeS config effort + gap := by linarith
    rw [min_eq_left within]
    rw [min_eq_left before] at spent
    linarith
  · have := min_le_min_right (activeS config effort + gap)
      (sub_le_sub_right later (max opened start))
    linarith

include valid gapNonneg

theorem wait (coherent : ideal.Coherent) {now : ℚ} (later : ideal.now ≤ now)
    (inTime : now ≤ due) :
    Granted config effort gap start finish due opened (ideal.wait now) := by
  rcases le_or_gt start ideal.now with started | notYet
  · exact granted.wait_after coherent started later inTime
  · rcases le_or_gt start now with starts | still
    · have atStart : Granted config effort gap start finish due opened (ideal.wait start) := by
        refine ⟨granted.past.trans notYet.le, granted.pulse, fun _ => ⟨0, .inl rfl, ?_⟩⟩
        have nonneg := activeS_nonneg valid.control.windowS_pos effort
        have opening : max opened start = start :=
          max_eq_right (granted.past.trans notYet.le)
        rw [Ideal.wait_now, timeSpent_of_ge le_rfl, opening, sub_self,
          min_eq_left (add_nonneg nonneg gapNonneg)]
        positivity
      exact atStart.wait_after (coherent.wait notYet.le) le_rfl starts inTime
    · exact ⟨granted.past.trans later, granted.pulse,
        fun started => absurd started (not_le.mpr still)⟩

theorem reopen {next : Ideal} {later : ℚ} {windows : ℕ} (now : next.now = ideal.now)
    (active : timeSpent Action.isActive .idle start ideal.now next.changes =
      timeSpent Action.isActive .idle start ideal.now ideal.changes)
    (restarts : next.restarts = ideal.restarts)
    (past : opened + windows * config.control.windowS ≤ ideal.now)
    (pulse : next.actuator.action.isActive = true →
      later ≤ opened + windows * config.control.windowS + activeS config effort + gap) :
    Granted config effort gap start finish later
      (opened + windows * config.control.windowS) next := by
  have windowPos := valid.control.windowS_pos
  have nonneg := add_nonneg (activeS_nonneg windowPos effort) gapNonneg
  refine ⟨by rw [now]; exact past, pulse, fun started => ?_⟩
  rw [now] at started ⊢
  rcases granted.spent started with ⟨before, bounded, spent⟩
  rw [active, restarts]
  rcases Nat.eq_zero_or_pos windows with rfl | opens
  · simp only [Nat.cast_zero, zero_mul, add_zero]
    exact ⟨before, bounded, spent⟩
  · have oneMore : (1 : ℚ) ≤ windows := by exact_mod_cast opens
    have moved : opened + config.control.windowS ≤
        opened + windows * config.control.windowS := by nlinarith
    rcases le_or_gt start (opened + windows * config.control.windowS) with inside | outside
    · refine ⟨before + 1, .inr ?_, ?_⟩
      · rcases bounded with rfl | bounded
        · simpa using inside
        · push_cast
          linarith
      · have last := min_le_right (ideal.now - max opened start) (activeS config effort + gap)
        have fresh : 0 ≤ min
            (ideal.now - max (opened + windows * config.control.windowS) start)
            (activeS config effort + gap) :=
          le_min (sub_nonneg.mpr (max_le past started)) nonneg
        push_cast
        linarith
    · refine ⟨before, ?_, ?_⟩
      · rcases bounded with rfl | bounded
        · exact .inl rfl
        · exact .inr (by linarith)
      · have old : max opened start = start := max_eq_right (by linarith)
        rw [max_eq_right outside.le]
        rw [old] at spent
        exact spent

theorem restart {next : Ideal} (now : next.now = ideal.now) (early : ideal.now < finish)
    (changes : next.changes = ideal.changes)
    (action : next.actuator.action = ideal.actuator.action)
    (restarts : next.restarts = ideal.now :: ideal.restarts)
    (known : ideal.restarts = [] → ideal.changes = []) :
    Granted config effort gap start finish due ideal.now next := by
  have nonneg := add_nonneg (activeS_nonneg valid.control.windowS_pos effort) gapNonneg
  refine ⟨now.ge, fun active => ?_, fun started => ?_⟩
  · rw [action] at active
    have := granted.pulse active
    have := granted.past
    linarith
  · rw [now] at started ⊢
    rw [changes, restarts]
    have fresh : 0 ≤ min (ideal.now - max ideal.now start) (activeS config effort + gap) :=
      le_min (sub_nonneg.mpr (max_le le_rfl started)) nonneg
    by_cases first : ideal.restarts = []
    · refine ⟨0, .inl rfl, ?_⟩
      have idle : timeSpent Action.isActive .idle start ideal.now ideal.changes = 0 := by
        rw [known first]
        rfl
      rw [idle]
      positivity
    · rcases granted.spent started with ⟨windows, bounded, spent⟩
      refine ⟨windows, ?_, ?_⟩
      · rcases bounded with rfl | bounded
        · exact .inl rfl
        · exact .inr (bounded.trans granted.past)
      · have last := min_le_right (ideal.now - max opened start)
          (activeS config effort + gap)
        rw [recoveriesIn_cons first started early]
        push_cast
        linarith

end Granted

theorem onPhase_of_active {now opened : ℚ} {self : Actuator} {decided : ActuatorPlan}
    (plans : config.Plans now self decided)
    (started : (self.advanceWindow config.control.windowS now).windowStart = some opened)
    (active : decided.requestedAction.isActive = true) :
    self.lastEffortUpdate ≠ none ∧
      now - opened < |self.effort| * config.control.windowS := by
  rcases decided.requestedAction.idle_or_direction with idle | ⟨direction, requested⟩
  · rw [idle] at active
    cases active
  · have requests := plans.requests requested
    rcases requests.fresh with ⟨last, update, _⟩
    rcases requests.onPhase with ⟨start, known, early⟩
    rw [Actuator.advanceWindow_lastEffortUpdate] at update
    rw [started, Option.some_inj] at known
    rw [Actuator.advanceWindow_effort, ← known] at early
    exact ⟨by simp [update], early⟩

theorem idle_of_never {now : ℚ} {self : Actuator} {decided : ActuatorPlan}
    (plans : config.Plans now self decided) (never : self.lastEffortUpdate = none) :
    decided.requestedAction = .idle := by
  rcases decided.requestedAction.idle_or_direction with idle | ⟨direction, requested⟩
  · exact idle
  · rcases (plans.requests requested).fresh with ⟨last, update, _⟩
    rw [Actuator.advanceWindow_lastEffortUpdate, never] at update
    cases update

namespace Rationed

variable {effort gap start finish due : ℚ} {ideal : Ideal} {calls : List ActuatorCall}
  (valid : config.Valid) (gapNonneg : 0 ≤ gap)

include valid gapNonneg

theorem wait (rationed : Rationed config effort gap start finish due ideal calls) {now : ℚ}
    (later : ideal.now ≤ now) (inTime : now ≤ due) :
    Rationed config effort gap start finish due (ideal.wait now) calls := by
  rcases rationed.window with ⟨opened, known, granted⟩
  exact ⟨rationed.only, rationed.coherent.wait later, rationed.untouched, rationed.touched,
    opened, known, granted.wait valid gapNonneg rationed.coherent later inTime⟩

theorem setEffort {value now : ℚ}
    (rationed : Rationed config effort gap start finish due ideal
      (.setEffort value now :: calls)) (early : ideal.now < finish) :
    Rationed config effort gap start finish due
      (ideal.act config (.setEffort value now)) calls := by
  have same : value = effort := rationed.only (.setEffort value now) (by simp)
  rcases rationed.window with ⟨opened, known, granted⟩
  have empty (first : ideal.restarts = []) : ideal.changes = [] := by
    by_contra changed
    have set : ideal.actuator.lastEffortUpdate ≠ none := fun unset =>
      changed (rationed.untouched unset).1
    exact (rationed.touched set).2 first
  constructor
  · exact fun call among => rationed.only call (by simp [among])
  · exact rationed.coherent.act config _
  · exact fun unset => by cases unset
  · refine fun _ => ⟨by rw [← same]; rfl, ?_⟩
    by_cases stale : ideal.actuator.wasStale config.control ideal.now = true
    · simp [Ideal.act, stale]
    · have set : ideal.actuator.lastEffortUpdate ≠ none := by
        intro unset
        simp [Actuator.wasStale, unset] at stale
      simpa [Ideal.act, stale] using (rationed.touched set).2
  · by_cases stale : ideal.actuator.wasStale config.control ideal.now = true
    · refine ⟨ideal.now, by simp [Ideal.act, Actuator.effortSet, stale], ?_⟩
      exact granted.restart valid gapNonneg rfl early rfl rfl (by simp [Ideal.act, stale])
        empty
    · refine ⟨opened + (0 : ℕ) * config.control.windowS,
        by simp [Ideal.act, Actuator.effortSet, stale, known], ?_⟩
      apply granted.reopen valid gapNonneg
      · rfl
      · rfl
      · simp [Ideal.act, stale]
      · simpa using granted.past
      · exact fun active => by simpa using granted.pulse active

theorem passive {next : Ideal} {later : ℚ} {windows : ℕ} {opened : ℚ} {call : ActuatorCall}
    (rationed : Rationed config effort gap start finish due ideal (call :: calls))
    (known : ideal.actuator.windowStart = some opened)
    (acts : next = ideal.act config call)
    (update : next.actuator.lastEffortUpdate = ideal.actuator.lastEffortUpdate)
    (sameEffort : next.actuator.effort = ideal.actuator.effort)
    (restarts : next.restarts = ideal.restarts)
    (untouched : ideal.actuator.lastEffortUpdate = none → next.changes = ideal.changes)
    (moved : next.actuator.windowStart = some (opened + windows * config.control.windowS))
    (past : opened + windows * config.control.windowS ≤ ideal.now)
    (pulse : next.actuator.action.isActive = true →
      later ≤ opened + windows * config.control.windowS + activeS config effort + gap) :
    Rationed config effort gap start finish later next calls := by
  rcases rationed.window with ⟨same, knownSame, granted⟩
  cases known.symm.trans knownSame
  constructor
  · exact fun call among => rationed.only call (by simp [among])
  · rw [acts]
    exact rationed.coherent.act config call
  · intro unset
    rw [update] at unset
    rw [untouched unset, restarts]
    exact rationed.untouched unset
  · intro set
    rw [update] at set
    rw [sameEffort, restarts]
    exact rationed.touched set
  · refine ⟨_, moved, ?_⟩
    apply granted.reopen valid gapNonneg
    · rw [acts, Ideal.act_now]
    · rw [acts]
      exact Ideal.Coherent.activeTime_act config ideal call start
    · exact restarts
    · exact past
    · exact pulse

theorem act {call : ActuatorCall} (current : ideal.now = call.now)
    (early : ideal.now < finish)
    (rationed : Rationed config effort gap start finish due ideal (call :: calls)) :
    Rationed config effort gap start finish (call.dueAfter gap due) (ideal.act config call)
      calls := by
  rcases rationed.window with ⟨opened, known, granted⟩
  have windowPos := valid.control.windowS_pos
  rcases Actuator.advanceWindow_windowStart windowPos known granted.past
    with ⟨windows, moved, past, _⟩
  have idle (unset : ideal.actuator.lastEffortUpdate = none) :
      ideal.actuator.action = .idle := by
    rw [← rationed.coherent.current, (rationed.untouched unset).1]
    rfl
  cases call with
  | setEffort value now => exact rationed.setEffort valid gapNonneg early
  | plan now =>
      apply rationed.passive valid gapNonneg known rfl
      · exact Actuator.advanceWindow_lastEffortUpdate _ _ _
      · exact Actuator.advanceWindow_effort _ _ _
      · rfl
      · exact fun _ => rfl
      · exact moved
      · exact past
      · intro active
        have pulse := granted.pulse (by simpa [Ideal.act] using active)
        have forward : 0 ≤ windows * config.control.windowS :=
          mul_nonneg (Nat.cast_nonneg _) windowPos.le
        change due ≤ _
        linarith
  | tick now =>
      rcases ideal.ticked config now with ⟨decided, ticked⟩
      have asks (active : decided.requestedAction.isActive = true) :=
        onPhase_of_active ticked.plans moved active
      apply rationed.passive valid gapNonneg known rfl ticked.update ticked.effort
        ticked.restarts
      · intro unset
        apply ticked.unchanged
        rw [idle unset]
        exact idle_of_never ticked.plans unset
      · exact ticked.windowStart.trans moved
      · exact past
      · intro active
        rw [ticked.action] at active
        have onPhase := (asks active).2
        rw [(rationed.touched (asks active).1).1, current] at onPhase
        change now + gap ≤ _
        unfold activeS
        have : now - (opened + windows * config.control.windowS) < _ := onPhase
        linarith
  | forceIdle now reason =>
      have acts : ideal.act config (.forceIdle now reason) =
          if ideal.actuator.action = .idle then ideal else ideal.change .idle := rfl
      have unmoved : opened = opened + (0 : ℕ) * config.control.windowS := by simp
      apply rationed.passive valid gapNonneg known rfl
      · rw [acts]
        split_ifs
        · rfl
        · exact Actuator.settled_lastEffortUpdate _ _ _
      · rw [acts]
        split_ifs
        · rfl
        · exact Actuator.settled_effort _ _ _
      · rw [acts]
        split_ifs <;> rfl
      · intro unset
        rw [acts, if_pos (idle unset)]
      · rw [← unmoved, acts, ← known]
        split_ifs
        · rfl
        · exact Actuator.settled_windowStart _ _ _
      · rw [← unmoved]
        exact granted.past
      · rw [acts]
        split_ifs with already
        · intro active
          rw [already] at active
          cases active
        · exact fun active => by cases active

theorem bound (rationed : Rationed config effort gap start finish due ideal calls)
    {n : ℕ} (whole : finish = start + n * config.control.windowS) (ended : ideal.now = finish) :
    timeSpent Action.isActive .idle start finish ideal.changes ≤
      (n + 1 + recoveriesIn start finish ideal.restarts) * (activeS config effort + gap) := by
  have windowPos := valid.control.windowS_pos
  have nonneg := add_nonneg (activeS_nonneg windowPos effort) gapNonneg
  have started : start ≤ ideal.now := by
    rw [ended, whole]
    have := mul_nonneg (Nat.cast_nonneg n : (0 : ℚ) ≤ n) windowPos.le
    linarith
  rcases rationed.window with ⟨opened, known, granted⟩
  rcases granted.spent started with ⟨windows, bounded, spent⟩
  rw [ended] at spent
  have past : opened ≤ finish := ended ▸ granted.past
  rcases Nat.lt_or_ge n windows with many | few
  · have oneMore : (n : ℚ) + 1 ≤ windows := by exact_mod_cast many
    have later : start + (windows - 1) * config.control.windowS ≤ opened := by
      rcases bounded with rfl | bounded
      · omega
      · exact bounded
    have exactly : (windows : ℚ) = n + 1 := by
      have : (windows - 1 : ℚ) * config.control.windowS ≤ n * config.control.windowS := by
        linarith
      have := le_of_mul_le_mul_right this windowPos
      linarith
    have last : finish - max opened start ≤ 0 := by
      have := le_max_left opened start
      rw [exactly] at later
      linarith
    have := min_le_left (finish - max opened start) (activeS config effort + gap)
    rw [exactly] at spent
    linarith
  · have atMost : (windows : ℚ) ≤ n := by exact_mod_cast few
    have := min_le_right (finish - max opened start) (activeS config effort + gap)
    have := mul_le_mul_of_nonneg_right atMost nonneg
    linarith

end Rationed

theorem rationed_ready (effort gap start finish due beginning : ℚ)
    {calls : List ActuatorCall} (valid : config.Valid) (gapNonneg : 0 ≤ gap)
    (only : ∀ call ∈ calls, call.SetsOnly effort) :
    Rationed config effort gap start finish due (Ideal.ready beginning) calls := by
  have nonneg := add_nonneg (activeS_nonneg valid.control.windowS_pos effort) gapNonneg
  constructor
  · exact only
  · exact ⟨by simp [Ideal.ready], rfl⟩
  · exact fun _ => ⟨rfl, rfl⟩
  · exact fun set => absurd rfl set
  · have idle (active : (Ideal.ready beginning).actuator.action.isActive = true) : False := by
      cases active
    refine ⟨beginning, rfl, le_rfl, fun active => (idle active).elim, fun started => ?_⟩
    refine ⟨0, .inl rfl, ?_⟩
    have opening : max beginning start = beginning := max_eq_left started
    have nothing : timeSpent Action.isActive .idle start (Ideal.ready beginning).now
        (Ideal.ready beginning).changes = 0 := rfl
    have none : recoveriesIn start finish (Ideal.ready beginning).restarts = 0 := rfl
    rw [nothing, none, opening]
    simp [Ideal.ready, nonneg]

/-- Over `n` windows a constant effort is active for at most `n + 1` pulses and
one more for every recovery. -/
theorem recoveries_bound_active_time (prompt : environment.Prompt)
    (accepted : config.Accepted) {beginning : ℚ} {initialPlugs : Int → Bool} {ready : World}
    (initialized : InitializedAt config environment beginning initialPlugs ready)
    (effort gap start due : ℚ) (n : ℕ) (calls : List ActuatorCall)
    (nondecreasing : Nondecreasing beginning calls)
    (only : ∀ call ∈ calls, call.SetsOnly effort)
    (gapNonneg : 0 ≤ gap) (started : beginning ≤ start)
    (attended : Attended gap (start + n * config.control.windowS) due calls) :
    activeTime (runCalls config environment ready calls).log start
        (start + n * config.control.windowS) ≤
      (n + 1 + recoveriesIn start (start + n * config.control.windowS)
          (restarts (runCalls config environment ready calls).log)) *
        (activeS config effort + gap) := by
  have valid := accepted.valid
  have windowPos := valid.control.windowS_pos
  have nonneg := add_nonneg (activeS_nonneg windowPos effort) gapNonneg
  set finish := start + n * config.control.windowS with whole
  have startLe : start ≤ finish := by
    have := mul_nonneg (Nat.cast_nonneg n : (0 : ℚ) ≤ n) windowPos.le
    linarith
  rcases nondecreasing.split finish with ⟨before, after, rfl, ordered, early, late⟩
  have initially := rationed_ready effort gap start finish due beginning valid gapNonneg
    fun call among => only call (List.mem_append_left after among)
  have ran := Ideal.run_invariant
    (fun due ideal now calls (rationed : Rationed config effort gap start finish due ideal
      calls) later inTime _ => rationed.wait valid gapNonneg later inTime)
    (fun due ideal call calls rationed current callEarly =>
      rationed.act valid gapNonneg current (current ▸ callEarly))
    initially (started.trans startLe) ordered early late attended
  rcases ran with ⟨due, rationed⟩
  have bound := rationed.bound valid gapNonneg whole rfl
  rw [Ideal.wait_changes, Ideal.wait_restarts] at bound
  have final := initialized.ideal_run prompt (before ++ after)
  rw [Ideal.run_append] at final
  rcases @Ideal.run_adds config ((Ideal.ready beginning).run config before) after finish late
    with ⟨⟨added, changes, addedLate⟩, restarted, restarts⟩
  have active : activeTime (runCalls config environment ready (before ++ after)).log start
      finish = timeSpent Action.isActive .idle start finish
        ((Ideal.ready beginning).run config before).changes := by
    change timeSpent _ _ _ _ (Ideal.of _).changes = _
    rw [final, changes, timeSpent_append_of_le addedLate]
  have recovered : recoveriesIn start finish
        ((Ideal.ready beginning).run config before).restarts ≤
      recoveriesIn start finish
        (Host.restarts (runCalls config environment ready (before ++ after)).log) := by
    change _ ≤ recoveriesIn start finish (Ideal.of _).restarts
    rw [final, restarts]
    exact recoveriesIn_le_append start finish restarted _
  have recoveredRat : (recoveriesIn start finish
        ((Ideal.ready beginning).run config before).restarts : ℚ) ≤
      recoveriesIn start finish
        (Host.restarts (runCalls config environment ready (before ++ after)).log) := by
    exact_mod_cast recovered
  rw [active]
  have := mul_le_mul_of_nonneg_right recoveredRat nonneg
  linarith

/-- Each `set_effort` comes one second after the previous effort went stale. -/
def gappyCalls : List ActuatorCall :=
  .setEffort (7 / 20) 0 :: .tick 0 :: (List.range 10).flatMap fun index =>
    [.tick (180 * (index + 1)), .setEffort (7 / 20) (181 * (index + 1))]

theorem recoveries_bound_active_time_gappy :
    activeTime (runCalls Config.shipped .obedient
        (readyAt Config.shipped .obedient 0 fun _ => true) gappyCalls).log 0
        (0 + (1 : ℕ) * Config.shipped.control.windowS) ≤
      ((1 : ℕ) + 1 + 9 : ℚ) * (activeS Config.shipped (7 / 20) + 180) := by
  have initialized : InitializedAt Config.shipped .obedient 0 (fun _ => true)
      (readyAt Config.shipped .obedient 0 fun _ => true) := ⟨_, rfl⟩
  have bound := recoveries_bound_active_time Environment.obedient_prompt
    Config.shipped_accepted initialized (7 / 20) 180 0 0 1 gappyCalls (by decide +kernel)
    (by decide +kernel) (by decide +kernel) le_rfl (by decide +kernel)
  have nine : recoveriesIn 0 (0 + (1 : ℕ) * Config.shipped.control.windowS)
      (restarts (runCalls Config.shipped .obedient
        (readyAt Config.shipped .obedient 0 fun _ => true) gappyCalls).log) = 9 := by
    decide +kernel
  rw [nine] at bound
  exact_mod_cast bound

/-- With these gaps the heater is ON all the time, although the effort is 7/20. -/
theorem gaps_increase_duty :
    ¬∀ (config : Config) (environment : Environment) (beginning : ℚ)
      (initialPlugs : Int → Bool) (ready : World) (effort gap start due : ℚ) (n : ℕ)
      (calls : List ActuatorCall),
      config.Accepted → environment.Prompt →
      InitializedAt config environment beginning initialPlugs ready →
      Nondecreasing beginning calls → (∀ call ∈ calls, call.SetsOnly effort) →
      0 ≤ gap → beginning ≤ start → 1 ≤ n →
      Attended gap (start + n * config.control.windowS) due calls →
      activeTime (runCalls config environment ready calls).log start
          (start + n * config.control.windowS) ≤
        (n + 1) * (activeS config effort + gap) := by
  intro claimed
  have initialized : InitializedAt Config.shipped .obedient 0 (fun _ => true)
      (readyAt Config.shipped .obedient 0 fun _ => true) := ⟨_, rfl⟩
  have bound := claimed Config.shipped .obedient 0 (fun _ => true) _ (7 / 20) 180 0 0 1
    gappyCalls Config.shipped_accepted Environment.obedient_prompt initialized
    (by decide +kernel) (by decide +kernel) (by decide +kernel) le_rfl le_rfl
    (by decide +kernel)
  exact absurd bound (by decide +kernel)

end BuranBrew.Host

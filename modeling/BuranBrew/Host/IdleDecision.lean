import BuranBrew.Host.Runs

/-! # Idle decisions

`tick` sends nothing when the plan asks for the action it remembers. An ON
command that raised after it had reached the plug therefore stays in force for
as long as the decisions are idle: no attribute tells of it, only the log does.
-/

namespace BuranBrew.Host

open Execution TimeProportionalActuator

/-- The last command that took effect on the plug was ON, and the action was
not assigned since. -/
def strayOn (node : Int) : List Event → Bool
  | [] => false
  | ⟨_, .setPlug target on outcome⟩ :: earlier =>
      if target = node ∧ outcome.tookEffect then on else strayOn node earlier
  | ⟨_, .became _⟩ :: _ => false
  | _ :: earlier => strayOn node earlier

theorem strayOn_neutral {node : Int} {time : ℚ} {kind : EventKind}
    (neutral : kind.isNeutral = true) (log : List Event) :
    strayOn node (⟨time, kind⟩ :: log) = strayOn node log := by
  cases kind <;> first | rfl | simp [EventKind.isNeutral] at neutral

theorem plugs_neutral {initial : Int → Bool} {time : ℚ} {kind : EventKind}
    (neutral : kind.isNeutral = true) (log : List Event) :
    plugsAfter initial (⟨time, kind⟩ :: log) = plugsAfter initial log := by
  cases kind <;> first | rfl | simp [EventKind.isNeutral] at neutral

theorem strayOn_sent (environment : Environment) (world : World) (node target : Int)
    (on : Bool) :
    strayOn node (world.sent environment target on).log =
      if target = node ∧ (world.reply environment target on).outcome.tookEffect then
        on
      else strayOn node world.log := rfl

/-- While the action is IDLE, the plugs that are ON are the stray ones. -/
def Accounted (config : Config) (world : World) : Prop :=
  world.actuator.action = .idle → ∀ direction,
    world.plugs (config.node direction) = strayOn (config.node direction) world.log

theorem Accounted.sent {config : Config} {world : World}
    (accounted : Accounted config world) (environment : Environment) (target : Int)
    (on : Bool) : Accounted config (world.sent environment target on) := by
  intro idle direction
  rw [World.sent_plugs, strayOn_sent]
  cases (world.reply environment target on).outcome.tookEffect with
  | false => simpa using accounted idle direction
  | true =>
      by_cases same : target = config.node direction
      · simp [same]
      · simpa [same, Function.update_of_ne (Ne.symm same)] using
          accounted idle direction

theorem accounted_rules (config : Config) (environment : Environment) :
    ActuatorInvariant config environment (Accounted config) where
  pointFree _ accounted := accounted
  moved _ _ accounted := accounted
  assigned world actuator same accounted := fun idle =>
    accounted (same.symm.trans idle)
  remembered _ _ _ accounted := accounted
  logged world time kind neutral accounted := by
    intro idle direction
    rw [strayOn_neutral neutral]
    exact (congrFun (plugs_neutral neutral _) _).trans (accounted idle direction)
  sendsOff world node accounted := accounted.sent environment node false
  sendsOn world direction accounted _ _ :=
    accounted.sent environment (config.node direction) true
  idled world _ off := fun _ direction => bothOff_iff.mp off direction
  activated world direction _ _ _ := fun idle =>
    absurd idle direction.action_ne_idle

theorem energised_of_strayOn {node : Int} {initial : Int → Bool} {log : List Event}
    (stray : strayOn node log = true) : plugsAfter initial log node = true := by
  induction log with
  | nil => cases stray
  | cons event earlier induction =>
      rcases event with ⟨time, kind⟩
      cases kind with
      | setPlug target on outcome =>
          simp only [strayOn] at stray
          simp only [plugsAfter, Event.apply]
          split at stray
          · rename_i took
            simp [took.1, took.2, stray]
          · rename_i passed
            split
            · rename_i took
              have other : node ≠ target := fun same => passed ⟨same.symm, took⟩
              rw [Function.update_of_ne other]
              exact induction stray
            · exact induction stray
      | became action => cases stray
      | _ => exact induction stray

theorem not_strayOn_of_bothOff {config : Config} {world : World}
    (off : BothOff config world.plugs) (direction : Direction) :
    strayOn (config.node direction) world.log = false := by
  refine Bool.eq_false_iff.mpr fun stray => ?_
  have energised : world.plugs (config.node direction) = true :=
    energised_of_strayOn stray
  rw [bothOff_iff.mp off direction] at energised
  cases energised

theorem accounted_of_bothOff {config : Config} {world : World}
    (off : BothOff config world.plugs) : Accounted config world :=
  fun _ direction =>
    (bothOff_iff.mp off direction).trans (not_strayOn_of_bothOff off direction).symm

/-! ## Where stray plugs come from -/

/-- Every stray plug goes back to an ON command that raised after its effect. -/
def Confessed (config : Config) (world : World) : Prop :=
  world.actuator.action = .idle → ∀ direction,
    strayOn (config.node direction) world.log = true →
      ∃ event ∈ world.log, ∃ exception,
        event.kind = .setPlug (config.node direction) true (.raised exception true)

theorem Confessed.sent {config : Config} {environment : Environment} {world : World}
    {target : Int} {on : Bool} (confessed : Confessed config world)
    (failed : on = true → world.succeeds environment target on = false) :
    Confessed config (world.sent environment target on) := by
  intro idle direction stray
  rw [strayOn_sent] at stray
  split at stray
  · rename_i took
    subst stray
    refine ⟨_, List.mem_cons_self, ?_⟩
    have raised := failed rfl
    cases outcome : (world.reply environment target true).outcome with
    | done => simp [World.succeeds, outcome] at raised
    | raised exception tookEffect =>
        rw [outcome] at took
        rcases took with ⟨rfl, effective⟩
        cases (show tookEffect = true from effective)
        exact ⟨exception, rfl⟩
  · rcases confessed idle direction stray with ⟨event, among, raised⟩
    exact ⟨event, List.mem_cons_of_mem _ among, raised⟩

theorem Confessed.logged {config : Config} {world next : World}
    (confessed : Confessed config world)
    (action : next.actuator.action = world.actuator.action) (time : ℚ)
    (kind : EventKind) (neutral : kind.isNeutral = true)
    (log : next.log = ⟨time, kind⟩ :: world.log) : Confessed config next := by
  intro idle direction stray
  rw [log, strayOn_neutral neutral] at stray
  rcases confessed (action.symm.trans idle) direction stray with ⟨event, among, raised⟩
  exact ⟨event, log ▸ List.mem_cons_of_mem _ among, raised⟩

theorem Confessed.refused {config : Config} {environment : Environment}
    (tame : environment.Tame) (distinct : config.nodePlugHeat ≠ config.nodePlugCool)
    {wanted : Action} {world switched : World} (confessed : Confessed config world)
    (different : wanted ≠ world.actuator.action)
    (switching : (switch config environment wanted).run world = .ok false switched) :
    Confessed config switched := by
  rcases wanted.idle_or_direction with rfl | ⟨direction, rfl⟩
  · rw [switch_idle_run tame, EStateM.Result.ok.injEq] at switching
    rcases switching with ⟨-, rfl⟩
    exact fun idle => absurd idle.symm different
  · rw [switch_action_run tame distinct] at switching
    split at switching
    · simp only [EStateM.Result.ok.injEq] at switching
      rcases switching with ⟨failed, rfl⟩
      exact (confessed.sent (by simp)).sent fun _ => failed
    · cases switching
      exact confessed.sent (by simp)

theorem confessed_performed [Rounding] {config : Config} {environment : Environment}
    (tame : environment.Tame) (distinct : config.nodePlugHeat ≠ config.nodePlugCool)
    (world : World) (call : ActuatorCall) (confessed : Confessed config world) :
    Confessed config (performed config environment world call) := by
  have moved (now : ℚ) : Confessed config { world with now } := confessed
  have ticked (now : ℚ) : Confessed config (World.logged { world with now } .ticked) :=
    (moved now).logged rfl _ _ rfl rfl
  have planned (start : World) (now : ℚ) (decided : ActuatorPlan)
      (confessed : Confessed config start) :
      Confessed config (start.planned config now decided) :=
    confessed.logged (Actuator.advanceWindow_action _ _ _) _ _ rfl rfl
  have settled (switched : World) (wanted : Action) (now : ℚ) (points : Nat) :
      Confessed config (switched.settled wanted now points) :=
    fun _ _ stray => absurd stray (by simp [World.settled, strayOn])
  have result := performed_result config tame world call
  generalize performed config environment world call = after at result ⊢
  cases result with
  | effortSet effort now => exact (moved now).logged rfl _ _ rfl rfl
  | planned now decided => exact planned _ now decided (moved now)
  | unchanged now decided => exact planned _ now decided (ticked now)
  | refused now decided _ _ different switching =>
      exact (planned _ now decided (ticked now)).refused tame distinct
        (by simpa using different) switching
  | switched now decided after points => exact settled after _ now points
  | alreadyIdle now => exact moved now
  | idleRefused now _ _ active switching =>
      exact (moved now).refused tame distinct active.symm switching
  | idled now _ after points => exact settled after _ now points

/-- An ON command that raised although it had reached its plug. -/
def EventKind.strays : EventKind → Bool
  | .setPlug _ true (.raised _ true) => true
  | _ => false

/-- Where no ON command has strayed, an IDLE actuator has both plugs OFF. -/
theorem bothOff_of_noneStrays [Rounding] {config : Config} {environment : Environment}
    (tame : environment.Tame) (distinct : config.nodePlugHeat ≠ config.nodePlugCool)
    {start : ℚ} {initialPlugs : Int → Bool} {ready : World}
    (initialized : InitializedAt config environment start initialPlugs ready)
    (calls : List ActuatorCall)
    (idle : (runCalls config environment ready calls).actuator.action = .idle)
    (none : ∀ event ∈ (runCalls config environment ready calls).log,
      event.kind.strays = false) :
    BothOff config (runCalls config environment ready calls).plugs := by
  have accounted := runCalls_invariant (accounted_rules config environment).performed
    (accounted_of_bothOff initialized.bothOff.2) calls
  have confessed : Confessed config (runCalls config environment ready calls) := by
    refine runCalls_invariant (confessed_performed tame distinct) ?_ calls
    exact fun _ direction stray => absurd stray
      (by simp [not_strayOn_of_bothOff initialized.bothOff.2])
  refine bothOff_iff.mpr fun direction => ?_
  rw [accounted idle direction]
  refine Bool.eq_false_iff.mpr fun stray => ?_
  rcases confessed idle direction stray with ⟨event, among, exception, raised⟩
  exact absurd (none event among) (by simp [raised, EventKind.strays])

/-! ## Idle decisions whose commands succeed -/

/-- Every plug command issued between the two worlds succeeded. -/
def NoneFailed (earlier later : World) : Prop :=
  ∀ event ∈ earlier.eventsSince later, event.kind.isFailure = false

instance (earlier later : World) : Decidable (NoneFailed earlier later) :=
  inferInstanceAs (Decidable (∀ event ∈ earlier.eventsSince later, _))

theorem noneFailed_iff {earlier later : World} (added : List Event)
    (log : later.log = added ++ earlier.log) :
    NoneFailed earlier later ↔ ∀ event ∈ added, event.kind.isFailure = false := by
  rw [NoneFailed, World.eventsSince_eq log]

theorem failed_of_switch_idle {config : Config} {environment : Environment}
    (tame : environment.Tame) {earlier world switched : World} (added : List Event)
    (log : world.log = added ++ earlier.log)
    (switching : (switch config environment .idle).run world = .ok false switched) :
    ¬NoneFailed earlier switched := by
  rw [switch_idle_run tame, EStateM.Result.ok.injEq, Bool.and_eq_false_iff] at switching
  rcases switching with ⟨failed, rfl⟩
  intro noneFailed
  set heatOff := world.sent environment config.nodePlugHeat false
  rw [noneFailed_iff (heatOff.commandEvent environment config.nodePlugCool false ::
    world.commandEvent environment config.nodePlugHeat false :: added)
    (by simp [heatOff, log])] at noneFailed
  rcases failed with failed | failed
  · have done := noneFailed _ (List.mem_cons_of_mem _ List.mem_cons_self)
    exact absurd failed (by simp [World.succeeds_iff, done])
  · have done := noneFailed _ List.mem_cons_self
    exact absurd failed (by simp [World.succeeds_iff, done])

/-- Idle decisions leave the plugs OFF unless one was stray before. -/
theorem idle_decision_turns_off_iff [Rounding] {config : Config} {environment : Environment}
    (tame : environment.Tame) {start : ℚ} {initialPlugs : Int → Bool} {ready : World}
    (initialized : InitializedAt config environment start initialPlugs ready)
    (calls : List ActuatorCall) (now : ℚ) {decided : ActuatorPlan}
    (plans : config.Plans now (runCalls config environment ready calls).actuator decided)
    (idle : decided.requestedAction = .idle)
    (succeeded : NoneFailed (runCalls config environment ready calls)
      (runCalls config environment ready (calls ++ [.tick now]))) :
    (BothOff config (runCalls config environment ready (calls ++ [.tick now])).plugs ↔
      ((runCalls config environment ready calls).actuator.action = .idle →
        ∀ direction, strayOn (config.node direction)
          (runCalls config environment ready calls).log = false)) ∧
    (config.nodePlugHeat ≠ config.nodePlugCool →
      (∀ event ∈ (runCalls config environment ready calls).log,
        event.kind.strays = false) →
      BothOff config (runCalls config environment ready (calls ++ [.tick now])).plugs) := by
  rw [runCalls_append, runCalls_cons, runCalls_nil] at *
  have accounted := runCalls_invariant (accounted_rules config environment).performed
    (accounted_of_bothOff initialized.bothOff.2) calls
  have noneStrays (distinct : config.nodePlugHeat ≠ config.nodePlugCool) :=
    bothOff_of_noneStrays tame distinct initialized calls
  set world := runCalls config environment ready calls
  have exact : BothOff config (performed config environment world (.tick now)).plugs ↔
      (world.actuator.action = .idle →
        ∀ direction, strayOn (config.node direction) world.log = false) := by
    have result := performed_result config tame world (.tick now)
    generalize performed config environment world (.tick now) = after
      at result succeeded ⊢
    cases result with
    | unchanged _ other otherPlans same =>
        cases plans.unique otherPlans
        have wasIdle : world.actuator.action = .idle := same.symm.trans idle
        rw [forall_prop_of_true wasIdle, bothOff_iff]
        exact forall_congr' fun direction => by rw [← accounted wasIdle direction]; rfl
    | refused _ other _ otherPlans different switching =>
        cases plans.unique otherPlans
        rw [idle] at switching
        exact absurd succeeded (failed_of_switch_idle tame [_, _] rfl switching)
    | switched _ other after points otherPlans different switching =>
        cases plans.unique otherPlans
        rw [idle] at switching different
        have off : BothOff config after.plugs := bothOff_of_switch_idle tame switching
        exact iff_of_true off fun wasIdle => absurd wasIdle.symm different
  refine ⟨exact, fun distinct none => exact.mpr fun wasIdle => ?_⟩
  exact not_strayOn_of_bothOff (noneStrays distinct wasIdle none)

section

open Binary64

theorem idle_decision_turns_off_deadband :
    BothOff Config.shipped (runCalls Config.shipped .obedient
      (readyAt Config.shipped .obedient 0 fun _ => true)
      ([.setEffort 1 0, .tick 0, .setEffort 0 60] ++ [.tick 60])).plugs := by
  have initialized : InitializedAt Config.shipped .obedient 0 (fun _ => true)
      (readyAt Config.shipped .obedient 0 fun _ => true) := ⟨_, rfl⟩
  have plans : Config.shipped.Plans 60 (runCalls Config.shipped .obedient
      (readyAt Config.shipped .obedient 0 fun _ => true)
      [.setEffort 1 0, .tick 0, .setEffort 0 60]).actuator
      ⟨.idle, 0, 0, 0, 1800, .deadband⟩ := by decide +kernel
  exact (idle_decision_turns_off_iff Environment.obedient_tame initialized
    _ 60 plans rfl (by decide +kernel)).2 (by decide) (by decide +kernel)

/-- Every ON command reaches its plug and then times out. -/
def Environment.lateOn : Environment :=
  instantly fun _ _ on => if on then .raised .timeoutExpired true else .done

theorem Environment.lateOn_tame : lateOn.Tame := by
  refine instantly_tame fun world node on exception tookEffect raised => ?_
  cases on with
  | false => cases raised
  | true =>
      cases raised
      rfl

/-- The ON command of the first tick is reported as timed out, so the action
stays IDLE. When the effort falls into the deadband, `tick` finds nothing to
do, and the heater stays ON. -/
theorem idle_decision_leaves_heater_on :
    ¬∀ (config : Config) (environment : Environment) (start now : ℚ)
      (initialPlugs : Int → Bool) (ready : World) (calls : List ActuatorCall)
      (decided : ActuatorPlan),
      environment.Tame → config.nodePlugHeat ≠ config.nodePlugCool →
      InitializedAt config environment start initialPlugs ready →
      config.Plans now (runCalls config environment ready calls).actuator decided →
      decided.requestedAction = .idle →
      NoneFailed (runCalls config environment ready calls)
        (runCalls config environment ready (calls ++ [.tick now])) →
      BothOff config (runCalls config environment ready (calls ++ [.tick now])).plugs := by
  intro claimed
  have off := claimed Config.shipped .lateOn 0 60 (fun _ => false)
    (readyAt Config.shipped .lateOn 0 fun _ => false)
    [.setEffort 1 0, .tick 0, .setEffort 0 60] ⟨.idle, 0, 0, 0, 1800, .deadband⟩
    Environment.lateOn_tame (by decide) ⟨_, rfl⟩ (by decide +kernel) rfl
    (by decide +kernel)
  exact absurd off (by decide +kernel)

end

end BuranBrew.Host

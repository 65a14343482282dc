import BuranBrew.Host.Runs

/-! # The reported state

A switch to IDLE sends two OFF commands. When one of them fails the action
stays what it was, although the other command may have turned off the very
plug that the action stands for.
-/

namespace BuranBrew.Host

open Execution TimeProportionalActuator

/-- The last successful command to the plug of the current action was ON. -/
def Truthful (config : Config) (world : World) : Prop :=
  ∀ direction : Direction, world.actuator.action = direction.action →
    lastSuccess (config.node direction) world.log = some true

def Energised (config : Config) (world : World) : Prop :=
  ∀ direction : Direction, world.actuator.action = direction.action →
    world.plugs (config.node direction) = true

def PlugOutcome.isDone : PlugOutcome → Bool
  | .done => true
  | .raised _ _ => false

/-- An OFF command to the plug of the current action counted although a command of the
same call failed. -/
def HalfSwitched (counts : PlugOutcome → Bool) (config : Config) (before after : World) :
    Prop :=
  ∃ direction : Direction, before.actuator.action = direction.action ∧
    (∃ event ∈ before.eventsSince after, ∃ outcome,
      event.kind = .setPlug (config.node direction) false outcome ∧ counts outcome = true) ∧
    ∃ event ∈ before.eventsSince after, event.kind.isFailure = true

/-! ## The commands that count -/

-- Either the successful commands count or those that have reached their plugs.
variable {counts : PlugOutcome → Bool} {initial : Int → Bool} {config : Config}
  {environment : Environment}

/-- The plugs as the commands that count have left them. -/
def leftBy (counts : PlugOutcome → Bool) (initial : Int → Bool) : List Event → Int → Bool
  | [] => initial
  | ⟨_, .setPlug node on outcome⟩ :: earlier =>
      if counts outcome then Function.update (leftBy counts initial earlier) node on
      else leftBy counts initial earlier
  | _ :: earlier => leftBy counts initial earlier

theorem leftBy_tookEffect (log : List Event) :
    leftBy PlugOutcome.tookEffect initial log = plugsAfter initial log := by
  induction log with
  | nil => rfl
  | cons event earlier induction =>
      rcases event with ⟨time, kind⟩
      cases kind <;> simp only [leftBy, plugsAfter, Event.apply, induction]

theorem leftBy_isDone (node : Int) (log : List Event) :
    leftBy PlugOutcome.isDone (fun _ => false) log node = true ↔
      lastSuccess node log = some true := by
  induction log with
  | nil => simp [leftBy, lastSuccess]
  | cons event earlier induction =>
      rcases event with ⟨time, kind⟩
      cases kind with
      | setPlug target on outcome =>
          cases outcome with
          | raised => simpa [leftBy, lastSuccess, PlugOutcome.isDone] using induction
          | done =>
              by_cases same : target = node
              · simp [leftBy, lastSuccess, PlugOutcome.isDone, same]
              · simpa [leftBy, lastSuccess, PlugOutcome.isDone, same, Ne.symm same]
                  using induction
      | _ => simpa [leftBy, lastSuccess] using induction

/-- The commands that count have left the plug of the current action ON. -/
def Reports (counts : PlugOutcome → Bool) (initial : Int → Bool) (config : Config)
    (world : World) : Prop :=
  ∀ direction : Direction, world.actuator.action = direction.action →
    leftBy counts initial world.log (config.node direction) = true

theorem truthful_iff_reports (world : World) :
    Truthful config world ↔ Reports PlugOutcome.isDone (fun _ => false) config world := by
  simp only [Truthful, Reports, leftBy_isDone]

theorem energised_iff_reports {world : World} (plugs : world.initialPlugs = initial) :
    Energised config world ↔ Reports PlugOutcome.tookEffect initial config world := by
  simp only [Energised, Reports, World.plugs, leftBy_tookEffect, plugs]

/-- As long as no ON command follows, a plug that is ON is lost exactly to an OFF command
that counts. -/
theorem leftBy_append_iff {node : Int} {added log : List Event}
    (noneOn : ∀ event ∈ added, ∀ outcome, event.kind ≠ .setPlug node true outcome)
    (before : leftBy counts initial log node = true) :
    leftBy counts initial (added ++ log) node = true ↔
      ∀ event ∈ added, ∀ outcome, event.kind = .setPlug node false outcome →
        counts outcome = false := by
  induction added with
  | nil => simpa using before
  | cons event added induction =>
      rcases event with ⟨time, kind⟩
      rcases List.forall_mem_cons.mp noneOn with ⟨headNoneOn, tailNoneOn⟩
      have tail := induction tailNoneOn
      rw [List.forall_mem_cons, List.cons_append]
      cases kind with
      | setPlug target on outcome =>
          by_cases same : target = node
          · subst same
            cases on with
            | true => exact absurd rfl (headNoneOn outcome)
            | false => cases counted : counts outcome <;> simp [leftBy, counted, tail]
          · cases counted : counts outcome <;>
              simp [leftBy, counted, same, Ne.symm same, tail]
      | _ => simpa [leftBy] using tail

theorem halfSwitched_iff {before after : World} (added : List Event)
    (log : after.log = added ++ before.log) :
    HalfSwitched counts config before after ↔
      ∃ direction : Direction, before.actuator.action = direction.action ∧
        (∃ event ∈ added, ∃ outcome,
          event.kind = .setPlug (config.node direction) false outcome ∧
            counts outcome = true) ∧
        ∃ event ∈ added, event.kind.isFailure = true := by
  rw [HalfSwitched, World.eventsSince_eq log]

theorem not_halfSwitched_of_idle {before after : World}
    (idle : before.actuator.action = .idle) : ¬HalfSwitched counts config before after := by
  intro half
  rcases half with ⟨direction, active, _⟩
  exact direction.action_ne_idle (active.symm.trans idle)

theorem HalfSwitched.tookEffect {before after : World}
    (half : HalfSwitched PlugOutcome.isDone config before after) :
    HalfSwitched PlugOutcome.tookEffect config before after := by
  rcases half with ⟨direction, active, ⟨event, among, outcome, sent, done⟩, failed⟩
  cases outcome with
  | done => exact ⟨direction, active, ⟨event, among, .done, sent, rfl⟩, failed⟩
  | raised => cases done

theorem reports_of_idle {world : World}
    (idle : world.actuator.action = .idle) : Reports counts initial config world :=
  fun direction active => absurd (active.symm.trans idle) direction.action_ne_idle

theorem truthful_of_idle {world : World} (idle : world.actuator.action = .idle) :
    Truthful config world :=
  fun direction active => absurd (active.symm.trans idle) direction.action_ne_idle

theorem energised_of_idle {world : World} (idle : world.actuator.action = .idle) :
    Energised config world :=
  fun direction active => absurd (active.symm.trans idle) direction.action_ne_idle

theorem reports_iff_of_kept {before after : World}
    (reports : Reports counts initial config before) (added : List Event)
    (log : after.log = added ++ before.log)
    (same : after.actuator.action = before.actuator.action)
    (noneOn : ∀ event ∈ added, ∀ node outcome, event.kind ≠ .setPlug node true outcome)
    (failed : ∀ event ∈ added, ∀ node outcome, event.kind = .setPlug node false outcome →
      ∃ event ∈ added, event.kind.isFailure = true) :
    Reports counts initial config after ↔ ¬HalfSwitched counts config before after := by
  rw [halfSwitched_iff added log]
  constructor
  · intro reportsAfter half
    rcases half with ⟨direction, active, ⟨event, among, outcome, sent, counted⟩, _⟩
    have last := reportsAfter direction (same.trans active)
    rw [log, leftBy_append_iff (fun event among => noneOn event among _)
      (reports direction active)] at last
    exact Bool.eq_false_iff.mp (last event among outcome sent) counted
  · intro notHalf direction active
    have activeBefore := same.symm.trans active
    rw [log, leftBy_append_iff (fun event among => noneOn event among _)
      (reports direction activeBefore)]
    intro event among outcome sent
    apply Bool.eq_false_iff.mpr
    exact fun counted => notHalf ⟨direction, activeBefore,
      ⟨event, among, outcome, sent, counted⟩, failed event among _ outcome sent⟩

theorem reports_iff_of_neutral {before after : World}
    (reports : Reports counts initial config before) (added : List Event)
    (log : after.log = added ++ before.log)
    (same : after.actuator.action = before.actuator.action)
    (neutral : ∀ event ∈ added, event.kind.isNeutral = true) :
    Reports counts initial config after ↔ ¬HalfSwitched counts config before after := by
  have noPlug (event : Event) (among : event ∈ added) (node : Int) (on : Bool)
      (outcome : PlugOutcome) : event.kind ≠ .setPlug node on outcome := by
    intro sent
    simpa [sent, EventKind.isNeutral] using neutral event among
  exact reports_iff_of_kept reports added log same
    (fun event among node => noPlug event among node true)
    (fun event among node outcome sent => absurd sent (noPlug event among node false outcome))

/-- A failed switch to IDLE keeps the report true unless it is a half switch. -/
theorem reports_iff_of_idleRefused (tame : environment.Tame) {before world after : World}
    (reports : Reports counts initial config before)
    (switching : (switch config environment .idle).run world = .ok false after)
    (added : List Event) (log : world.log = added ++ before.log)
    (neutral : ∀ event ∈ added, event.kind.isNeutral = true)
    (same : world.actuator.action = before.actuator.action) :
    Reports counts initial config after ↔ ¬HalfSwitched counts config before after := by
  rw [switch_idle_run tame, EStateM.Result.ok.injEq, Bool.and_eq_false_iff] at switching
  rcases switching with ⟨failed, rfl⟩
  set heatOff := world.sent environment config.nodePlugHeat false
  let first := world.commandEvent environment config.nodePlugHeat false
  let second := heatOff.commandEvent environment config.nodePlugCool false
  refine reports_iff_of_kept reports (second :: first :: added)
    (by simp [heatOff, first, second, log]) same ?_ fun _ _ _ _ _ => ?_
  · intro event among node outcome sent
    rcases List.mem_cons.mp among with rfl | among
    · cases sent
    rcases List.mem_cons.mp among with rfl | among
    · cases sent
    · simpa [sent, EventKind.isNeutral] using neutral event among
  · rw [World.succeeds_iff, World.succeeds_iff, Bool.not_eq_false', Bool.not_eq_false']
      at failed
    rcases failed with failed | failed
    · exact ⟨first, by simp, failed⟩
    · exact ⟨second, by simp, failed⟩

theorem reports_iff_of_idled (tame : environment.Tame) {before world after : World}
    (switching : (switch config environment .idle).run world = .ok true after)
    (added : List Event) (log : world.log = added ++ before.log)
    (neutral : ∀ event ∈ added, event.kind.isNeutral = true) (now : ℚ) (points : Nat) :
    Reports counts initial config (after.settled .idle now points) ↔
      ¬HalfSwitched counts config before (after.settled .idle now points) := by
  refine iff_of_true (reports_of_idle rfl) ?_
  rw [switch_idle_run tame, EStateM.Result.ok.injEq, Bool.and_eq_true] at switching
  rcases switching with ⟨⟨firstDone, secondDone⟩, rfl⟩
  set heatOff := world.sent environment config.nodePlugHeat false
  let first := world.commandEvent environment config.nodePlugHeat false
  let second := heatOff.commandEvent environment config.nodePlugCool false
  let became : Event := ⟨(heatOff.sent environment config.nodePlugCool false).now,
    .became .idle⟩
  rw [halfSwitched_iff (became :: second :: first :: added)
    (by simp [World.settled, heatOff, first, second, became, log])]
  rw [World.succeeds_iff, Bool.not_eq_true'] at firstDone secondDone
  intro half
  rcases half with ⟨direction, _, _, event, among, failed⟩
  rcases List.mem_cons.mp among with rfl | among
  · cases failed
  rcases List.mem_cons.mp among with rfl | among
  · exact absurd failed (by simp [second, secondDone])
  rcases List.mem_cons.mp among with rfl | among
  · exact absurd failed (by simp [first, firstDone])
  · have silent := neutral event among
    revert failed silent
    cases event.kind <;> simp [EventKind.isFailure, EventKind.isNeutral]

theorem leftBy_sent_of_succeeds (countsDone : counts .done = true) {world : World} {node : Int}
    {on : Bool} (success : world.succeeds environment node on = true) :
    leftBy counts initial (world.sent environment node on).log node = on := by
  have done : (world.reply environment node on).outcome = .done := by
    simpa [World.succeeds] using success
  rw [World.sent_log, World.commandEvent, done]
  simp [leftBy, countsDone]

theorem reports_of_activated (countsDone : counts .done = true) (tame : environment.Tame)
    (distinct : config.nodePlugHeat ≠ config.nodePlugCool) {direction : Direction}
    {world after : World}
    (switching : (switch config environment direction.action).run world = .ok true after)
    (now : ℚ) (points : Nat) :
    Reports counts initial config (after.settled direction.action now points) := by
  rw [switch_action_run tame distinct] at switching
  split at switching
  · rw [EStateM.Result.ok.injEq] at switching
    rcases switching with ⟨done, rfl⟩
    intro other active
    cases Direction.action_injective active
    exact leftBy_sent_of_succeeds countsDone done
  · cases switching

theorem reports_performed_iff [Rounding] (countsDone : counts .done = true)
    (tame : environment.Tame) (distinct : config.nodePlugHeat ≠ config.nodePlugCool)
    (world : World) (call : ActuatorCall)
    (reports : Reports counts initial config world) :
    Reports counts initial config (performed config environment world call) ↔
      ¬HalfSwitched counts config world (performed config environment world call) := by
  have result := performed_result config tame world call
  generalize performed config environment world call = after at result ⊢
  cases result with
  | effortSet effort now points =>
      exact reports_iff_of_neutral reports [_] rfl rfl (by simp [EventKind.isNeutral])
  | planned now decided =>
      exact reports_iff_of_neutral reports [_] rfl (by simp) (by simp [EventKind.isNeutral])
  | unchanged now decided =>
      exact reports_iff_of_neutral reports [_, _] rfl (by simp)
        (by simp [EventKind.isNeutral])
  | refused now decided _ plans different switching =>
      rcases decided.requestedAction.idle_or_direction with idle | ⟨direction, known⟩
      · rw [idle] at switching
        exact reports_iff_of_idleRefused tame reports switching [_, _] rfl
          (by simp [EventKind.isNeutral]) (by simp)
      · have wasIdle := plans.wasIdle known different
        have stillIdle := (switch_commanded tame switching).actuator
        exact iff_of_true (reports_of_idle (by simp [stillIdle, wasIdle]))
          (not_halfSwitched_of_idle wasIdle)
  | switched now decided after points plans different switching =>
      rcases decided.requestedAction.idle_or_direction with idle | ⟨direction, known⟩
      · rw [idle] at switching ⊢
        exact reports_iff_of_idled tame switching [_, _] rfl
          (by simp [EventKind.isNeutral]) now points
      · rw [known] at switching ⊢
        exact iff_of_true (reports_of_activated countsDone tame distinct switching now points)
          (not_halfSwitched_of_idle (plans.wasIdle known different))
  | alreadyIdle now => exact reports_iff_of_neutral reports [] rfl rfl (by simp)
  | idleRefused now _ _ active switching =>
      exact reports_iff_of_idleRefused tame reports switching [] rfl (by simp) rfl
  | idled now _ after points active switching =>
      exact reports_iff_of_idled tame switching [] rfl (by simp) now points

/-! ## Runs -/

theorem performed_initialPlugs [Rounding] (config : Config) (environment : Environment)
    (world : World) (call : ActuatorCall) :
    (performed config environment world call).initialPlugs = world.initialPlugs := by
  have rules : ActuatorInvariant config environment
      (fun later => later.initialPlugs = world.initialPlugs) :=
    ⟨fun _ => id, fun _ _ => id, fun _ _ _ => id, fun _ _ _ => id, fun _ _ _ _ => id,
      fun _ _ => id, fun _ _ same _ _ => same, fun _ same _ => same, fun _ _ same _ _ => same⟩
  exact rules.performed world call rfl

section Runs

variable (tame : environment.Tame) (distinct : config.nodePlugHeat ≠ config.nodePlugCool)

include tame distinct

theorem truthful_performed_iff [Rounding] (world : World) (call : ActuatorCall)
    (truthful : Truthful config world) :
    Truthful config (performed config environment world call) ↔
      ¬HalfSwitched PlugOutcome.isDone config world
        (performed config environment world call) := by
  rw [truthful_iff_reports] at truthful ⊢
  exact reports_performed_iff rfl tame distinct world call truthful

theorem energised_performed_iff [Rounding] (world : World) (call : ActuatorCall)
    (energised : Energised config world) :
    Energised config (performed config environment world call) ↔
      ¬HalfSwitched PlugOutcome.tookEffect config world
        (performed config environment world call) := by
  rw [energised_iff_reports rfl] at energised
  rw [energised_iff_reports (performed_initialPlugs config environment world call)]
  exact reports_performed_iff rfl tame distinct world call energised

/-- The last success is ON along a run exactly when no successful OFF command to the plug of
the action belongs to a switch that fails, and so is the plug itself exactly when no such
command takes effect. Then a tick that repeats the action finds its plug ON. -/
theorem reported_state_real_iff [Rounding] {start : ℚ} {initialPlugs : Int → Bool} {ready : World}
    (initialized : InitializedAt config environment start initialPlugs ready)
    (calls : List ActuatorCall) :
    ((∀ done rest, calls = done ++ rest →
        Truthful config (runCalls config environment ready done)) ↔
      ∀ done call rest, calls = done ++ call :: rest →
        ¬HalfSwitched PlugOutcome.isDone config (runCalls config environment ready done)
          (performed config environment (runCalls config environment ready done) call)) ∧
    ((∀ done rest, calls = done ++ rest →
        Truthful config (runCalls config environment ready done) ∧
          Energised config (runCalls config environment ready done)) ↔
      ∀ done call rest, calls = done ++ call :: rest →
        ¬HalfSwitched PlugOutcome.tookEffect config (runCalls config environment ready done)
          (performed config environment (runCalls config environment ready done) call)) ∧
    (Energised config (runCalls config environment ready calls) →
      ∀ now decided direction,
        config.Plans now (runCalls config environment ready calls).actuator decided →
        decided.requestedAction = (runCalls config environment ready calls).actuator.action →
        decided.requestedAction = Direction.action direction →
        (runCalls config environment ready (calls ++ [.tick now])).plugs
          (config.node direction) = true) := by
  have idle := initialized.bothOff.1
  have truthful := runCalls_forall_iff (truthful_performed_iff tame distinct)
    (truthful_of_idle idle) calls
  have energised := runCalls_forall_iff (energised_performed_iff tame distinct)
    (energised_of_idle idle) calls
  refine ⟨truthful, ?_, ?_⟩
  · rw [← energised]
    constructor
    · exact fun both done rest split => (both done rest split).2
    · intro always done rest split
      have noneHalf := energised.mp always
      refine ⟨truthful.mpr ?_ done rest split, always done rest split⟩
      exact fun done call rest split half => noneHalf done call rest split half.tookEffect
  · intro energised now decided direction plans same requested
    have on := energised direction (same.symm.trans requested)
    rw [runCalls_append, runCalls_cons, runCalls_nil]
    have result := performed_result config tame (runCalls config environment ready calls)
      (.tick now)
    generalize performed config environment (runCalls config environment ready calls)
      (.tick now) = after at result ⊢
    cases result with
    | unchanged => exact on
    | refused _ other _ otherPlans different =>
        cases plans.unique otherPlans
        exact absurd same different
    | switched _ other _ _ otherPlans different =>
        cases plans.unique otherPlans
        exact absurd same different

end Runs

section

open Binary64

theorem reported_state_real_iff_heating :
    (runCalls Config.shipped .obedient
      (readyAt Config.shipped .obedient 0 fun _ => true)
      ([.setEffort 1 0, .tick 0] ++ [.tick 60])).plugs 11 = true := by
  have initialized : InitializedAt Config.shipped .obedient 0 (fun _ => true)
      (readyAt Config.shipped .obedient 0 fun _ => true) := ⟨_, rfl⟩
  have energised : Energised Config.shipped (runCalls Config.shipped .obedient
      (readyAt Config.shipped .obedient 0 fun _ => true) [.setEffort 1 0, .tick 0]) := by
    rintro (_ | _) active
    · decide +kernel
    · exact absurd active (by decide +kernel)
  have plans : Config.shipped.Plans 60 (runCalls Config.shipped .obedient
      (readyAt Config.shipped .obedient 0 fun _ => true)
      [.setEffort 1 0, .tick 0]).actuator ⟨.heat, 1, 1, 1800, 1800, .dutyOn⟩ := by
    decide +kernel
  exact (reported_state_real_iff Environment.obedient_tame (by decide) initialized _).2.2
    energised 60 _ .heat plans (by decide +kernel) rfl

/-- The cooler's plug stops answering OFF commands after the start. -/
def Environment.deafCooler : Environment :=
  instantly fun world node on =>
    if node = 12 ∧ on = false ∧ 0 < world.now then .raised .runtimeError false else .done

theorem Environment.deafCooler_tame : deafCooler.Tame := by
  refine instantly_tame fun world node on exception tookEffect raised => ?_
  split at raised
  · cases raised
    rfl
  · cases raised

/-- When the effort falls into the deadband, the heater is switched OFF but the
cooler's OFF command fails, so the action stays HEAT. The next effort asks for
HEAT again, and `tick` finds nothing to do while the heater is OFF. -/
theorem reported_state_not_real :
    ¬∀ (config : Config) (environment : Environment) (start : ℚ)
      (initialPlugs : Int → Bool) (ready : World) (calls : List ActuatorCall),
      environment.Tame → config.nodePlugHeat ≠ config.nodePlugCool →
      InitializedAt config environment start initialPlugs ready →
      ActuatorCall.Nondecreasing start calls →
      Truthful config (runCalls config environment ready calls) := by
  intro claimed
  have initialized := initializedAt_readyAt Environment.deafCooler_tame 0
    (fun _ => false) (show World.succeeds _ _ Config.shipped.nodePlugHeat false = true by
      decide +kernel) (by decide +kernel)
  have heating := claimed Config.shipped .deafCooler 0 (fun _ => false) _
    [.setEffort 1 0, .tick 0, .setEffort 0 60, .tick 60, .setEffort 1 120, .tick 120]
    Environment.deafCooler_tame (by decide) initialized (by decide +kernel) .heat
    (by decide +kernel)
  exact absurd heating (by decide +kernel)

end

end BuranBrew.Host

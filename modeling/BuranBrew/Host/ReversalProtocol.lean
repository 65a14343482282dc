import BuranBrew.Foundation.History
import BuranBrew.Host.Moves

/-! # The reversal protocol

The transitions that the actuator reports, whatever its commands raise. Reports are listed
newest first, each with the time that was passed to the call.
-/

namespace BuranBrew.Host

open Execution TimeProportionalActuator History

variable {config : Config} {environment : Environment}

theorem Direction.action_ne_opposite (direction : Direction) :
    direction.action ≠ direction.opposite.action := by
  cases direction <;> decide

section Reports

variable [Rounding]

def transitions (config : Config) (environment : Environment) (world : World) :
    List ActuatorCall → List (ℚ × Action)
  | [] => []
  | call :: calls =>
      transitions config environment (performed config environment world call) calls ++
        ((returned config environment world call).map fun transition =>
          (call.now, transition.action)).toList

/-! ## The protocol -/

/-- Reports in which every period of HEAT or COOL follows one of IDLE, a long one when the
direction before it was the other. -/
inductive Protocol (reverseIdleS : ℚ) : List (ℚ × Action) → Prop
  | startup (time : ℚ) : Protocol reverseIdleS [(time, .idle)]
  | first (time later : ℚ) (direction : Direction) :
      Protocol reverseIdleS [(later, direction.action), (time, .idle)]
  | rest (time later : ℚ) (direction : Direction) (earlier : List (ℚ × Action))
      (before : Protocol reverseIdleS ((time, direction.action) :: earlier)) :
      Protocol reverseIdleS ((later, .idle) :: (time, direction.action) :: earlier)
  | again (since later : ℚ) (direction : Direction) (last : ℚ × Action)
      (earlier : List (ℚ × Action))
      (before : Protocol reverseIdleS ((since, .idle) :: last :: earlier))
      (rested : direction.action ≠ last.2 → reverseIdleS ≤ fl (later - since)) :
      Protocol reverseIdleS
        ((later, direction.action) :: (since, .idle) :: last :: earlier)

def Alternates (report : ℚ × Action) (earlier : List (ℚ × Action)) : Prop :=
  ∀ last rest, earlier = last :: rest →
    report.2 ≠ last.2 ∧ (report.2 = .idle ∨ last.2 = .idle)

/-- Between the last period of the opposite direction and the next one of this direction
lies a span of IDLE that is long enough. -/
def RestsBetween (reverseIdleS : ℚ) (report : ℚ × Action)
    (earlier : List (ℚ × Action)) : Prop :=
  ∀ (direction : Direction) between opposed rest, report.2 = direction.action →
    earlier = between ++ opposed :: rest → opposed.2 = direction.opposite.action →
    (∀ other ∈ between, other.2 ≠ direction.action) →
    ∃ since later, between = (since, .idle) :: later ∧ reverseIdleS ≤ fl (report.1 - since)

namespace Protocol

variable {reverseIdleS : ℚ} {reports : List (ℚ × Action)}

theorem alternates (protocol : Protocol reverseIdleS reports) :
    Throughout Alternates reports := by
  induction protocol with
  | startup time => simp [Alternates]
  | first time later direction => simp [Alternates]
  | rest time later direction earlier before induction =>
      rw [throughout_cons]
      constructor
      · intro last rest same
        cases same
        exact ⟨direction.action_ne_idle.symm, .inl rfl⟩
      · exact induction
  | again since later direction last earlier before rested induction =>
      rw [throughout_cons]
      constructor
      · intro previous rest same
        cases same
        exact ⟨direction.action_ne_idle, .inr rfl⟩
      · exact induction

theorem restsBetween_idle (later : ℚ) (earlier : List (ℚ × Action)) :
    RestsBetween reverseIdleS (later, .idle) earlier :=
  fun direction _ _ _ idle => absurd idle.symm direction.action_ne_idle

theorem restsBetween (protocol : Protocol reverseIdleS reports) :
    Throughout (RestsBetween reverseIdleS) reports := by
  induction protocol with
  | startup time =>
      rw [throughout_cons]
      exact ⟨restsBetween_idle time [], throughout_nil⟩
  | first time later direction =>
      rw [throughout_cons, throughout_cons]
      constructor
      · intro wanted between opposed rest _ split opposite _
        have among : opposed ∈ [(time, Action.idle)] := by
          rw [split]
          simp
        rw [List.mem_singleton.mp among] at opposite
        exact absurd opposite.symm wanted.opposite.action_ne_idle
      · exact ⟨restsBetween_idle time [], throughout_nil⟩
  | rest time later direction earlier before induction =>
      rw [throughout_cons]
      exact ⟨restsBetween_idle later _, induction⟩
  | again since later direction last earlier before rested induction =>
      rw [throughout_cons]
      constructor
      · intro wanted between opposed rest active split opposite other
        cases between with
        | nil =>
            cases split
            exact absurd opposite.symm wanted.opposite.action_ne_idle
        | cons head between =>
            rw [List.cons_append, List.cons.injEq] at split
            rcases split with ⟨rfl, split⟩
            refine ⟨since, between, rfl, rested ?_⟩
            rw [show direction.action = wanted.action from active]
            cases between with
            | nil =>
                cases split
                rw [opposite]
                exact wanted.action_ne_opposite
            | cons next between =>
                cases split
                exact (other last (by simp)).symm
      · exact induction

end Protocol

/-! ## The reports of the actuator -/

structure Reported (config : Config) (reports : List (ℚ × Action)) (actuator : Actuator) :
    Prop where
  protocol : Protocol config.control.reverseIdleS reports
  last : ∃ time earlier, reports = (time, actuator.action) :: earlier ∧
    (actuator.action = .idle → actuator.idleSince = some time ∧
      ∀ previous rest, earlier = previous :: rest →
        actuator.lastActiveDirection = some previous.2)

namespace Reported

variable {reports : List (ℚ × Action)} {before after : Actuator}

theorem unchanged (reported : Reported config reports before)
    (action : after.action = before.action) (idleSince : after.idleSince = before.idleSince)
    (last : after.lastActiveDirection = before.lastActiveDirection) :
    Reported config reports after := by
  constructor
  · exact reported.protocol
  · rw [action, idleSince, last]
    exact reported.last

theorem settled_idle (reported : Reported config reports before)
    (active : before.action ≠ .idle) (now : ℚ) :
    Reported config ((now, .idle) :: reports) (before.settled .idle now) := by
  rcases before.action.idle_or_direction with idle | ⟨direction, heading⟩
  · exact absurd idle active
  · have ends : before.action.isActive = true ∧ Action.idle ≠ before.action := by
      rw [heading]
      exact ⟨direction.isActive_action, direction.action_ne_idle.symm⟩
    rcases reported.last with ⟨time, earlier, reports, _⟩
    have protocol := reported.protocol
    rw [reports, heading] at protocol ⊢
    constructor
    · exact .rest time now direction earlier protocol
    · refine ⟨now, (time, direction.action) :: earlier, rfl, fun _ => ?_⟩
      unfold Actuator.settled
      rw [if_pos ends]
      constructor
      · rfl
      · intro previous rest same
        cases same
        exact congrArg some heading

theorem settled_direction (reported : Reported config reports before)
    (idle : before.action = .idle) {direction : Direction} {now : ℚ}
    (unlocked : ∀ last since, before.lastActiveDirection = some last →
      before.idleSince = some since → direction.action ≠ last →
      config.control.reverseIdleS ≤ fl (now - since)) :
    Reported config ((now, direction.action) :: reports)
      (before.settled direction.action now) := by
  rcases reported.last with ⟨time, earlier, reports, resting⟩
  rcases resting idle with ⟨since, remembered⟩
  have protocol := reported.protocol
  rw [reports, idle] at protocol ⊢
  constructor
  · cases earlier with
    | nil => exact .first time now direction
    | cons previous rest =>
        exact .again time now direction previous rest protocol fun opposed =>
          unlocked previous.2 time (remembered previous rest rfl) since opposed
  · refine ⟨now, (time, .idle) :: earlier, rfl, fun idle => ?_⟩
    exact absurd idle direction.action_ne_idle

theorem moves (reported : Reported config reports before) {call : ActuatorCall}
    {transition : Option ActuatorTransition}
    (moves : Moves config before call after transition) :
    Reported config
      ((transition.map fun transition => (call.now, transition.action)).toList ++ reports)
      after := by
  cases moves with
  | effortSet effort now => exact reported.unchanged rfl rfl rfl
  | planned now =>
      exact reported.unchanged (Actuator.advanceWindow_action _ _ _)
        (Actuator.advanceWindow_idleSince _ _ _)
        (Actuator.advanceWindow_lastActiveDirection _ _ _)
  | stayed now =>
      exact reported.unchanged (Actuator.advanceWindow_action _ _ _)
        (Actuator.advanceWindow_idleSince _ _ _)
        (Actuator.advanceWindow_lastActiveDirection _ _ _)
  | switched now decided plans different =>
      have advanced : Reported config reports
          (before.advanceWindow config.control.windowS now) :=
        reported.unchanged (Actuator.advanceWindow_action _ _ _)
          (Actuator.advanceWindow_idleSince _ _ _)
          (Actuator.advanceWindow_lastActiveDirection _ _ _)
      rcases decided.requestedAction.idle_or_direction with idle | ⟨direction, requested⟩
      · have active : (before.advanceWindow config.control.windowS now).action ≠ .idle := by
          rw [Actuator.advanceWindow_action, ← idle]
          exact different.symm
        rw [idle]
        exact advanced.settled_idle active now
      · have idle : (before.advanceWindow config.control.windowS now).action = .idle := by
          rw [Actuator.advanceWindow_action]
          exact plans.wasIdle requested different
        have requests := plans.requests requested
        rw [requested]
        exact advanced.settled_direction idle requests.unlocked
  | kept now reason => exact reported
  | idled now reason active => exact reported.settled_idle active now

end Reported

theorem reported_runCalls (config : Config) (quiet : environment.Quiet)
    (calls : List ActuatorCall) {reports : List (ℚ × Action)} {world : World}
    (reported : Reported config reports world.actuator) :
    Reported config (transitions config environment world calls ++ reports)
      (runCalls config environment world calls).actuator := by
  induction calls generalizing reports world with
  | nil => exact reported
  | cons call calls induction =>
      have next := reported.moves (performed_moves config quiet world call)
      have rest := induction next
      rw [transitions, runCalls_cons, List.append_assoc]
      exact rest

/-- The reported transitions obey the reversal protocol, and the last one tells the
action. -/
theorem transitions_obey_protocol (config : Config) (quiet : environment.Quiet)
    {start : ℚ} {plugs : Int → Bool} {ready : World} {first : ActuatorTransition}
    (initialized : (initializeActuator config environment start).run
      (World.fresh start plugs) = .ok first ready) (calls : List ActuatorCall) :
    let reports := transitions config environment ready calls ++ [(start, first.action)]
    Throughout Alternates reports ∧
      Throughout (RestsBetween config.control.reverseIdleS) reports ∧
      ∃ time earlier,
        reports = (time, (runCalls config environment ready calls).actuator.action) ::
          earlier := by
  rcases initialized_actuator quiet initialized with ⟨startup, actuator⟩
  have reported : Reported config [(start, first.action)] ready.actuator := by
    rw [startup, actuator]
    constructor
    · exact .startup start
    · exact ⟨start, [], rfl, fun _ => ⟨rfl, by simp⟩⟩
  have run := reported_runCalls config quiet calls reported
  rcases run.last with ⟨time, earlier, reports, _⟩
  exact ⟨run.protocol.alternates, run.protocol.restsBetween, time, earlier, reports⟩

end Reports

section

open Binary64

theorem transitions_obey_protocol_reversal :
    Throughout Alternates
      (transitions Config.shipped .obedient (readyAt Config.shipped .obedient 0 fun _ => true)
        [.setEffort 1 0, .tick 0, .setEffort (-1) 60, .tick 60, .tick 70] ++ [(0, .idle)]) :=
  (transitions_obey_protocol Config.shipped Environment.obedient_tame.quiet rfl
    [.setEffort 1 0, .tick 0, .setEffort (-1) 60, .tick 60, .tick 70]).1

end

end BuranBrew.Host

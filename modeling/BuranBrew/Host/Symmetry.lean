import BuranBrew.Host.ControlPath
import BuranBrew.Host.Mirror

/-! # Heat and cool are symmetric

Two runs of the control path, the second with reflected temperatures and with the outcomes
of the two plugs exchanged.
-/

namespace BuranBrew.Host

open Exact TimeProportionalActuator

/-- The other plug. -/
def Config.exchanged (config : Config) (node : Int) : Int :=
  if node = config.nodePlugHeat then config.nodePlugCool
  else if node = config.nodePlugCool then config.nodePlugHeat
  else node

def Command.mirror (config : Config) (command : Command) : Command :=
  { command with node := config.exchanged command.node }

def ActuatorCall.mirror : ActuatorCall → ActuatorCall
  | .setEffort effort now => .setEffort (-effort) now
  | call => call

def ControlCall.mirror (config : Config) : ControlCall → ControlCall
  | .initializeActuator now => .initializeActuator now
  | .steer call => .steer (call.reflected config)
  | .actuate call => .actuate call.mirror

def Answer.mirror : Answer → Answer
  | .nothing => .nothing
  | .decision decided => .decision decided.mirror
  | .plan planned => .plan planned.mirror
  | .transition returned => .transition (returned.map ActuatorTransition.mirror)

def PathState.mirror (state : PathState) : PathState where
  controller := state.controller.mirror
  actuator := state.actuator.mirror

/-- A command to one plug succeeds if and only if the same command to the other plug does,
where both runs send it. -/
def OutcomesExchanged (config : Config) (commands commands' : List Command) : Prop :=
  ∀ command ∈ commands, ∀ command' ∈ commands',
    command'.node = config.exchanged command.node → command'.on = command.on →
      command'.succeeded = command.succeeded

instance (config : Config) (commands commands' : List Command) :
    Decidable (OutcomesExchanged config commands commands') :=
  inferInstanceAs (Decidable (∀ command ∈ commands, ∀ command' ∈ commands', _ → _ → _))

/-- What is seen of a call, with HEAT and COOL exchanged. The two plugs may be commanded in
another order. -/
structure Observation.Mirrors (config : Config) (seen seen' : Observation) : Prop where
  answer : seen'.answer = seen.answer.map Answer.mirror
  plans : seen'.plans = seen.plans.map ActuatorPlan.mirror
  commands : seen'.commands.Perm (seen.commands.map (Command.mirror config))

variable {config : Config}

theorem exchanged_node (distinct : config.nodePlugHeat ≠ config.nodePlugCool)
    (direction : Direction) :
    config.exchanged (config.node direction) = config.node direction.opposite := by
  cases direction with
  | heat => exact if_pos rfl
  | cool => exact (if_neg distinct.symm).trans (if_pos rfl)

theorem Config.Plans.mirror (valid : config.Valid)
    (minOn : config.control.heatMinOnS = config.control.coolMinOnS) {now : ℚ} {self : Actuator}
    {decided : ActuatorPlan} (plans : config.Plans now self decided) :
    config.Plans now self.mirror decided.mirror := by
  unfold Config.Plans at plans ⊢
  rw [Actuator.advanceWindow_mirror,
    Actuator.plan_mirror _ valid.control.effortDeadband_nonneg minOn, plans]
  rfl

namespace Switches

variable {commands commands' : List Command} {success success' : Bool}

theorem of_idle (switches : Switches config .idle commands success) :
    ∃ heatOff coolOff, commands =
        [⟨config.nodePlugCool, false, coolOff⟩, ⟨config.nodePlugHeat, false, heatOff⟩] ∧
      success = (heatOff && coolOff) := by
  generalize known : Action.idle = action at switches
  cases switches with
  | idle heatOff coolOff => exact ⟨heatOff, coolOff, rfl, rfl⟩
  | opposed direction => exact absurd known.symm direction.action_ne_idle
  | turned direction _ => exact absurd known.symm direction.action_ne_idle

theorem of_direction {direction : Direction}
    (switches : Switches config direction.action commands success) :
    commands = [⟨config.node direction.opposite, false, false⟩] ∧ success = false ∨
      commands = [⟨config.node direction, true, success⟩,
        ⟨config.node direction.opposite, false, true⟩] := by
  generalize known : direction.action = action at switches
  cases switches with
  | idle => exact absurd known direction.action_ne_idle
  | opposed =>
      cases Direction.action_injective known
      exact .inl ⟨rfl, rfl⟩
  | turned =>
      cases Direction.action_injective known
      exact .inr rfl

variable (distinct : config.nodePlugHeat ≠ config.nodePlugCool)
  (exchanged : OutcomesExchanged config commands commands')

include distinct exchanged

theorem mirror_idle (switches : Switches config .idle commands success)
    (switches' : Switches config .idle commands' success') :
    success' = success ∧ commands'.Perm (commands.map (Command.mirror config)) := by
  rcases switches.of_idle with ⟨heatOff, coolOff, rfl, rfl⟩
  rcases switches'.of_idle with ⟨heatOff', coolOff', rfl, rfl⟩
  have heat : config.exchanged config.nodePlugHeat = config.nodePlugCool :=
    exchanged_node distinct .heat
  have cool : config.exchanged config.nodePlugCool = config.nodePlugHeat :=
    exchanged_node distinct .cool
  have coolSame : coolOff' = heatOff := exchanged ⟨config.nodePlugHeat, false, heatOff⟩
    (by simp) ⟨config.nodePlugCool, false, coolOff'⟩ (by simp) heat.symm rfl
  have heatSame : heatOff' = coolOff := exchanged ⟨config.nodePlugCool, false, coolOff⟩
    (by simp) ⟨config.nodePlugHeat, false, heatOff'⟩ (by simp) cool.symm rfl
  rw [coolSame, heatSame]
  constructor
  · exact Bool.and_comm _ _
  · simp only [List.map_cons, List.map_nil, Command.mirror, heat, cool]
    exact List.Perm.swap _ _ _

theorem mirror_direction {direction : Direction}
    (switches : Switches config direction.action commands success)
    (switches' : Switches config direction.opposite.action commands' success') :
    success' = success ∧ commands'.Perm (commands.map (Command.mirror config)) := by
  have toward := exchanged_node distinct direction
  have against := exchanged_node distinct direction.opposite
  rw [Direction.opposite_opposite] at against
  have ways := switches'.of_direction
  rw [Direction.opposite_opposite] at ways
  rcases switches.of_direction with ⟨rfl, rfl⟩ | rfl
  · rcases ways with ⟨rfl, rfl⟩ | rfl
    · refine ⟨rfl, ?_⟩
      simp only [List.map_cons, List.map_nil, Command.mirror, against]
      exact List.Perm.refl _
    · have offSame : true = false := exchanged ⟨config.node direction.opposite, false, false⟩
        (by simp) ⟨config.node direction, false, true⟩ (by simp) against.symm rfl
      exact absurd offSame (by decide)
  · rcases ways with ⟨rfl, rfl⟩ | rfl
    · have offSame : false = true := exchanged ⟨config.node direction.opposite, false, true⟩
        (by simp) ⟨config.node direction, false, false⟩ (by simp) against.symm rfl
      exact absurd offSame (by decide)
    · have onSame : success' = success := exchanged ⟨config.node direction, true, success⟩
        (by simp) ⟨config.node direction.opposite, true, success'⟩ (by simp) toward.symm rfl
      refine ⟨onSame, ?_⟩
      simp only [List.map_cons, List.map_nil, Command.mirror, against, toward, onSame]
      exact List.Perm.refl _

theorem mirror {action : Action} (switches : Switches config action commands success)
    (switches' : Switches config action.mirror commands' success') :
    success' = success ∧ commands'.Perm (commands.map (Command.mirror config)) := by
  rcases action.idle_or_direction with rfl | ⟨direction, rfl⟩
  · exact mirror_idle distinct exchanged switches switches'
  · rw [direction.mirror_action] at switches'
    exact mirror_direction distinct exchanged switches switches'

end Switches

theorem PathState.advanced_mirror (now : ℚ) (state : PathState) :
    state.mirror.advanced config now = (state.advanced config now).mirror := by
  unfold advanced mirror
  rw [Actuator.advanceWindow_mirror]

theorem PathState.settled_mirror (wanted : Action) (now : ℚ) (state : PathState) :
    state.mirror.settled wanted.mirror now = (state.settled wanted now).mirror := by
  unfold settled mirror
  rw [Actuator.settled_mirror]

namespace PathStep

variable (valid : config.Valid) (distinct : config.nodePlugHeat ≠ config.nodePlugCool)
  (minOn : config.control.heatMinOnS = config.control.coolMinOnS)
  {state after after' : PathState} {call : ControlCall} {seen seen' : Observation}

include valid distinct minOn

theorem mirror (step : PathStep config state call seen after)
    (step' : PathStep config state.mirror (call.mirror config) seen' after')
    (exchanged : OutcomesExchanged config seen.commands seen'.commands) :
    seen.Mirrors config seen' ∧ after' = after.mirror := by
  have mirrored {now : ℚ} {decided decided' : ActuatorPlan}
      (plans : config.Plans now state.actuator decided)
      (plans' : config.Plans now state.mirror.actuator decided') : decided' = decided.mirror :=
    plans'.unique (plans.mirror valid minOn)
  cases step with
  | initialized now commands success switches =>
      cases step' with
      | initialized _ commands' success' switches' =>
          rcases switches.mirror_idle distinct exchanged switches' with ⟨rfl, perm⟩
          cases success'
          · exact ⟨⟨rfl, rfl, perm⟩, rfl⟩
          · refine ⟨⟨?_, rfl, perm⟩, rfl⟩
            simp [Answer.mirror, ActuatorTransition.mirror, ActuatorPlan.mirror, Except.map]
  | steered call =>
      cases step' with
      | steered =>
          have decision := state.controller.decision_mirror call valid
          have updated := state.controller.updated_mirror call valid
          refine ⟨⟨?_, rfl, List.Perm.refl _⟩, ?_⟩
          · change Except.ok (Answer.decision _) = Except.ok (Answer.decision _)
            rw [← decision]
            rfl
          · change PathState.mk (state.controller.mirror.updated config _)
              (state.actuator.mirror.effortSet config.control
                (state.controller.mirror.decision config (call.reflected config)).effort
                call.now) = _
            rw [updated, decision]
            exact congrArg (PathState.mk _) (Actuator.effortSet_mirror _ _)
  | effortSet effort now =>
      cases step' with
      | effortSet =>
          refine ⟨⟨rfl, rfl, List.Perm.refl _⟩, ?_⟩
          exact congrArg (PathState.mk _) (Actuator.effortSet_mirror _ _)
  | planned now decided plans =>
      cases step' with
      | planned _ decided' plans' =>
          cases mirrored plans plans'
          exact ⟨⟨rfl, rfl, List.Perm.refl _⟩, state.advanced_mirror now⟩
  | unchanged now decided plans same =>
      cases step' with
      | unchanged _ decided' plans' same' =>
          cases mirrored plans plans'
          exact ⟨⟨rfl, rfl, List.Perm.refl _⟩, state.advanced_mirror now⟩
      | switched _ decided' commands' success' plans' different' switches' =>
          cases mirrored plans plans'
          exact absurd (congrArg Action.mirror same) different'
  | switched now decided commands success plans different switches =>
      cases step' with
      | unchanged _ decided' plans' same' =>
          cases mirrored plans plans'
          exact absurd (Action.mirror_inj.mp same') different
      | switched _ decided' commands' success' plans' different' switches' =>
          cases mirrored plans plans'
          rcases switches.mirror distinct exchanged switches' with ⟨rfl, perm⟩
          rw [state.advanced_mirror now]
          cases success' with
          | false => exact ⟨⟨rfl, rfl, perm⟩, rfl⟩
          | true => exact ⟨⟨rfl, rfl, perm⟩, PathState.settled_mirror _ now _⟩
  | alreadyIdle now reason idle =>
      cases step' with
      | alreadyIdle => exact ⟨⟨rfl, rfl, List.Perm.refl _⟩, rfl⟩
      | idled _ _ commands' success' active' switches' =>
          exact absurd (Action.mirror_eq_idle.mpr idle) active'
  | idled now reason commands success active switches =>
      cases step' with
      | alreadyIdle _ _ idle' => exact absurd (Action.mirror_eq_idle.mp idle') active
      | idled _ _ commands' success' active' switches' =>
          rcases switches.mirror_idle distinct exchanged switches' with ⟨rfl, perm⟩
          cases success' with
          | false => exact ⟨⟨rfl, rfl, perm⟩, rfl⟩
          | true => exact ⟨⟨rfl, rfl, perm⟩, state.settled_mirror .idle now⟩

end PathStep

variable {one other : Environment}

/-- In every call of the two runs, corresponding commands have the same outcome. -/
def RunsExchanged (config : Config) (one other : Environment) (left right : World)
    (calls : List ControlCall) : Prop :=
  ∀ done call rest, calls = done ++ call :: rest →
    OutcomesExchanged config
      (observed config one (runPath config one left done) call).commands
      (observed config other (runPath config other right (done.map (·.mirror config)))
        (call.mirror config)).commands

section Runs

variable (distinct : config.nodePlugHeat ≠ config.nodePlugCool)
  (minOn : config.control.heatMinOnS = config.control.coolMinOnS) (tame : one.Tame)
  (tame' : other.Tame)

include distinct minOn tame tame'

theorem observed_mirror (valid : config.Valid) {left right : World}
    (related : right.path = left.path.mirror) (call : ControlCall)
    (exchanged : OutcomesExchanged config (observed config one left call).commands
      (observed config other right (call.mirror config)).commands) :
    (observed config one left call).Mirrors config
        (observed config other right (call.mirror config)) ∧
      (carriedOut config other right (call.mirror config)).path =
        (carriedOut config one left call).path.mirror := by
  have step := observed_steps tame distinct left call
  have step' := observed_steps tame' distinct right (call.mirror config)
  rw [related] at step'
  exact step.mirror valid distinct minOn step' exchanged

theorem path_mirror (valid : config.Valid) {left right : World}
    (related : right.path = left.path.mirror) {calls : List ControlCall}
    (exchanged : RunsExchanged config one other left right calls) (done rest : List ControlCall)
    (split : calls = done ++ rest) :
    (runPath config other right (done.map (·.mirror config))).path =
      (runPath config one left done).path.mirror := by
  induction done using List.reverseRecOn generalizing rest with
  | nil => exact related
  | append_singleton done call induction =>
      have splitBefore : calls = done ++ call :: rest := by simp [split]
      have before := induction (call :: rest) splitBefore
      have now := exchanged done call rest splitBefore
      rw [List.map_append, List.map_singleton, runPath_append, runPath_append]
      exact (observed_mirror distinct minOn tame tame' valid before call now).2

/-- With the outcomes of the plugs exchanged and the temperatures reflected about the
setpoint, the control path does the same with HEAT and COOL exchanged. -/
theorem heat_and_cool_are_symmetric (accepted : config.Accepted) (start : ℚ)
    (plugs plugs' : Int → Bool) (calls : List ControlCall)
    (exchanged : RunsExchanged config one other (World.fresh start plugs)
      (World.fresh start plugs') calls) :
    ∀ done call rest, calls = done ++ call :: rest →
      let left := runPath config one (World.fresh start plugs) done
      let right := runPath config other (World.fresh start plugs')
        (done.map (·.mirror config))
      (observed config one left call).Mirrors config
          (observed config other right (call.mirror config)) ∧
        (carriedOut config other right (call.mirror config)).path =
          (carriedOut config one left call).path.mirror := by
  intro done call rest split left right
  have related : right.path = left.path.mirror := by
    apply path_mirror distinct minOn tame tame' accepted.valid _ exchanged done (call :: rest)
      split
    simp [World.path, World.fresh, PathState.mirror, Controller.mirror, Actuator.mirror,
      Action.mirror]
  exact observed_mirror distinct minOn tame tame' accepted.valid related call
    (exchanged done call rest split)

end Runs

def Environment.stuckOff (stuck : Int) : Environment :=
  instantly fun _ node on => if node = stuck ∧ on = true then .raised .runtimeError false else .done

theorem Environment.stuckOff_tame (stuck : Int) : (stuckOff stuck).Tame := by
  apply instantly_tame
  intro world node on exception tookEffect raised
  split at raised
  · cases raised
    rfl
  · cases raised

theorem heat_and_cool_are_symmetric_stuck :
    (observed Config.shipped (.stuckOff 11)
        (runPath Config.shipped (.stuckOff 11) (World.fresh 0 fun _ => true)
          [.initializeActuator 0, .steer ⟨17, 18, 0⟩]) (.actuate (.tick 0))).Mirrors
      Config.shipped
      (observed Config.shipped (.stuckOff 12)
        (runPath Config.shipped (.stuckOff 12) (World.fresh 0 fun _ => false)
          [.initializeActuator 0, .steer ⟨21, 20, 0⟩]) (.actuate (.tick 0))) := by
  have exchanged : RunsExchanged Config.shipped (.stuckOff 11) (.stuckOff 12)
      (World.fresh 0 fun _ => true) (World.fresh 0 fun _ => false)
      [.initializeActuator 0, .steer ⟨17, 18, 0⟩, .actuate (.tick 0)] := by
    intro done call rest split
    rcases done with _ | ⟨first, _ | ⟨second, _ | ⟨third, done⟩⟩⟩
    · cases split
      decide +kernel
    · cases split
      decide +kernel
    · cases split
      decide +kernel
    · simp at split
  have mirrors := (heat_and_cool_are_symmetric (by decide) (by decide +kernel)
    (Environment.stuckOff_tame 11) (Environment.stuckOff_tame 12) Config.shipped_accepted 0
    (fun _ => true) (fun _ => false) _ exchanged
    [.initializeActuator 0, .steer ⟨17, 18, 0⟩] (.actuate (.tick 0)) [] rfl).1
  have calls : [ControlCall.initializeActuator 0, .steer ⟨17, 18, 0⟩].map
      (·.mirror Config.shipped) = [.initializeActuator 0, .steer ⟨21, 20, 0⟩] := by
    decide +kernel
  rw [calls] at mirrors
  exact mirrors

end BuranBrew.Host

import BuranBrew.Host.Rules

/-! # Invariants of the actuator

An invariant about plugs, log and action has to be checked for plug commands
and for changes of the action only; everything else the methods do is shown
here, once, not to matter. No assumption is made about the environment.
-/

namespace BuranBrew.Host

open Execution TimeProportionalActuator

/-- Invariants that only plug commands and changes of the action can endanger. -/
structure ActuatorInvariant (config : Config) (environment : Environment)
    (invariant : World → Prop) : Prop where
  pointFree : PointFree invariant
  moved : ∀ world now, invariant world → invariant { world with now }
  assigned : ∀ world actuator, actuator.action = world.actuator.action →
    invariant world → invariant { world with actuator }
  remembered : ∀ world controller loop, invariant world →
    invariant { world with controller, loop }
  logged : ∀ world time kind, kind.isNeutral = true → invariant world →
    invariant { world with log := ⟨time, kind⟩ :: world.log }
  sendsOff : ∀ world node, invariant world →
    invariant (world.sent environment node false)
  sendsOn : ∀ world direction, invariant world → world.actuator.action = .idle →
    (∀ other ∈ [config.nodePlugHeat, config.nodePlugCool],
      other ≠ config.node direction → world.plugs other = false) →
    invariant (world.sent environment (config.node direction) true)
  idled : ∀ world, invariant world → BothOff config world.plugs →
    invariant (world.become .idle)
  activated : ∀ world direction, invariant world →
    world.plugs (config.node direction) = true →
    lastSuccess (config.node direction) world.log = some true →
    invariant (world.become direction.action)

/-- Facts that assignments to attributes other than `_action` leave alone. -/
structure Settled (fact : World → Prop) : Prop where
  pointFree : PointFree fact
  assigned : ∀ world actuator, actuator.action = world.actuator.action →
    fact world → fact { world with actuator }

variable {config : Config} {environment : Environment} {invariant : World → Prop}

theorem Settled.assign {fact : World → Prop} (settled : Settled fact)
    {update : Actuator → Actuator}
    (sameAction : ∀ self, (update self).action = self.action) :
    Keeps fact (assign environment update) :=
  assign_keeps settled.pointFree fun world => settled.assigned world _ (sameAction _)

namespace ActuatorInvariant

theorem settled (rules : ActuatorInvariant config environment invariant) :
    Settled invariant :=
  ⟨rules.pointFree, rules.assigned⟩

/-- A switch succeeded, so the change to the wanted action may be recorded. -/
def Switched (config : Config) (invariant : World → Prop) (wanted : Action)
    (world : World) : Prop :=
  invariant world ∧ (wanted = .idle → BothOff config world.plugs) ∧
    ∀ direction : Direction, wanted = direction.action →
      world.plugs (config.node direction) = true ∧
        lastSuccess (config.node direction) world.log = some true

theorem Switched.settled (rules : ActuatorInvariant config environment invariant)
    (wanted : Action) : Settled (Switched config invariant wanted) where
  pointFree world holds := ⟨rules.pointFree world holds.1, holds.2⟩
  assigned world actuator same holds := ⟨rules.assigned world actuator same holds.1,
    holds.2⟩

variable (rules : ActuatorInvariant config environment invariant)

include rules

theorem record {kind : EventKind} (neutral : kind.isNeutral = true) :
    Keeps invariant (record kind) :=
  record_keeps fun world => rules.logged world world.now kind neutral

theorem setEffort [Rounding] (effort now : ℚ) :
    Keeps invariant (setEffort config environment effort now) := by
  refine Keeps.bind Keeps.get fun world => ?_
  have stored : Keeps invariant (do
      assign environment fun self => { self with effort := max (-1) (min 1 effort) }
      assign environment fun self => { self with lastEffortUpdate := some now }
      Host.record (.setEffort (max (-1) (min 1 effort))
        (world.actuator.wasStale config.control now))) :=
    Keeps.bind (rules.settled.assign fun _ => rfl) fun _ =>
      Keeps.bind (rules.settled.assign fun _ => rfl) fun _ => rules.record rfl
  dsimp only
  split_ifs
  · exact Keeps.bind (rules.settled.assign fun _ => rfl) fun _ => stored
  · exact stored

/-- Besides the invariant, `plan` tells how its result was computed. -/
theorem plan [Rounding] (now : ℚ) :
    Ensures invariant (plan config environment now)
      (fun decided world => invariant world ∧
        world.actuator.plan config.control now = .ok decided)
      (fun _ => invariant) := by
  refine Ensures.bind (rules.settled.assign fun self => ?_) fun _ =>
    Ensures.get_bind fun current holds => ?_
  · exact Actuator.advanceWindow_action _ _ self
  · dsimp only
    cases plans : current.actuator.plan config.control now with
    | error exception => exact Ensures.throw fun world same => same ▸ holds
    | ok decided =>
        have recorded : Ensures (fun world => world = current)
            (Host.record (.planned decided))
            (fun _ world => invariant world ∧
              world.actuator.plan config.control now = .ok decided)
            (fun _ => invariant) := by
          refine Ensures.modify fun world same => ?_
          subst same
          exact ⟨rules.logged world world.now _ rfl holds, plans⟩
        exact Ensures.bind recorded fun _ => Ensures.pure fun _ => id

theorem become {wanted : Action} :
    Ensures (Switched config invariant wanted) (become environment wanted)
      (fun _ => invariant) (fun _ => invariant) := by
  intro world holds
  have finished : invariant (world.pointed.become wanted) := by
    rcases wanted.idle_or_direction with rfl | ⟨direction, rfl⟩
    · exact rules.idled _ (rules.pointFree world holds.1) (holds.2.1 rfl)
    · rcases holds.2.2 direction rfl with ⟨energised, confirmed⟩
      exact rules.activated _ direction (rules.pointFree world holds.1) energised
        confirmed
  simp only [TimeProportionalActuator.become, Host.assign, point, Host.record,
    EStateM.run_bind, EStateM.run_get, EStateM.run_set]
  cases environment.interrupt world with
  | none => exact finished
  | some exception => exact rules.pointFree world holds.1

theorem commit (wanted previous : Action) (now : ℚ) :
    Ensures (Switched config invariant wanted)
      (commit environment wanted previous now)
      (fun _ => invariant) (fun _ => invariant) := by
  have kept {update : Actuator → Actuator}
      (sameAction : ∀ self, (update self).action = self.action) :
      Ensures (Switched config invariant wanted) (assign environment update)
        (fun _ => Switched config invariant wanted) (fun _ => invariant) :=
    ((Switched.settled rules wanted).assign sameAction).raising fun _ _ holds => holds.1
  unfold TimeProportionalActuator.commit
  by_cases leaves : previous.isActive ∧ wanted ≠ previous
  · rw [if_pos leaves]
    exact Ensures.bind (kept fun _ => rfl) fun _ =>
      Ensures.bind (kept fun _ => rfl) fun _ => rules.become
  · rw [if_neg leaves]
    split_ifs
    · exact Ensures.bind (kept fun _ => rfl) fun _ => rules.become
    · exact rules.become

/-- A switch towards a direction starts from IDLE: `plan` never reverses. -/
theorem switch (wanted : Action) :
    Ensures (fun world => invariant world ∧
        (wanted = .idle ∨ world.actuator.action = .idle))
      (switch config environment wanted)
      (fun success world => if success then Switched config invariant wanted world
        else invariant world)
      (fun _ => invariant) := by
  rcases wanted.idle_or_direction with rfl | ⟨direction, rfl⟩
  · have switches := switch_idle_ensures config rules.pointFree rules.sendsOff
    apply (switches.strengthen fun _ holds => holds.1).returning
    intro success world outcome
    rcases outcome with ⟨holds, off⟩
    cases success with
    | false => exact holds
    | true =>
        exact ⟨holds, fun _ => off rfl,
          fun direction same => absurd same.symm direction.action_ne_idle⟩
  · have pointFree : PointFree fun world => invariant world ∧
        world.actuator.action = .idle :=
      fun world holds => ⟨rules.pointFree world holds.1, holds.2⟩
    refine (switch_action_ensures config direction
      (Switched config invariant direction.action) pointFree
      (fun world node holds => ⟨rules.sendsOff world node holds.1, holds.2⟩)
      (fun world holds otherOff done => ?_)
      (fun world _ _ holds otherOff _ => ⟨?_, holds.2⟩)).weaken ?_ ?_ ?_
    · refine ⟨rules.sendsOn world direction holds.1 holds.2 otherOff,
        fun idle => absurd idle direction.action_ne_idle, fun other same => ?_⟩
      cases Direction.action_injective same
      exact ⟨by simp [World.sent_plugs_of_done environment done],
        by simp [World.commandEvent, done, lastSuccess]⟩
    · exact rules.sendsOn world direction holds.1 holds.2 otherOff
    · rintro world ⟨holds, idle | idle⟩
      · exact absurd idle direction.action_ne_idle
      · exact ⟨holds, idle⟩
    · rintro (_ | _) world holds
      · exact holds.1
      · exact holds
    · exact fun _ _ holds => holds.1

theorem tick [Rounding] (now : ℚ) : Keeps invariant (tick config environment now) := by
  refine Keeps.bind (rules.record rfl) fun _ => Ensures.bind (rules.plan now)
    fun decided => Ensures.get_bind fun current holds => ?_
  dsimp only
  split_ifs with same
  · exact Ensures.pure fun world equal => equal ▸ holds.1
  · refine Ensures.bind ((rules.switch _).strengthen ?_) fun success => ?_
    · rintro world rfl
      refine ⟨holds.1, ?_⟩
      rcases decided.requestedAction.idle_or_direction with idle | ⟨direction, known⟩
      · exact .inl idle
      · refine .inr ((Actuator.requests_of_plan holds.2 known).compatible.resolve_right
          fun active => same (known.trans active.symm))
    · cases success with
      | false => exact Ensures.pure fun world holds => holds
      | true => exact Ensures.bind (rules.commit _ _ now) fun _ => Keeps.pure _

theorem forceIdle (now : ℚ) (reason : Reason) :
    Keeps invariant (forceIdle config environment now reason) := by
  have kept {update : Actuator → Actuator}
      (sameAction : ∀ self, (update self).action = self.action) :
      Ensures (Switched config invariant .idle) (assign environment update)
        (fun _ => Switched config invariant .idle) (fun _ => invariant) :=
    ((Switched.settled rules .idle).assign sameAction).raising fun _ _ holds => holds.1
  refine Keeps.bind Keeps.get fun world => ?_
  dsimp only
  split_ifs
  · exact Keeps.pure _
  · refine Ensures.bind ((rules.switch .idle).strengthen
      fun world holds => ⟨holds, .inl rfl⟩) fun success => ?_
    cases success with
    | false => exact Ensures.pure fun world holds => holds
    | true =>
        exact Ensures.bind (kept fun _ => rfl) fun _ =>
          Ensures.bind (kept fun _ => rfl) fun _ =>
          Ensures.bind rules.become fun _ => Keeps.bind Keeps.get fun _ => Keeps.pure _

end ActuatorInvariant

theorem initializeActuator_ensures (config : Config) (environment : Environment)
    (now : ℚ) :
    Ensures (fun world => world.actuator.action = .idle)
      (initializeActuator config environment now)
      (fun _ world => world.actuator.action = .idle ∧ BothOff config world.plugs)
      (fun _ world => world.actuator.action = .idle) := by
  have pointFree : PointFree fun world => world.actuator.action = .idle :=
    fun _ idle => idle
  have kept : Settled fun world => world.actuator.action = .idle ∧
      BothOff config world.plugs :=
    ⟨fun _ holds => holds, fun _ _ same holds => ⟨same.trans holds.1, holds.2⟩⟩
  have assigned {update : Actuator → Actuator}
      (sameAction : ∀ self, (update self).action = self.action) :
      Ensures (fun world => world.actuator.action = .idle ∧ BothOff config world.plugs)
        (assign environment update)
        (fun _ world => world.actuator.action = .idle ∧ BothOff config world.plugs)
        (fun _ world => world.actuator.action = .idle) :=
    (kept.assign sameAction).raising fun _ _ holds => holds.1
  refine Ensures.bind (switch_idle_ensures config pointFree fun _ _ idle => idle)
    fun success => ?_
  cases success with
  | false => exact Ensures.throw fun _ holds => holds.1
  | true =>
      simp only [Bool.not_true, Bool.false_eq_true, if_false]
      refine Ensures.bind (Ensures.strengthen (assigned ?_) ?_) fun _ =>
        Ensures.bind (assigned fun _ => rfl) fun _ => Ensures.pure fun _ => id
      · exact fun _ => rfl
      · exact fun world holds => ⟨holds.1, holds.2 trivial⟩

end BuranBrew.Host

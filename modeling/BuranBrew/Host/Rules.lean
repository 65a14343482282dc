import BuranBrew.Host.Actuator

/-! # Rules for statements in any environment

What these rules establish survives whatever the environment answers and
wherever an exception arrives.
-/

namespace BuranBrew.Host

open Execution

/-! ## Directions -/

inductive Direction
  | heat
  | cool
  deriving DecidableEq, Repr

namespace Direction

def action : Direction → Action
  | .heat => .heat
  | .cool => .cool

def opposite : Direction → Direction
  | .heat => .cool
  | .cool => .heat

@[simp] theorem opposite_opposite (direction : Direction) :
    direction.opposite.opposite = direction := by
  cases direction <;> rfl

@[simp] theorem action_ne_idle (direction : Direction) :
    direction.action ≠ .idle := by
  cases direction <;> simp [action]

@[simp] theorem isActive_action (direction : Direction) :
    direction.action.isActive = true := by
  cases direction <;> rfl

theorem action_injective : Function.Injective action := by
  intro left right equal
  cases left <;> cases right <;> simp_all [action]

end Direction

theorem Action.idle_or_direction (action : Action) :
    action = .idle ∨ ∃ direction : Direction, action = direction.action := by
  cases action with
  | heat => exact .inr ⟨.heat, rfl⟩
  | cool => exact .inr ⟨.cool, rfl⟩
  | idle => exact .inl rfl

namespace Config

def node (config : Config) : Direction → Int
  | .heat => config.nodePlugHeat
  | .cool => config.nodePlugCool

theorem wantedNodes_action (config : Config) (direction : Direction) :
    config.wantedNodes direction.action = [config.node direction] := by
  cases direction <;> rfl

theorem node_ne_opposite {config : Config}
    (distinct : config.nodePlugHeat ≠ config.nodePlugCool) (direction : Direction) :
    config.node direction ≠ config.node direction.opposite := by
  cases direction with
  | heat => exact distinct
  | cool => exact distinct.symm

end Config

def BothOn (config : Config) (plugs : Int → Bool) : Prop :=
  plugs config.nodePlugHeat = true ∧ plugs config.nodePlugCool = true

def BothOff (config : Config) (plugs : Int → Bool) : Prop :=
  plugs config.nodePlugHeat = false ∧ plugs config.nodePlugCool = false

instance (config : Config) (plugs : Int → Bool) : Decidable (BothOn config plugs) :=
  inferInstanceAs (Decidable (_ ∧ _))

instance (config : Config) (plugs : Int → Bool) : Decidable (BothOff config plugs) :=
  inferInstanceAs (Decidable (_ ∧ _))

theorem bothOff_iff {config : Config} {plugs : Int → Bool} :
    BothOff config plugs ↔ ∀ direction, plugs (config.node direction) = false := by
  constructor
  · rintro ⟨heatOff, coolOff⟩ (_ | _)
    · exact heatOff
    · exact coolOff
  · exact fun off => ⟨off .heat, off .cool⟩

/-! ## Plug commands -/

namespace World

variable (environment : Environment)

def reply (world : World) (node : Int) (on : Bool) : PlugReply :=
  environment.setPlug world.pointed node on

/-- The world after a command, whether or not the call raised. -/
def sent (world : World) (node : Int) (on : Bool) : World :=
  world.pointed.commanded node on (world.reply environment node on)

@[simp] theorem sent_actuator (world : World) (node : Int) (on : Bool) :
    (world.sent environment node on).actuator = world.actuator := rfl

@[simp] theorem sent_now (world : World) (node : Int) (on : Bool) :
    (world.sent environment node on).now =
      world.now + (world.reply environment node on).duration := rfl

def commandEvent (world : World) (node : Int) (on : Bool) : Event :=
  ⟨world.now + (world.reply environment node on).effectAfter,
    .setPlug node on (world.reply environment node on).outcome⟩

@[simp] theorem sent_log (world : World) (node : Int) (on : Bool) :
    (world.sent environment node on).log =
      world.commandEvent environment node on :: world.log := rfl

theorem sent_plugs (world : World) (node : Int) (on : Bool) :
    (world.sent environment node on).plugs =
      if (world.reply environment node on).outcome.tookEffect then
        Function.update world.plugs node on
      else world.plugs := rfl

theorem sent_plugs_of_done {world : World} {node : Int} {on : Bool}
    (done : (world.reply environment node on).outcome = .done) :
    (world.sent environment node on).plugs =
      Function.update world.plugs node on := by
  simp [sent_plugs, done, PlugOutcome.tookEffect]

theorem sent_plugs_other {world : World} {node other : Int} {on : Bool}
    (different : other ≠ node) :
    (world.sent environment node on).plugs other = world.plugs other := by
  rw [sent_plugs]
  split
  · exact Function.update_of_ne different _ _
  · rfl

theorem plugs_of_sent_off {world : World} {node other : Int}
    (energised : (world.sent environment node false).plugs other = true) :
    world.plugs other = true := by
  by_cases same : other = node
  · subst other
    rw [sent_plugs] at energised
    split at energised
    · simp at energised
    · exact energised
  · rwa [sent_plugs_other environment same] at energised

end World

variable {environment : Environment} {invariant : World → Prop}

/-- The number of executed statements does not matter to the invariant. -/
def PointFree (invariant : World → Prop) : Prop :=
  ∀ world, invariant world → invariant world.pointed

theorem point_keeps (pointFree : PointFree invariant) :
    Keeps invariant (point environment) := by
  intro world satisfied
  simp only [point, EStateM.run_bind, EStateM.run_get, EStateM.run_set]
  cases environment.interrupt world <;> exact pointFree world satisfied

theorem record_keeps {kind : EventKind}
    (logs : ∀ world, invariant world → invariant (world.logged kind)) :
    Keeps invariant (record kind) :=
  Ensures.modify logs

theorem assign_keeps (pointFree : PointFree invariant) {update : Actuator → Actuator}
    (updates : ∀ world, invariant world →
      invariant { world with actuator := update world.actuator }) :
    Keeps invariant (assign environment update) :=
  Keeps.bind (point_keeps pointFree) fun _ => Ensures.modify updates

theorem setPlug_ensures {node : Int} {on : Bool} {before returned : World → Prop}
    {raised : Exn → World → Prop}
    (interrupted : ∀ exception world, before world →
      environment.interrupt world = some exception → raised exception world.pointed)
    (done : ∀ world, before world →
      (world.reply environment node on).outcome = .done →
        returned (world.sent environment node on))
    (failed : ∀ world exception tookEffect, before world →
      (world.reply environment node on).outcome = .raised exception tookEffect →
        raised exception (world.sent environment node on)) :
    Ensures before (setPlug environment node on) (fun _ => returned) raised := by
  intro world satisfied
  simp only [setPlug, point, EStateM.run_bind, EStateM.run_get, EStateM.run_set]
  cases interrupt : environment.interrupt world with
  | some exception => exact interrupted exception world satisfied interrupt
  | none =>
      cases outcome : (environment.setPlug world.pointed node on).outcome with
      | done =>
          simp only [EStateM.run_pure, outcome]
          exact done world satisfied outcome
      | raised exception tookEffect =>
          simp only [EStateM.run_pure, outcome]
          exact failed world exception tookEffect satisfied outcome

namespace TimeProportionalActuator

theorem fails_ensures {command : Py Unit} {before returned : World → Prop}
    {raised : Exn → World → Prop} {result : Bool → World → Prop}
    (attempt : Ensures before command (fun _ => returned) raised)
    (succeeded : ∀ world, returned world → result false world)
    (failed : ∀ exception world, exception.isCommandFailure = true →
      raised exception world → result true world) :
    Ensures before (fails command) result raised := by
  have answered : Ensures before (do command; return false) result raised :=
    Ensures.bind attempt fun _ => Ensures.pure succeeded
  apply Ensures.tryCatch answered
  · intro exception
    by_cases caught : exception.isCommandFailure = true
    · rw [if_pos caught]
      exact Ensures.pure fun world holds => failed exception world caught holds
    · rw [if_neg caught]
      exact Ensures.throw fun _ holds => holds

/-- The OFF loop of `_switch`. When it reports no failure, every plug it was
not told to leave alone is OFF. -/
theorem switchOff_ensures (pointFree : PointFree invariant)
    (sends : ∀ world node, invariant world →
      invariant (world.sent environment node false))
    (wanted nodes : List Int) :
    Ensures invariant (switchOff environment wanted nodes)
      (fun anyFailed world => invariant world ∧
        (anyFailed = false → ∀ node ∈ nodes, node ∉ wanted →
          world.plugs node = false))
      (fun _ => invariant) := by
  induction nodes generalizing invariant with
  | nil => exact Ensures.pure fun world satisfied => ⟨satisfied, by simp⟩
  | cons node nodes induction =>
      by_cases member : node ∈ wanted
      · rw [show switchOff environment wanted (node :: nodes) =
          switchOff environment wanted nodes by simp [switchOff, member]]
        apply (induction pointFree sends).returning
        intro anyFailed world ⟨satisfied, off⟩
        refine ⟨satisfied, fun none other among unwanted => ?_⟩
        rcases List.mem_cons.mp among with equal | among
        · exact absurd (equal ▸ member) unwanted
        · exact off none other among unwanted
      · simp only [switchOff, member, if_false]
        have sent : Ensures invariant (setPlug environment node false)
            (fun _ world => invariant world ∧ world.plugs node = false)
            (fun _ => invariant) := by
          apply setPlug_ensures
          · exact fun _ world satisfied _ => pointFree world satisfied
          · intro world satisfied done
            exact ⟨sends world node satisfied, by
              simp [World.sent_plugs_of_done environment done]⟩
          · exact fun world _ _ satisfied _ => sends world node satisfied
        have first : Ensures invariant (fails (setPlug environment node false))
            (fun offFailed world => invariant world ∧
              (offFailed = false → world.plugs node = false))
            (fun _ => invariant) :=
          fails_ensures sent (fun world holds => ⟨holds.1, fun _ => holds.2⟩)
            (fun _ world _ satisfied => ⟨satisfied, by simp⟩)
        refine Ensures.bind first fun offFailed => ?_
        -- Later OFF commands cannot turn this plug back on.
        let headOff (world : World) : Prop :=
          invariant world ∧ (offFailed = false → world.plugs node = false)
        have headPointFree : PointFree headOff :=
          fun world holds => ⟨pointFree world holds.1, holds.2⟩
        have headSends (world : World) (other : Int) (holds : headOff world) :
            headOff (world.sent environment other false) := by
          refine ⟨sends world other holds.1, fun none => ?_⟩
          by_contra energised
          exact absurd (World.plugs_of_sent_off environment
            (Bool.eq_true_of_not_eq_false energised)) (by simp [holds.2 none])
        apply Ensures.bind ((induction headPointFree headSends).raising fun _ _ holds => holds.1)
        intro laterFailed
        apply Ensures.pure
        intro world ⟨⟨satisfied, off⟩, tailOff⟩
        refine ⟨satisfied, fun none other among unwanted => ?_⟩
        simp only [Bool.or_eq_false_iff] at none
        rcases List.mem_cons.mp among with rfl | among
        · exact off none.1
        · exact tailOff none.2 other among unwanted

theorem switch_idle_ensures (config : Config) (pointFree : PointFree invariant)
    (sends : ∀ world node, invariant world →
      invariant (world.sent environment node false)) :
    Ensures invariant (switch config environment .idle)
      (fun success world => invariant world ∧
        (success = true → BothOff config world.plugs))
      (fun _ => invariant) := by
  refine Ensures.bind (switchOff_ensures pointFree sends _ _) fun anyFailed => ?_
  cases anyFailed with
  | true => exact Ensures.pure fun world holds => ⟨holds.1, by simp⟩
  | false =>
      refine Ensures.pure fun world holds => ⟨holds.1, fun _ => ?_⟩
      have off := holds.2 rfl
      exact ⟨off _ (by simp) (by simp [Config.wantedNodes]),
        off _ (by simp) (by simp [Config.wantedNodes])⟩

/-- Switching to a direction. The ON command is issued while every other plug is
OFF; if it fails or is not reached, the invariant still holds. -/
theorem switch_action_ensures (config : Config) (direction : Direction)
    (accomplished : World → Prop) (pointFree : PointFree invariant)
    (sendsOff : ∀ world node, invariant world →
      invariant (world.sent environment node false))
    (done : ∀ world, invariant world →
      (∀ other ∈ [config.nodePlugHeat, config.nodePlugCool],
        other ≠ config.node direction → world.plugs other = false) →
      (world.reply environment (config.node direction) true).outcome = .done →
      accomplished (world.sent environment (config.node direction) true))
    (failed : ∀ world exception tookEffect, invariant world →
      (∀ other ∈ [config.nodePlugHeat, config.nodePlugCool],
        other ≠ config.node direction → world.plugs other = false) →
      (world.reply environment (config.node direction) true).outcome =
        .raised exception tookEffect →
      invariant (world.sent environment (config.node direction) true)) :
    Ensures invariant (switch config environment direction.action)
      (fun success world => if success then accomplished world else invariant world)
      (fun _ => invariant) := by
  refine Ensures.bind (switchOff_ensures pointFree sendsOff _ _) fun anyFailed => ?_
  cases anyFailed with
  | true => exact Ensures.pure fun world holds => by simpa using holds.1
  | false =>
      rw [config.wantedNodes_action]
      simp only [switchOn, Bool.false_eq_true, if_false]
      have sent : Ensures (fun world => invariant world ∧
            ∀ other ∈ [config.nodePlugHeat, config.nodePlugCool],
              other ≠ config.node direction → world.plugs other = false)
          (setPlug environment (config.node direction) true)
          (fun _ => accomplished) (fun _ => invariant) := by
        apply setPlug_ensures
        · exact fun _ world holds _ => pointFree world holds.1
        · exact fun world holds outcome => done world holds.1 holds.2 outcome
        · exact fun world exception tookEffect holds outcome =>
            failed world exception tookEffect holds.1 holds.2 outcome
      have attempted : Ensures _ (fails (setPlug environment (config.node direction) true))
          (fun failed world => if failed then invariant world else accomplished world)
          (fun _ => invariant) :=
        fails_ensures sent (fun world holds => by simpa using holds)
          (fun _ world _ holds => by simpa using holds)
      refine Ensures.bind (attempted.strengthen fun world holds => ?_) fun failed => ?_
      · exact ⟨holds.1, by simpa using holds.2⟩
      cases failed <;> exact Ensures.pure fun world holds => by simpa using holds

/-- What every command keeps is kept by a switch, whatever becomes of it. -/
theorem switch_keeps (config : Config) (pointFree : PointFree invariant)
    (sends : ∀ world node on, invariant world → invariant (world.sent environment node on))
    (action : Action) : Keeps invariant (switch config environment action) := by
  have sendsOff : ∀ world node, invariant world →
      invariant (world.sent environment node false) := fun world node => sends world node false
  rcases action.idle_or_direction with rfl | ⟨direction, rfl⟩
  · exact (switch_idle_ensures config pointFree sendsOff).returning fun _ _ => And.left
  · have kept : Ensures invariant (switch config environment direction.action)
        (fun success world => if success then invariant world else invariant world)
        (fun _ => invariant) :=
      switch_action_ensures config direction invariant pointFree sendsOff
        (fun world holds _ _ => sends world _ true holds)
        (fun world _ _ holds _ _ => sends world _ true holds)
    apply kept.returning
    intro success world holds
    cases success <;> exact holds

end TimeProportionalActuator

/-! ## Decisions -/

variable [Rounding]

@[simp] theorem Actuator.advanceWindow_action (windowS now : ℚ) (self : Actuator) :
    (self.advanceWindow windowS now).action = self.action := by
  unfold advanceWindow
  split
  · rfl
  · dsimp only
    split_ifs <;> rfl

@[simp] theorem Actuator.advanceWindow_lastActiveDirection (windowS now : ℚ)
    (self : Actuator) :
    (self.advanceWindow windowS now).lastActiveDirection = self.lastActiveDirection := by
  unfold advanceWindow
  split
  · rfl
  · dsimp only
    split_ifs <;> rfl

@[simp] theorem Actuator.advanceWindow_idleSince (windowS now : ℚ) (self : Actuator) :
    (self.advanceWindow windowS now).idleSince = self.idleSince := by
  unfold advanceWindow
  split
  · rfl
  · dsimp only
    split_ifs <;> rfl

/-- What `plan` has checked before it requests a direction. -/
structure Actuator.Requests (tuning : ControlTuning) (now : ℚ) (actuator : Actuator)
    (direction : Direction) : Prop where
  fresh : ∃ last, actuator.lastEffortUpdate = some last ∧
    fl (now - last) ≤ tuning.commandStaleTimeoutS
  outsideDeadband : tuning.effortDeadband < |actuator.effort|
  sign : direction.action = if actuator.effort > 0 then .heat else .cool
  minOn : tuning.minOnS direction.action ≤ fl (|actuator.effort| * tuning.windowS)
  onPhase : ∃ start, actuator.windowStart = some start ∧
    fl (now - start) < fl (|actuator.effort| * tuning.windowS)
  compatible : actuator.action = .idle ∨ actuator.action = direction.action
  unlocked : ∀ last since, actuator.lastActiveDirection = some last →
    actuator.idleSince = some since → direction.action ≠ last →
    tuning.reverseIdleS ≤ fl (now - since)

theorem Actuator.unlocked_of_reverseLocked {tuning : ControlTuning} {now : ℚ}
    {self : Actuator} {direction : Direction}
    (released : self.reverseLocked tuning now direction.action = false) :
    (self.action = .idle ∨ self.action = direction.action) ∧
      ∀ last since, self.lastActiveDirection = some last →
        self.idleSince = some since → direction.action ≠ last →
        tuning.reverseIdleS ≤ fl (now - since) := by
  unfold reverseLocked at released
  split_ifs at released with reverses
  refine ⟨?_, fun last since wasLast wasSince different => ?_⟩
  · rcases self.action.idle_or_direction with idle | ⟨current, known⟩
    · exact .inl idle
    · refine .inr (Eq.symm (not_not.mp fun differs => reverses ⟨?_, differs⟩))
      rw [known, current.isActive_action]
  · simp only [wasLast, wasSince, decide_eq_false_iff_not, not_and, not_lt] at released
    exact released different

theorem Actuator.requests_of_plan {tuning : ControlTuning} {now : ℚ}
    {self : Actuator} {decided : ActuatorPlan} {direction : Direction}
    (plans : self.plan tuning now = .ok decided)
    (requested : decided.requestedAction = direction.action) :
    self.Requests tuning now direction := by
  have active := direction.action_ne_idle
  unfold plan at plans
  cases updated : self.lastEffortUpdate with
  | none =>
      simp only [updated] at plans
      cases plans
      exact absurd requested.symm active
  | some last =>
      simp only [updated] at plans
      generalize sign : (if self.effort > 0 then Action.heat else Action.cool) = wanted
        at plans
      split_ifs at plans with stale deadband short
      · cases plans
        exact absurd requested.symm active
      · cases plans
        exact absurd requested.symm active
      · cases plans
        exact absurd requested.symm active
      · cases started : self.windowStart with
        | none => simp [started] at plans
        | some start =>
            simp only [started] at plans
            by_cases onPhase : fl (now - start) < fl (|self.effort| * tuning.windowS)
            · simp only [if_pos onPhase] at plans
              split_ifs at plans with locked
              all_goals cases plans
              · exact absurd requested.symm active
              all_goals
                cases (show wanted = direction.action from requested)
                rw [direction.isActive_action, eq_self, true_and,
                  Bool.not_eq_true] at locked
                rcases unlocked_of_reverseLocked locked with ⟨compatible, unlocked⟩
                exact ⟨⟨last, updated, not_lt.mp stale⟩, not_le.mp deadband,
                  sign.symm, not_lt.mp short, ⟨start, started, onPhase⟩,
                  compatible, unlocked⟩
            · simp only [if_neg onPhase] at plans
              split_ifs at plans <;> cases plans <;>
                exact absurd requested.symm active

end BuranBrew.Host

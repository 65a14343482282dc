import BuranBrew.Foundation.Signal
import BuranBrew.Host.Decisions
import BuranBrew.Host.Runs

/-! # The ideal actuator

When every plug command succeeds at once, the actuator is determined by the
calls alone. An `Ideal` actuator keeps what the duty is computed from; the
model of the code refines it.
-/

namespace BuranBrew.Host

open Execution Exact Signal TimeProportionalActuator

variable {config : Config} {environment : Environment}

/-! ## What the log shows -/

def actionChanges : List Event → List (ℚ × Action)
  | [] => []
  | ⟨time, .became action⟩ :: earlier => (time, action) :: actionChanges earlier
  | _ :: earlier => actionChanges earlier

def restarts : List Event → List ℚ
  | [] => []
  | ⟨time, .setEffort _ true⟩ :: earlier => time :: restarts earlier
  | _ :: earlier => restarts earlier

def actionAt (log : List Event) (instant : ℚ) : Action :=
  valueAt .idle instant (actionChanges log)

/-- The time between two instants during which the action is not IDLE. -/
def activeTime (log : List Event) (start finish : ℚ) : ℚ :=
  timeSpent Action.isActive .idle start finish (actionChanges log)

/-! ## The ideal actuator -/

structure Ideal where
  now : ℚ
  actuator : Actuator
  changes : List (ℚ × Action)
  restarts : List ℚ

namespace Ideal

def wait (self : Ideal) (now : ℚ) : Ideal := { self with now }

def change (self : Ideal) (action : Action) : Ideal :=
  { self with
    actuator := self.actuator.settled action self.now
    changes := (self.now, action) :: self.changes }

def advance (config : Config) (self : Ideal) : Ideal :=
  { self with actuator := self.actuator.advanceWindow config.control.windowS self.now }

def act (config : Config) (self : Ideal) : ActuatorCall → Ideal
  | .setEffort effort _ =>
      { self with
        actuator := self.actuator.effortSet config.control effort self.now
        restarts :=
          if self.actuator.wasStale config.control self.now then self.now :: self.restarts
          else self.restarts }
  | .plan _ => self.advance config
  | .tick _ =>
      let ticked := self.advance config
      match ticked.actuator.plan config.control self.now with
      | .error _ => ticked
      | .ok decided =>
          if decided.requestedAction = self.actuator.action then ticked
          else ticked.change decided.requestedAction
  | .forceIdle _ _ => if self.actuator.action = .idle then self else self.change .idle

def step (config : Config) (self : Ideal) (call : ActuatorCall) : Ideal :=
  (self.wait call.now).act config call

def run (config : Config) (self : Ideal) (calls : List ActuatorCall) : Ideal :=
  calls.foldl (step config) self

theorem run_append (config : Config) (self : Ideal) (first second : List ActuatorCall) :
    self.run config (first ++ second) = (self.run config first).run config second :=
  List.foldl_append

def of (world : World) : Ideal where
  now := world.now
  actuator := world.actuator
  changes := actionChanges world.log
  restarts := Host.restarts world.log

end Ideal

/-! ## Refinement -/

theorem Ideal.of_commanded (instantaneous : environment.Instantaneous) {world next : World}
    (commanded : world.Commanded environment next) : Ideal.of next = Ideal.of world := by
  induction commanded with
  | refl => rfl
  | @tail middle _ _ step induction =>
      rcases step with ⟨node, on, rfl⟩
      rw [← induction]
      unfold Ideal.of
      rw [World.sent_now, World.reply, instantaneous, add_zero]
      rfl

/-- One call of the code is one step of the ideal actuator. -/
theorem ideal_performed (prompt : environment.Prompt) (world : World)
    (call : ActuatorCall) :
    Ideal.of (performed config environment world call) =
      (Ideal.of world).step config call := by
  have result := performed_result config prompt.tame world call
  generalize performed config environment world call = next at result ⊢
  have ticked (now : ℚ) (decided : ActuatorPlan)
      (plans : config.Plans now world.actuator decided) :
      (Ideal.of world).step config (.tick now) =
        let ticked :=
          Ideal.of (World.planned config now decided (World.logged { world with now } .ticked))
        if decided.requestedAction = world.actuator.action then ticked
        else ticked.change decided.requestedAction := by
    unfold Config.Plans at plans
    change (match (world.actuator.advanceWindow config.control.windowS now).plan
      config.control now with | .error _ => _ | .ok decided => _) = _
    rw [plans]
    rfl
  cases result with
  | effortSet effort now points =>
      unfold Ideal.of Ideal.step Ideal.act World.effortSet
      cases stale : world.actuator.wasStale config.control now <;>
        simp [stale, ActuatorCall.now, Ideal.wait, actionChanges, restarts]
  | planned now decided plans => rfl
  | unchanged now decided plans same => simp [ticked now decided plans, same]
  | refused now decided after plans different switching =>
      cases switch_succeeds prompt.tame prompt.commands switching
  | switched now decided after points plans different switching =>
      have switched := Ideal.of_commanded prompt.instantaneous
        (switch_commanded prompt.tame switching)
      have instant : after.now = now := congrArg Ideal.now switched
      rw [ticked now decided plans, if_neg different, ← switched]
      subst instant
      rfl
  | alreadyIdle now reason idle =>
      exact (if_pos idle).symm
  | idleRefused now reason after active switching =>
      cases switch_succeeds prompt.tame prompt.commands switching
  | idled now reason after points active switching =>
      have switched := Ideal.of_commanded prompt.instantaneous
        (switch_commanded prompt.tame switching)
      have instant : after.now = now := congrArg Ideal.now switched
      have idled : (Ideal.of world).step config (.forceIdle now reason) =
          (Ideal.of { world with now }).change .idle := if_neg active
      rw [idled, ← switched]
      subst instant
      rfl

theorem ideal_runCalls (prompt : environment.Prompt) (world : World)
    (calls : List ActuatorCall) :
    Ideal.of (runCalls config environment world calls) =
      (Ideal.of world).run config calls := by
  induction calls generalizing world with
  | nil => rfl
  | cons call calls induction =>
      rw [runCalls_cons, induction, ideal_performed prompt]
      rfl

def Ideal.ready (start : ℚ) : Ideal where
  now := start
  actuator := { windowStart := some start, idleSince := some start }
  changes := []
  restarts := []

theorem InitializedAt.ideal (prompt : environment.Prompt) {start : ℚ}
    {initialPlugs : Int → Bool} {ready : World}
    (initialized : InitializedAt config environment start initialPlugs ready) :
    Ideal.of ready = Ideal.ready start := by
  rcases initialized with ⟨transition, run⟩
  rw [initializeActuator_run prompt.tame] at run
  split_ifs at run
  cases run
  have now : (((World.fresh start initialPlugs).sent environment config.nodePlugHeat
      false).sent environment config.nodePlugCool false).now = start := by
    rw [World.sent_now, World.sent_now, World.reply, World.reply, prompt.instantaneous,
      prompt.instantaneous, add_zero, add_zero]
    rfl
  unfold Ideal.of Ideal.ready
  rw [Ideal.mk.injEq]
  exact ⟨now, rfl, rfl, rfl⟩

/-- A run of the code after `initialize` is a run of the ideal actuator. -/
theorem InitializedAt.ideal_run (prompt : environment.Prompt) {start : ℚ}
    {initialPlugs : Int → Bool} {ready : World}
    (initialized : InitializedAt config environment start initialPlugs ready)
    (calls : List ActuatorCall) :
    Ideal.of (runCalls config environment ready calls) =
      (Ideal.ready start).run config calls := by
  rw [ideal_runCalls prompt, initialized.ideal prompt]

/-! ## Runs with regular ticks -/

namespace ActuatorCall

theorem Nondecreasing.le {start : ℚ} {calls : List ActuatorCall}
    (nondecreasing : Nondecreasing start calls) {call : ActuatorCall}
    (among : call ∈ calls) : start ≤ call.now := by
  induction calls generalizing start with
  | nil => simp at among
  | cons first calls induction =>
      rcases List.mem_cons.mp among with rfl | among
      · exact nondecreasing.1
      · exact nondecreasing.1.trans (induction nondecreasing.2 among)

theorem Nondecreasing.split {start : ℚ} {calls : List ActuatorCall}
    (nondecreasing : Nondecreasing start calls) (instant : ℚ) :
    ∃ before after, calls = before ++ after ∧ Nondecreasing start before ∧
      (∀ call ∈ before, call.now < instant) ∧ ∀ call ∈ after, instant ≤ call.now := by
  induction calls generalizing start with
  | nil => exact ⟨[], [], rfl, trivial, by simp, by simp⟩
  | cons call calls induction =>
      by_cases early : call.now < instant
      · rcases induction nondecreasing.2 with ⟨before, after, rfl, ordered, earlier, later⟩
        refine ⟨call :: before, after, rfl, ⟨nondecreasing.1, ordered⟩, ?_, later⟩
        intro other among
        rcases List.mem_cons.mp among with rfl | among
        · exact early
        · exact earlier other among
      · refine ⟨[], call :: calls, rfl, trivial, by simp, ?_⟩
        intro other among
        rcases List.mem_cons.mp among with rfl | among
        · exact not_lt.mp early
        · exact (not_lt.mp early).trans (nondecreasing.2.le among)

def dueAfter (gap due : ℚ) : ActuatorCall → ℚ
  | .tick now => now + gap
  | _ => due

/-- The first tick is due at `due`, every further tick `gap` after the one before
it, and nothing is overdue at `finish`. -/
def Attended (gap finish : ℚ) : ℚ → List ActuatorCall → Prop
  | due, [] => finish ≤ due
  | due, .tick now :: calls => now ≤ due ∧ Attended gap finish (now + gap) calls
  | due, _ :: calls => Attended gap finish due calls

instance decidableAttended (gap finish : ℚ) :
    (due : ℚ) → (calls : List ActuatorCall) → Decidable (Attended gap finish due calls)
  | due, [] => inferInstanceAs (Decidable (finish ≤ due))
  | due, .tick now :: calls =>
      have := decidableAttended gap finish (now + gap) calls
      inferInstanceAs (Decidable (now ≤ due ∧ Attended gap finish (now + gap) calls))
  | due, .setEffort _ _ :: calls => decidableAttended gap finish due calls
  | due, .plan _ :: calls => decidableAttended gap finish due calls
  | due, .forceIdle _ _ :: calls => decidableAttended gap finish due calls

/-- The call is no `set_effort` with another effort. -/
def SetsOnly (effort : ℚ) : ActuatorCall → Prop
  | .setEffort value _ => value = effort
  | _ => True

instance decidableSetsOnly (effort : ℚ) :
    (call : ActuatorCall) → Decidable (call.SetsOnly effort)
  | .setEffort value _ => inferInstanceAs (Decidable (value = effort))
  | .plan _ | .tick _ | .forceIdle _ _ => isTrue trivial

variable {gap finish due : ℚ}

theorem Attended.tail {call : ActuatorCall} {calls : List ActuatorCall}
    (attended : Attended gap finish due (call :: calls)) :
    Attended gap finish (call.dueAfter gap due) calls := by
  cases call with
  | tick now => exact attended.2
  | setEffort effort now => exact attended
  | plan now => exact attended
  | forceIdle now reason => exact attended

theorem Attended.le_due {calls : List ActuatorCall} {instant : ℚ}
    (attended : Attended gap finish due calls) (early : instant ≤ finish)
    (later : ∀ call ∈ calls, instant ≤ call.now) : instant ≤ due := by
  induction calls with
  | nil => exact early.trans attended
  | cons call calls induction =>
      have rest := induction
      cases call with
      | tick now => exact (later (.tick now) (by simp)).trans attended.1
      | setEffort effort now =>
          exact induction attended fun other among => later other (by simp [among])
      | plan now =>
          exact induction attended fun other among => later other (by simp [among])
      | forceIdle now reason =>
          exact induction attended fun other among => later other (by simp [among])

end ActuatorCall

namespace Ideal

open ActuatorCall

@[simp] theorem wait_now (self : Ideal) (now : ℚ) : (self.wait now).now = now := rfl

@[simp] theorem wait_actuator (self : Ideal) (now : ℚ) :
    (self.wait now).actuator = self.actuator := rfl

@[simp] theorem wait_changes (self : Ideal) (now : ℚ) :
    (self.wait now).changes = self.changes := rfl

@[simp] theorem wait_restarts (self : Ideal) (now : ℚ) :
    (self.wait now).restarts = self.restarts := rfl

@[simp] theorem act_now (config : Config) (self : Ideal) (call : ActuatorCall) :
    (self.act config call).now = self.now := by
  cases call with
  | tick now =>
      unfold act
      dsimp only
      split
      · rfl
      · split_ifs <;> rfl
  | forceIdle now reason =>
      unfold act
      split_ifs <;> rfl
  | setEffort effort now => rfl
  | plan now => rfl

/-- What waiting and acting preserve holds at the end of a run. The invariant may
depend on when the next tick is due and on the calls still to come. -/
theorem run_invariant {holds : ℚ → Ideal → List ActuatorCall → Prop} {gap finish : ℚ}
    (waits : ∀ due self now calls, holds due self calls → self.now ≤ now → now ≤ due →
      now ≤ finish → holds due (self.wait now) calls)
    (acts : ∀ due self call calls, holds due self (call :: calls) → self.now = call.now →
      call.now < finish → holds (call.dueAfter gap due) (self.act config call) calls)
    {due : ℚ} {self : Ideal} {before after : List ActuatorCall}
    (initially : holds due self before) (beginning : self.now ≤ finish)
    (nondecreasing : Nondecreasing self.now before)
    (early : ∀ call ∈ before, call.now < finish)
    (late : ∀ call ∈ after, finish ≤ call.now)
    (attended : Attended gap finish due (before ++ after)) :
    ∃ due, holds due ((self.run config before).wait finish) [] := by
  induction before generalizing due self with
  | nil =>
      have inTime : finish ≤ due := attended.le_due le_rfl late
      exact ⟨due, waits due self finish [] initially beginning inTime le_rfl⟩
  | cons call before induction =>
      have callEarly : call.now < finish := early call (by simp)
      have inTime : call.now ≤ due := by
        apply attended.le_due callEarly.le
        intro other among
        rcases List.mem_cons.mp among with rfl | among
        · exact le_rfl
        · rcases List.mem_append.mp among with among | among
          · exact nondecreasing.2.le among
          · exact callEarly.le.trans (late other among)
      have waited := waits due self call.now _ initially nondecreasing.1 inTime callEarly.le
      have acted := acts due (self.wait call.now) call before waited rfl callEarly
      apply induction acted
      · simpa using callEarly.le
      · simpa using nondecreasing.2
      · exact fun other among => early other (by simp [among])
      · exact attended.tail

/-! ## What a call does -/

@[simp] theorem advance_now (config : Config) (self : Ideal) :
    (self.advance config).now = self.now := rfl

@[simp] theorem advance_changes (config : Config) (self : Ideal) :
    (self.advance config).changes = self.changes := rfl

@[simp] theorem advance_restarts (config : Config) (self : Ideal) :
    (self.advance config).restarts = self.restarts := rfl

@[simp] theorem advance_actuator (config : Config) (self : Ideal) :
    (self.advance config).actuator =
      self.actuator.advanceWindow config.control.windowS self.now := rfl

theorem act_tick (config : Config) (self : Ideal) (now : ℚ) :
    ∃ decided, config.Plans self.now self.actuator decided ∧
      self.act config (.tick now) =
        if decided.requestedAction = self.actuator.action then self.advance config
        else (self.advance config).change decided.requestedAction := by
  rcases self.actuator.plan_advanceWindow config.control self.now with ⟨decided, plans⟩
  refine ⟨decided, plans, ?_⟩
  unfold act
  simp only [advance_actuator, plans]

structure Ticked (config : Config) (before after : Ideal) (decided : ActuatorPlan) :
    Prop where
  plans : config.Plans before.now before.actuator decided
  action : after.actuator.action = decided.requestedAction
  update : after.actuator.lastEffortUpdate = before.actuator.lastEffortUpdate
  effort : after.actuator.effort = before.actuator.effort
  windowStart : after.actuator.windowStart =
    (before.actuator.advanceWindow config.control.windowS before.now).windowStart
  direction : ∀ last, after.actuator.lastActiveDirection = some last →
    before.actuator.lastActiveDirection = some last ∨
      before.actuator.action = last ∧ last.isActive = true
  unchanged : decided.requestedAction = before.actuator.action →
    after.changes = before.changes
  changed : decided.requestedAction ≠ before.actuator.action →
    after.changes = (before.now, decided.requestedAction) :: before.changes
  restarts : after.restarts = before.restarts

theorem ticked (config : Config) (self : Ideal) (now : ℚ) :
    ∃ decided, Ticked config self (self.act config (.tick now)) decided := by
  rcases self.act_tick config now with ⟨decided, plans, acts⟩
  refine ⟨decided, ?_⟩
  rw [acts]
  split_ifs with same
  · constructor
    · exact plans
    · rw [same]
      exact Actuator.advanceWindow_action _ _ _
    · exact Actuator.advanceWindow_lastEffortUpdate _ _ _
    · exact Actuator.advanceWindow_effort _ _ _
    · rfl
    · intro last remembered
      exact .inl ((Actuator.advanceWindow_lastActiveDirection _ _ _).symm.trans remembered)
    · exact fun _ => rfl
    · exact fun changed => absurd same changed
    · rfl
  · constructor
    · exact plans
    · rfl
    · exact (Actuator.settled_lastEffortUpdate _ _ _).trans
        (Actuator.advanceWindow_lastEffortUpdate _ _ _)
    · exact (Actuator.settled_effort _ _ _).trans (Actuator.advanceWindow_effort _ _ _)
    · exact Actuator.settled_windowStart _ _ _
    · intro last remembered
      simpa using Actuator.settled_lastActiveDirection remembered
    · exact fun unchanged => absurd unchanged same
    · exact fun _ => rfl
    · rfl

theorem act_changes (config : Config) (self : Ideal) (call : ActuatorCall) :
    (self.act config call).changes = self.changes ∧
        (self.act config call).actuator.action = self.actuator.action ∨
      ∃ action, (self.act config call).changes = (self.now, action) :: self.changes ∧
        (self.act config call).actuator.action = action := by
  cases call with
  | setEffort effort now => exact .inl ⟨rfl, rfl⟩
  | plan now => exact .inl ⟨rfl, Actuator.advanceWindow_action _ _ _⟩
  | tick now =>
      rcases self.act_tick config now with ⟨decided, _, acts⟩
      rw [acts]
      split_ifs
      · exact .inl ⟨rfl, Actuator.advanceWindow_action _ _ _⟩
      · exact .inr ⟨decided.requestedAction, rfl, rfl⟩
  | forceIdle now reason =>
      by_cases idle : self.actuator.action = .idle
      · simp [act, idle]
      · exact .inr ⟨.idle, by simp [act, idle, change], by simp [act, idle]; rfl⟩

theorem act_restarts (config : Config) (self : Ideal) (call : ActuatorCall) :
    (self.act config call).restarts = self.restarts ∨
      (self.act config call).restarts = self.now :: self.restarts := by
  cases call with
  | setEffort effort now =>
      unfold act
      dsimp only
      split_ifs
      · exact .inr rfl
      · exact .inl rfl
  | plan now => exact .inl rfl
  | tick now =>
      rcases self.act_tick config now with ⟨decided, _, acts⟩
      rw [acts]
      split_ifs <;> exact .inl rfl
  | forceIdle now reason =>
      unfold act
      split_ifs <;> exact .inl rfl

theorem run_adds {self : Ideal} {calls : List ActuatorCall} {instant : ℚ}
    (late : ∀ call ∈ calls, instant ≤ call.now) :
    (∃ added, (self.run config calls).changes = added ++ self.changes ∧
      ∀ change ∈ added, instant ≤ change.1) ∧
    ∃ added, (self.run config calls).restarts = added ++ self.restarts := by
  induction calls generalizing self with
  | nil => exact ⟨⟨[], rfl, by simp⟩, [], rfl⟩
  | cons call calls induction =>
      have callLate := late call (by simp)
      rcases @induction (self.step config call) fun other among => late other (by simp [among])
        with ⟨⟨added, changes, addedLate⟩, restarted, restarts⟩
      constructor
      · rcases (self.wait call.now).act_changes config call with
            ⟨same, _⟩ | ⟨action, changed, _⟩
        · exact ⟨added, changes.trans (congrArg (added ++ ·) same), addedLate⟩
        · refine ⟨added ++ [(call.now, action)], ?_, ?_⟩
          · rw [List.append_assoc]
            exact changes.trans (congrArg (added ++ ·) changed)
          · intro change among
            rcases List.mem_append.mp among with among | among
            · exact addedLate change among
            · rw [List.mem_singleton.mp among]
              exact callLate
      · rcases (self.wait call.now).act_restarts config call with same | more
        · exact ⟨restarted, restarts.trans (congrArg (restarted ++ ·) same)⟩
        · refine ⟨restarted ++ [call.now], ?_⟩
          rw [List.append_assoc]
          exact restarts.trans (congrArg (restarted ++ ·) more)

structure Coherent (ideal : Ideal) : Prop where
  past : ∀ change ∈ ideal.changes, change.1 ≤ ideal.now
  current : current .idle ideal.changes = ideal.actuator.action

namespace Coherent

variable {self : Ideal} (coherent : self.Coherent)

include coherent

theorem wait {now : ℚ} (later : self.now ≤ now) : (self.wait now).Coherent :=
  ⟨fun change among => (coherent.past change among).trans later, coherent.current⟩

theorem act (config : Config) (call : ActuatorCall) : (self.act config call).Coherent := by
  rcases self.act_changes config call with ⟨changes, action⟩ | ⟨action, changes, became⟩
  · constructor
    · rw [changes, act_now]
      exact coherent.past
    · rw [changes, action]
      exact coherent.current
  · constructor
    · rw [changes, act_now]
      intro change among
      rcases List.mem_cons.mp among with rfl | among
      · exact le_rfl
      · exact coherent.past change among
    · rw [changes, became]
      rfl

theorem activeTime_wait {start now : ℚ} (started : start ≤ self.now)
    (later : self.now ≤ now) :
    timeSpent Action.isActive .idle start now self.changes =
      timeSpent Action.isActive .idle start self.now self.changes +
        if self.actuator.action.isActive then now - self.now else 0 := by
  rw [timeSpent_extend coherent.past started later, coherent.current]

omit coherent in
theorem activeTime_act (config : Config) (self : Ideal) (call : ActuatorCall) (start : ℚ) :
    timeSpent Action.isActive .idle start self.now (self.act config call).changes =
      timeSpent Action.isActive .idle start self.now self.changes := by
  rcases self.act_changes config call with ⟨changes, _⟩ | ⟨action, changes, _⟩
  · rw [changes]
  · rw [changes, timeSpent_cons_of_le le_rfl]

end Coherent

end Ideal

end BuranBrew.Host

import BuranBrew.Host.DeadTime
import BuranBrew.Host.IdleDecision

/-! # Reversals with instantaneous commands

The lockout protects against the direction the actuator remembers. A plug that
an ON command reached before it raised is not remembered, so a request for the
opposite direction finds it ON.
-/

namespace BuranBrew.Host

open Execution TimeProportionalActuator

variable {config : Config} {environment : Environment}

/-- Without delay, what a tick does happens at the reading it was given. -/
def atInstant (event : Event) (_ : List Event) : ℚ := event.time

def SameInstant (world next : World) : Prop :=
  next.now = world.now ∧ ∃ added, next.log = added ++ world.log ∧
    ∀ event ∈ added, event.time = world.now

namespace SameInstant

theorem refl (world : World) : SameInstant world world :=
  ⟨rfl, [], rfl, by simp⟩

theorem trans {world middle next : World} (first : SameInstant world middle)
    (second : SameInstant middle next) : SameInstant world next := by
  rcases first with ⟨firstNow, firstAdded, firstLog, firstTimes⟩
  rcases second with ⟨secondNow, secondAdded, secondLog, secondTimes⟩
  refine ⟨secondNow.trans firstNow, secondAdded ++ firstAdded,
    by rw [secondLog, firstLog, List.append_assoc], fun event among => ?_⟩
  rcases List.mem_append.mp among with among | among
  · exact (secondTimes event among).trans firstNow
  · exact firstTimes event among

theorem cons {world next : World} {kind : EventKind} (now : next.now = world.now)
    (log : next.log = ⟨world.now, kind⟩ :: world.log) : SameInstant world next :=
  ⟨now, [_], log, by simp⟩

theorem commanded (instantaneous : environment.Instantaneous) {world next : World}
    (commanded : world.Commanded environment next) : SameInstant world next := by
  induction commanded with
  | refl => exact .refl world
  | @tail middle _ _ step induction =>
      rcases step with ⟨node, on, rfl⟩
      refine induction.trans ?_
      have duration : (middle.reply environment node on).duration = 0 :=
        instantaneous middle.pointed node on
      have effect : (middle.reply environment node on).effectAfter = 0 :=
        le_antisymm (duration ▸ (middle.reply environment node on).effectAfter_le)
          (middle.reply environment node on).effectAfter_nonneg
      exact ⟨by rw [World.sent_now, duration, add_zero], [_],
        World.sent_log environment middle node on,
        by simp [World.commandEvent, effect]⟩

theorem prompt {base world next : World} (follows : base.Follows world)
    (same : SameInstant world next) : PromptSince atInstant world.now base world next := by
  rcases same with ⟨_, added, log, times⟩
  rcases follows.log with ⟨before, beforeLog⟩
  have since : base.eventsSince next = added ++ base.eventsSince world := by
    rw [World.eventsSince_eq beforeLog.symm]
    exact World.eventsSince_eq (by rw [log, ← beforeLog, List.append_assoc])
  intro event earlier among ⟨between, earlierEq⟩ _
  rcases among with ⟨after, split⟩
  rw [since, ← earlierEq, ← List.cons_append, ← List.append_assoc,
    List.append_left_inj] at split
  exact times event (by rw [← split]; simp)

end SameInstant

section Runs

variable [Rounding]

theorem performed_sameInstant (config : Config) (tame : environment.Tame)
    (instantaneous : environment.Instantaneous) (world : World) (call : ActuatorCall) :
    SameInstant { world with now := call.now } (performed config environment world call) := by
  have ticked (now : ℚ) (decided : ActuatorPlan) : SameInstant { world with now }
      (World.planned config now decided (World.logged { world with now } .ticked)) := by
    have first : SameInstant { world with now } (World.logged { world with now } .ticked) :=
      .cons rfl rfl
    exact first.trans (.cons rfl rfl)
  have switched {action : Action} {before after : World} {success : Bool}
      (switching : (switch config environment action).run before = .ok success after) :
      SameInstant before after :=
    .commanded instantaneous (switch_commanded tame switching)
  have settled (wanted : Action) (now : ℚ) (after : World) (points : Nat) :
      SameInstant after (after.settled wanted now points) :=
    .cons rfl rfl
  have result := performed_result config tame world call
  generalize performed config environment world call = after at result ⊢
  cases result with
  | effortSet effort now points => exact .cons rfl rfl
  | planned now decided => exact .cons rfl rfl
  | unchanged now decided => exact ticked now decided
  | refused now decided after plans different switching =>
      exact (ticked now decided).trans (switched switching)
  | switched now decided after points plans different switching =>
      exact ((ticked now decided).trans (switched switching)).trans (settled _ now after points)
  | alreadyIdle now => exact .refl _
  | idleRefused now reason after active switching => exact switched switching
  | idled now reason after points active switching =>
      exact (switched switching).trans (settled _ now after points)

/-- No tick leaves IDLE for a direction while the opposite plug is ON. -/
def Unopposed (config : Config) (environment : Environment) (ready : World)
    (calls : List ActuatorCall) : Prop :=
  ∀ done now rest, calls = done ++ .tick now :: rest →
    (runCalls config environment ready done).actuator.action = .idle →
    ∀ decided (direction : Direction),
      config.Plans now (runCalls config environment ready done).actuator decided →
      decided.requestedAction = direction.action →
      (runCalls config environment ready done).plugs
        (config.node direction.opposite) = false

theorem Unopposed.cons {ready : World} {call : ActuatorCall} {calls : List ActuatorCall}
    (unopposed : Unopposed config environment ready (call :: calls)) :
    Unopposed config environment (performed config environment ready call) calls :=
  fun done now rest split => unopposed (call :: done) now rest (by rw [split]; rfl)

theorem rested_performed (tame : environment.Tame)
    (instantaneous : environment.Instantaneous)
    (distinct : config.nodePlugHeat ≠ config.nodePlugCool) {base world : World}
    (rested : Rested config atInstant base world) (call : ActuatorCall)
    (later : world.now ≤ call.now)
    (free : ∀ now, call = .tick now → world.actuator.action = .idle →
      ∀ decided (direction : Direction), config.Plans now world.actuator decided →
        decided.requestedAction = direction.action →
        world.plugs (config.node direction.opposite) = false) :
    Rested config atInstant base (performed config environment world call) := by
  have moved : Rested config atInstant base { world with now := call.now } :=
    rested.later rfl rfl ⟨rfl, rfl, rfl⟩ later
  have prompt := (performed_sameInstant config tame instantaneous world call).prompt moved.follows
  cases call with
  | setEffort effort now => exact moved.setEffort tame.quiet effort now
  | plan now =>
      rw [performed, ActuatorCall.perform, finalState_discard]
      exact moved.plan tame.quiet now
  | tick now =>
      rw [performed, ActuatorCall.perform, finalState_discard] at *
      exact moved.tick tame distinct (free now rfl) prompt
  | forceIdle now reason =>
      rw [performed, ActuatorCall.perform, finalState_discard] at *
      exact moved.forceIdle tame distinct reason prompt

theorem rested_runCalls (tame : environment.Tame)
    (instantaneous : environment.Instantaneous)
    (distinct : config.nodePlugHeat ≠ config.nodePlugCool) {base world : World}
    (rested : Rested config atInstant base world) {calls : List ActuatorCall}
    (nondecreasing : ActuatorCall.Nondecreasing world.now calls)
    (unopposed : Unopposed config environment world calls) :
    Rested config atInstant base (runCalls config environment world calls) := by
  induction calls generalizing world with
  | nil => exact rested
  | cons call calls induction =>
      have next : Rested config atInstant base (performed config environment world call) := by
        refine rested_performed tame instantaneous distinct rested call nondecreasing.1 ?_
        rintro now rfl
        exact unopposed [] now calls rfl
      have now : (performed config environment world call).now = call.now :=
        (performed_sameInstant config tame instantaneous world call).1
      refine induction next ?_ unopposed.cons
      rw [now]
      exact nondecreasing.2

/-- Whenever a plug goes ON, the opposite one was not ON at any instant of the
`reverse_idle_s` before, which are counted as `plan` counts them. -/
def DeadTimeKept (config : Config) (base world : World) : Prop :=
  ∀ event earlier (direction : Direction) instant,
    event :: earlier <:+ base.eventsSince world →
    TurnsOn base.plugs (config.node direction) event earlier →
    fl (event.time - instant) < config.control.reverseIdleS → instant < event.time →
    plugsAt base.plugs earlier instant (config.node direction.opposite) = false

theorem Rested.deadTimeKept {base world : World}
    (rested : Rested config atInstant base world) : DeadTimeKept config base world := by
  intro event earlier direction instant among turnsOn recent _
  rcases rested.gap event earlier direction among turnsOn with ⟨off, wentOff⟩
  apply plugsAt_of_lastOff off
  intro last before went
  have apart : config.Apart last.time event.time := wentOff last before went
  by_contra after
  have still : config.Apart instant event.time := apart.widen (not_le.mp after).le le_rfl
  exact absurd still (not_le.mpr recent)

theorem InitializedAt.rested (tame : environment.Tame)
    (instantaneous : environment.Instantaneous) {start : ℚ} {initialPlugs : Int → Bool}
    {ready : World}
    (initialized : InitializedAt config environment start initialPlugs ready) :
    Rested config atInstant ready ready ∧ ready.now = start := by
  have idle := initialized.bothOff.1
  rcases initialized with ⟨transition, run⟩
  rw [initializeActuator_run tame] at run
  split at run
  · cases run
    constructor
    · exact Rested.beginning idle rfl
    · have commanded : World.Commanded environment (World.fresh start initialPlugs)
          (((World.fresh start initialPlugs).sent environment config.nodePlugHeat
            false).sent environment config.nodePlugCool false) :=
        (World.Commanded.sent _ _).trans (World.Commanded.sent _ _)
      exact (SameInstant.commanded instantaneous commanded).1
  · cases run

theorem runCalls_log_suffix (config : Config) (tame : environment.Tame)
    (instantaneous : environment.Instantaneous) (world : World)
    (calls : List ActuatorCall) :
    world.log <:+ (runCalls config environment world calls).log := by
  induction calls generalizing world with
  | nil => exact List.suffix_refl _
  | cons call calls induction =>
      rcases performed_sameInstant config tame instantaneous world call with
          ⟨_, added, log, _⟩
      have first : world.log <:+ (performed config environment world call).log :=
        ⟨added, log.symm⟩
      exact first.trans (induction _)

theorem unopposed_of_noneStrays (tame : environment.Tame)
    (instantaneous : environment.Instantaneous)
    (distinct : config.nodePlugHeat ≠ config.nodePlugCool)
    {start : ℚ} {initialPlugs : Int → Bool} {ready : World}
    (initialized : InitializedAt config environment start initialPlugs ready)
    (calls : List ActuatorCall)
    (none : ∀ event ∈ (runCalls config environment ready calls).log,
      event.kind.strays = false) : Unopposed config environment ready calls := by
  intro done now rest split idle _ direction _ _
  have grown := runCalls_log_suffix config tame instantaneous
    (runCalls config environment ready done) (.tick now :: rest)
  rw [← runCalls_append, ← split] at grown
  refine bothOff_iff.mp (bothOff_of_noneStrays tame distinct initialized done idle ?_) _
  exact fun event among => none event (grown.subset among)

/-- The dead time is kept unless a stray plug opposes a request. -/
theorem reverse_dead_time_kept (tame : environment.Tame)
    (instantaneous : environment.Instantaneous)
    (distinct : config.nodePlugHeat ≠ config.nodePlugCool)
    {start : ℚ} {initialPlugs : Int → Bool} {ready : World}
    (initialized : InitializedAt config environment start initialPlugs ready)
    (calls : List ActuatorCall) (nondecreasing : ActuatorCall.Nondecreasing start calls) :
    (Unopposed config environment ready calls →
      DeadTimeKept config ready (runCalls config environment ready calls)) ∧
    ((∀ event ∈ (runCalls config environment ready calls).log,
        event.kind.strays = false) →
      DeadTimeKept config ready (runCalls config environment ready calls)) := by
  rcases initialized.rested tame instantaneous with ⟨rested, now⟩
  have kept (unopposed : Unopposed config environment ready calls) :
      DeadTimeKept config ready (runCalls config environment ready calls) :=
    (rested_runCalls tame instantaneous distinct rested (now ▸ nondecreasing)
      unopposed).deadTimeKept
  exact ⟨kept, fun none => kept
    (unopposed_of_noneStrays tame instantaneous distinct initialized calls none)⟩

end Runs

section

open Binary64

theorem instantly_instantaneous (outcome : World → Int → Bool → PlugOutcome) :
    (Environment.instantly outcome).Instantaneous :=
  fun _ _ _ => rfl

theorem reverse_dead_time_kept_reversal :
    DeadTimeKept Config.shipped (readyAt Config.shipped .obedient 0 fun _ => true)
      (runCalls Config.shipped .obedient
        (readyAt Config.shipped .obedient 0 fun _ => true)
        [.setEffort 1 0, .tick 0, .setEffort (-1) 60, .tick 60, .tick 70]) := by
  have initialized : InitializedAt Config.shipped .obedient 0 (fun _ => true)
      (readyAt Config.shipped .obedient 0 fun _ => true) := ⟨_, rfl⟩
  exact (reverse_dead_time_kept Environment.obedient_tame (instantly_instantaneous _)
    (by decide) initialized _ (by decide +kernel)).2 (by decide +kernel)

/-- ON commands to the heater reach it and then time out. -/
def Environment.lateHeater : Environment :=
  instantly fun _ node on => if node = 11 ∧ on = true then .raised .timeoutExpired true else .done

theorem Environment.lateHeater_tame : lateHeater.Tame := by
  refine instantly_tame fun world node on exception tookEffect raised => ?_
  split at raised
  · cases raised
    rfl
  · cases raised

/-- The heater is ON although its ON command timed out. When the effort changes
sign a minute later, one tick turns the heater OFF and the cooler ON. -/
theorem reverse_dead_time_violated :
    ¬∀ (config : Config) (environment : Environment) (start : ℚ)
      (initialPlugs : Int → Bool) (ready : World) (calls : List ActuatorCall),
      config.Accepted → config.nodePlugHeat ≠ config.nodePlugCool →
      environment.Tame → environment.Instantaneous →
      InitializedAt config environment start initialPlugs ready →
      ActuatorCall.Nondecreasing start calls →
      DeadTimeKept config ready (runCalls config environment ready calls) := by
  intro claimed
  have initialized : InitializedAt Config.shipped .lateHeater 0 (fun _ => false)
      (readyAt Config.shipped .lateHeater 0 fun _ => false) := ⟨_, rfl⟩
  have kept := claimed Config.shipped .lateHeater 0 (fun _ => false) _
    [.setEffort 1 0, .tick 0, .setEffort (-1) 60, .tick 60]
    Config.shipped_accepted (by decide) Environment.lateHeater_tame
    (instantly_instantaneous _) initialized (by decide +kernel)
  let events := (readyAt Config.shipped .lateHeater 0 fun _ => false).eventsSince
    (runCalls Config.shipped .lateHeater
      (readyAt Config.shipped .lateHeater 0 fun _ => false)
      [.setEffort 1 0, .tick 0, .setEffort (-1) 60, .tick 60])
  have off := kept ⟨60, .setPlug 12 true .done⟩ (events.drop 2) .cool 55
    (by decide +kernel) (by decide +kernel) (by decide +kernel) (by decide +kernel)
  exact absurd off (by decide +kernel)

end

end BuranBrew.Host

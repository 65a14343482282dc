import BuranBrew.Foundation.RateLimits
import BuranBrew.Host.Freshness
import BuranBrew.Host.Tariffs

/-! # No catch-up bursts

A control update begins `period_s` after the end of the one before, or later, however slow
the calls were and whether or not they failed.
-/

namespace BuranBrew.Host

open Execution History TimeProportionalActuator

/-! ## What is counted -/

def EventKind.isRead : EventKind → Bool
  | .read _ _ => true
  | _ => false

def EventKind.isSetEffort : EventKind → Bool
  | .setEffort _ _ => true
  | _ => false

/-- The end of a period, computed as the time of the next update is. -/
def periodEnd [Rounding] (period start : ℚ) : ℚ := fl (start + period)

theorem periodEnd_mono [Rounding] (period : ℚ) : Monotone (periodEnd period) :=
  fun _ _ le => fl_mono (add_le_add_left le period)

section Definitions

variable (counts : EventKind → Bool)

structure Counted (reads efforts : ℕ) : Prop where
  only : ∀ kind, counts kind = true → kind.isRead = true ∨ kind.isSetEffort = true
  read : ∀ node endpoint, (counts (.read node endpoint)).toNat ≤ reads
  setEffort : ∀ effort wasStale, (counts (.setEffort effort wasStale)).toNat ≤ efforts

-- At most so many in a period.
variable [Rounding] (period : ℚ) (limit : ℕ)

def Limits (log : List Event) : Prop :=
  RateLimited Event.time (fun event => counts event.kind) (periodEnd period) limit log

/-- How much may share a period with what comes from an instant on. -/
def burst (next : ℚ) (world : World) : ℚ :=
  recent Event.time (fun event => counts event.kind) (periodEnd period) next world.log

structure Limited (world : World) : Prop where
  past : ∀ event ∈ world.log, counts event.kind = true → event.time ≤ world.now
  limits : Limits counts period limit world.log

/-- The limit is kept if not too much has come since `next`, and only what is due comes. -/
structure Throttled (due : Prop) (next : ℚ) (world : World) : Prop where
  turn : due → next ≤ world.now
  past : ∀ event ∈ world.log, counts event.kind = true → event.time ≤ world.now
  limits : burst counts period next world ≤ limit → Limits counts period limit world.log

/-- Nothing that counts shares a period with what comes from `next` on. -/
abbrev Spaced (due : Prop) (next : ℚ) : World → Prop :=
  Until (burst counts period next) (Throttled counts period limit due next) 0

end Definitions

theorem isRead_counted : Counted EventKind.isRead 1 0 where
  only _ read := .inl read
  read _ _ := le_rfl
  setEffort _ _ := le_rfl

theorem isSetEffort_counted : Counted EventKind.isSetEffort 0 1 where
  only _ setEffort := .inr setEffort
  read _ _ := le_rfl
  setEffort _ _ := le_rfl

theorem Counted.uncounted {counts : EventKind → Bool} {reads efforts : ℕ}
    (counted : Counted counts reads efforts) {kind : EventKind} (noRead : kind.isRead = false)
    (noSetEffort : kind.isSetEffort = false) : counts kind = false := by
  by_contra counts
  rw [Bool.not_eq_false] at counts
  rcases counted.only kind counts with read | setEffort
  · rw [read] at noRead
    cases noRead
  · rw [setEffort] at noSetEffort
    cases noSetEffort

section Pacing

variable [Rounding] {counts : EventKind → Bool} {period : ℚ} {reads efforts limit : ℕ} {due : Prop}
  {next : ℚ} {config : Config} {environment : Environment} {world later : World}
  {event : Event} {α : Type} {program : Py α} {budget : ℚ}

theorem Throttled.elsewhere (throttled : Throttled counts period limit due next world)
    (log : later.log = world.log) (now : world.now ≤ later.now) :
    Throttled counts period limit due next later ∧
      burst counts period next later ≤ burst counts period next world := by
  have same : burst counts period next later = burst counts period next world := by
    rw [burst, log, burst]
  refine ⟨⟨fun isDue => (throttled.turn isDue).trans now, ?_, ?_⟩, same.le⟩
  · rw [log]
    exact fun event among counted => (throttled.past event among counted).trans now
  · rw [log, same]
    exact throttled.limits

theorem Throttled.logged (throttled : Throttled counts period limit due next world)
    (later : World) (log : later.log = event :: world.log) (now : world.now ≤ later.now)
    (counted : counts event.kind = true →
      due ∧ world.now ≤ event.time ∧ event.time ≤ later.now) :
    Throttled counts period limit due next later ∧
      burst counts period next later ≤
        burst counts period next world + (counts event.kind).toNat := by
  have more : burst counts period next later ≤
      burst counts period next world + (counts event.kind).toNat := by
    have cons : recent Event.time (fun event => counts event.kind) (periodEnd period) next
          (event :: world.log) ≤
        recent Event.time (fun event => counts event.kind) (periodEnd period) next world.log +
          (counts event.kind).toNat := recent_cons_le
    unfold burst
    rw [log]
    exact_mod_cast cons
  refine ⟨⟨fun isDue => (throttled.turn isDue).trans now, ?_, ?_⟩, more⟩
  · rw [log]
    intro other among counts
    rcases List.mem_cons.mp among with rfl | earlier
    · exact (counted counts).2.2
    · exact (throttled.past other earlier counts).trans now
  · intro few
    rw [burst, log] at few
    have before : burst counts period next world ≤ limit :=
      le_trans (Nat.cast_le.mpr recent_le_cons) few
    rw [log]
    apply (throttled.limits before).cons (periodEnd_mono period) _ (by exact_mod_cast few)
    intro counts
    rcases counted counts with ⟨isDue, after, -⟩
    exact (throttled.turn isDue).trans after

theorem Throttled.limited (throttled : Until (burst counts period next)
    (Throttled counts period limit due next) budget world) (few : budget ≤ limit) :
    Limited counts period limit world :=
  ⟨throttled.1.past, throttled.1.limits (throttled.2.trans few)⟩

theorem Limited.spaced (limited : Limited counts period limit world)
    (late : periodEnd period world.now ≤ next) :
    Spaced counts period limit False next world := by
  refine ⟨⟨False.elim, limited.past, fun _ => limited.limits⟩, ?_⟩
  have none : recent Event.time (fun event => counts event.kind) (periodEnd period) next
      world.log = 0 := by
    apply recent_eq_zero
    intro event among counted
    exact (periodEnd_mono period (limited.past event among counted)).trans late
  rw [burst, none, Nat.cast_zero]

theorem limited_of_spends (before : ℚ)
    (spends : Spends (burst counts period next) (Throttled counts period limit due next) budget
      program) (few : before + budget ≤ limit) :
    Ensures (Until (burst counts period next) (Throttled counts period limit due next) before)
      program
      (fun _ => Until (burst counts period next) (Throttled counts period limit due next)
        (before + budget))
      (fun _ => Limited counts period limit) :=
  (spends before).raising fun _ _ throttled => Throttled.limited throttled few

theorem limited_of_free
    (free : Spends (burst counts period next) (Throttled counts period limit due next) 0
      program) :
    Ensures (Spaced counts period limit due next) program
      (fun _ => Spaced counts period limit due next) (fun _ => Limited counts period limit) := by
  have spent := limited_of_spends 0 free (by simp)
  rwa [add_zero] at spent

/-! ## One round of the loop -/

section Rounds

variable (counted : Counted counts reads efforts)
  (forward : ∀ world, world.now ≤ environment.clock world)

include counted

theorem Throttled.uncounted (throttled : Throttled counts period limit due next world)
    (later : World) (log : later.log = event :: world.log) (now : world.now ≤ later.now)
    (noRead : event.kind.isRead = false) (noSetEffort : event.kind.isSetEffort = false) :
    Throttled counts period limit due next later ∧
      burst counts period next later ≤ burst counts period next world := by
  have uncounted := counted.uncounted noRead noSetEffort
  have logged := throttled.logged later log now (by simp [uncounted])
  simpa [uncounted] using logged

include forward

theorem throttled_tariff : Tariff environment (burst counts period next)
    (Throttled counts period limit due next) 0 0 where
  commands_nonneg := le_rfl
  lag_nonneg := le_rfl
  elsewhere world later log now throttled := throttled.elsewhere log now.ge
  logged world kind routine throttled := by
    apply Throttled.uncounted counted throttled (world.logged kind) rfl le_rfl
    · cases kind <;> first | rfl | exact routine.elim
    · cases kind <;> first | rfl | exact routine.elim
  commanded world node on throttled := by
    have later : world.now ≤ world.now + (environment.setPlug world node on).duration :=
      le_add_of_nonneg_right (environment.setPlug world node on).duration_nonneg
    rw [add_zero]
    exact Throttled.uncounted counted throttled _ rfl later rfl rfl
  clocked world throttled := by
    rw [add_zero]
    exact Throttled.uncounted counted throttled _ rfl (forward world) rfl rfl

theorem monotonic_forgets (later : ℚ → ℚ) (late : ∀ now, periodEnd period now ≤ later now) :
    Ensures (Limited counts period limit) (monotonic environment)
      (fun now => Spaced counts period limit False (later now))
      (fun _ => Limited counts period limit) := by
  have pointFree : PointFree (Limited counts period limit) :=
    fun _ limited => ⟨limited.past, limited.limits⟩
  have clocked (world : World) (limited : Limited counts period limit world) :
      Limited counts period limit (world.clocked (environment.clock world)) := by
    have uncounted : counts (.clock (environment.clock world)) = false :=
      counted.uncounted rfl rfl
    constructor
    · intro event among counts
      rcases List.mem_cons.mp among with rfl | earlier
      · exact le_rfl
      · exact (limited.past event earlier counts).trans (forward world)
    · exact limited.limits.cons_aside uncounted
  apply monotonic_ensures pointFree
  intro world limited
  exact (clocked world limited).spaced (late (environment.clock world))

theorem controlUpdate_throttled (connected : Bool) :
    Spends (burst counts period next)
      (Throttled counts period (3 * reads + efforts) True next) (3 * reads + efforts)
      (ControlLoop.controlUpdate config environment connected) := by
  have tariff : Tariff environment (burst counts period next)
      (Throttled counts period (3 * reads + efforts) True next) 0 0 :=
    throttled_tariff counted forward
  have answered (world : World) (node endpoint : Int) (reply : ReadReply)
      (throttled : Throttled counts period (3 * reads + efforts) True next world) :
      let after := world.answered node endpoint reply
      Throttled counts period (3 * reads + efforts) True next after ∧
        burst counts period next after ≤ burst counts period next world + reads := by
    intro after
    have logged := throttled.logged after rfl
      (le_add_of_nonneg_right reply.duration_nonneg) fun _ =>
        ⟨trivial, le_add_of_nonneg_right reply.effectAfter_nonneg,
          add_le_add_right reply.effectAfter_le world.now⟩
    exact ⟨logged.1, logged.2.trans (add_le_add_right
      (Nat.cast_le.mpr (counted.read node endpoint)) _)⟩
  have recorded (effort : ℚ) (wasStale : Bool) :
      Spends (burst counts period next)
        (Throttled counts period (3 * reads + efforts) True next) efforts
        (record (.setEffort effort wasStale)) := by
    intro limit
    apply Ensures.modify
    rintro world ⟨throttled, before⟩
    have logged := throttled.logged (world.logged (.setEffort effort wasStale)) rfl le_rfl
      fun _ => ⟨trivial, le_rfl, le_rfl⟩
    exact ⟨logged.1, logged.2.trans (add_le_add before
      (Nat.cast_le.mpr (counted.setEffort effort wasStale)))⟩
  have emitted (internalC : ℚ) :
      Spends (burst counts period next)
        (Throttled counts period (3 * reads + efforts) True next) 0
        (emit environment connected (.sensor "internal" internalC)) := by
    apply Spends.of_keeps
    intro limit
    apply emit_keeps _ connected
    · rintro world ⟨throttled, before⟩
      have logged := Throttled.uncounted counted throttled
        (world.logged (.emitted (.sensor "internal" internalC))) rfl le_rfl rfl rfl
      exact ⟨logged.1, logged.2.trans before⟩
    · rintro world ⟨throttled, before⟩
      have same := tariff.elsewhere world world.pointed rfl rfl throttled
      exact ⟨same.1, same.2.trans before⟩
  have spent : Spends (burst counts period next)
      (Throttled counts period (3 * reads + efforts) True next)
      (3 * reads + efforts + 2 * 0 + 4 * 0)
      (ControlLoop.controlUpdate config environment connected) :=
    tariff.controlUpdate (Nat.cast_nonneg reads) answered (Nat.cast_nonneg efforts) recorded
      connected emitted
  simpa using spent

theorem tick_spaced (now : ℚ) :
    Ensures (Spaced counts period limit due next) (tick config environment now)
      (fun _ => Spaced counts period limit due next) (fun _ => Limited counts period limit) := by
  have tariff : Tariff environment (burst counts period next)
      (Throttled counts period limit due next) 0 0 := throttled_tariff counted forward
  exact limited_of_free ((tariff.tick now).weaken (by simp))

theorem emitTransition_spaced (connected : Bool) (transition : Option ActuatorTransition) :
    Ensures (Spaced counts period limit due next)
      (ControlLoop.emitTransition environment connected transition)
      (fun _ => Spaced counts period limit due next) (fun _ => Limited counts period limit) := by
  have tariff : Tariff environment (burst counts period next)
      (Throttled counts period limit due next) 0 0 := throttled_tariff counted forward
  exact limited_of_free (tariff.emitTransition connected transition)

theorem monotonic_turns :
    Ensures (Spaced counts period limit False next) (monotonic environment)
      (fun now => Spaced counts period limit (next ≤ now) next)
      (fun _ => Limited counts period limit) := by
  have pointFree : PointFree (Spaced counts period limit False next) :=
    fun _ spaced => ⟨⟨spaced.1.turn, spaced.1.past, spaced.1.limits⟩, spaced.2⟩
  have clocked (world : World) (spaced : Spaced counts period limit False next world) :
      Spaced counts period limit (next ≤ environment.clock world) next
        (world.clocked (environment.clock world)) := by
    have logged := Throttled.uncounted counted spaced.1
      (world.clocked (environment.clock world)) rfl (forward world) rfl rfl
    exact ⟨⟨id, logged.1.past, logged.1.limits⟩, logged.2.trans spaced.2⟩
  apply (monotonic_ensures pointFree ?_).raising
  · exact fun _ world spaced => Throttled.limited spaced (Nat.cast_nonneg limit)
  · exact clocked

variable (tickS : 0 ≤ config.control.actuatorTickS) (connected : Bool)

include tickS

theorem iteration_spaced (nextSensorUpdate : ℚ) :
    Ensures (Spaced counts config.periodS (3 * reads + efforts) False nextSensorUpdate)
      (ControlLoop.iteration config environment connected nextSensorUpdate)
      (fun next => Spaced counts config.periodS (3 * reads + efforts) False next)
      (fun _ => Limited counts config.periodS (3 * reads + efforts)) := by
  have rest (next : ℚ) :
      Ensures (Spaced counts config.periodS (3 * reads + efforts) False next)
      (do
        sleep environment config.control.actuatorTickS
        return next)
      (fun next => Spaced counts config.periodS (3 * reads + efforts) False next)
      (fun _ => Limited counts config.periodS (3 * reads + efforts)) := by
    have tariff : Tariff environment (burst counts config.periodS next)
        (Throttled counts config.periodS (3 * reads + efforts) False next) 0 0 :=
      throttled_tariff counted forward
    have slept : Ensures (Spaced counts config.periodS (3 * reads + efforts) False next)
        (sleep environment config.control.actuatorTickS)
        (fun _ => Spaced counts config.periodS (3 * reads + efforts) False next)
        (fun _ => Limited counts config.periodS (3 * reads + efforts)) := by
      apply Ensures.bind (limited_of_free tariff.point)
      intro _
      apply Ensures.modify
      rintro world ⟨throttled, before⟩
      have logged := Throttled.uncounted counted throttled
        (world.slept config.control.actuatorTickS) rfl (le_add_of_nonneg_right tickS) rfl rfl
      exact ⟨logged.1, logged.2.trans before⟩
    exact Ensures.bind slept fun _ => Ensures.pure fun _ => id
  apply Ensures.bind (monotonic_turns counted forward)
  intro now
  apply Ensures.bind (tick_spaced counted forward now)
  intro transition
  apply Ensures.bind (emitTransition_spaced counted forward connected transition)
  intro _
  split_ifs with turn
  · have update : Spends (burst counts config.periodS nextSensorUpdate)
        (Throttled counts config.periodS (3 * reads + efforts) True nextSensorUpdate)
        (3 * reads + efforts) (ControlLoop.controlUpdate config environment connected) :=
      controlUpdate_throttled counted forward connected
    apply Ensures.bind ((limited_of_spends 0 update (by simp)).strengthen _)
    · intro _
      apply Ensures.bind ((monotonic_forgets counted forward (periodEnd config.periodS)
        fun _ => le_rfl).strengthen _)
      · intro now
        rw [pure_bind]
        exact rest _
      · exact fun world throttled => Throttled.limited throttled (by simp)
    · rintro world ⟨throttled, few⟩
      exact ⟨⟨fun _ => throttled.turn turn, throttled.past, throttled.limits⟩, few⟩
  · exact (rest _).strengthen fun world throttled =>
      ⟨⟨False.elim, throttled.1.past, throttled.1.limits⟩, throttled.2⟩

theorem loop_spaced (rounds : Nat) (nextSensorUpdate : ℚ) :
    Ensures (Spaced counts config.periodS (3 * reads + efforts) False nextSensorUpdate)
      (ControlLoop.loop config environment connected rounds nextSensorUpdate)
      (fun _ => Limited counts config.periodS (3 * reads + efforts))
      (fun _ => Limited counts config.periodS (3 * reads + efforts)) := by
  induction rounds generalizing nextSensorUpdate with
  | zero => exact Ensures.pure fun world throttled => Throttled.limited throttled (by positivity)
  | succ rounds induction =>
      exact Ensures.bind (iteration_spaced counted forward tickS connected nextSensorUpdate)
        induction

/-! ## Runs -/

omit tickS in
theorem start_spaced :
    Ensures (fun world => world.log = []) (ControlLoop.start config environment connected)
      (fun next => Spaced counts period limit False next)
      (fun _ => Limited counts period limit) := by
  have fresh (world : World) (log : world.log = []) : Limited counts period limit world := by
    constructor
    · simp [log]
    · rw [Limits, log]
      exact .nil
  have reading : Ensures (fun world => world.log = []) (monotonic environment)
      (fun now => Spaced counts period limit False now) (fun _ => Limited counts period limit) := by
    have clocked (world : World) (log : world.log = []) :
        Spaced counts period limit False (environment.clock world)
          (world.clocked (environment.clock world)) := by
      have nothing : Throttled counts period limit False (environment.clock world) world ∧
          burst counts period (environment.clock world) world ≤ 0 := by
        refine ⟨⟨False.elim, (fresh world log).past, fun _ => (fresh world log).limits⟩, ?_⟩
        simp [burst, log, recent]
      have logged := Throttled.uncounted counted nothing.1
        (world.clocked (environment.clock world)) rfl (forward world) rfl rfl
      exact ⟨logged.1, logged.2.trans nothing.2⟩
    exact (monotonic_ensures (fun _ => id) clocked).raising fun _ => fresh
  apply Ensures.bind reading
  intro now
  have tariff : Tariff environment (burst counts period now)
      (Throttled counts period limit False now) 0 0 := throttled_tariff counted forward
  apply Ensures.bind (limited_of_free ((tariff.initializeActuator now).weaken (by simp)))
  intro transition
  exact Ensures.bind (emitTransition_spaced counted forward connected _) fun _ =>
    Ensures.pure fun _ => id

omit tickS in
theorem finish_limited : Keeps (Limited counts period limit)
    (ControlLoop.finish config environment connected) := by
  apply Ensures.each
  intro start limited
  have tariff : Tariff environment (burst counts period (periodEnd period start.now))
      (Throttled counts period limit False (periodEnd period start.now)) 0 0 :=
    throttled_tariff counted forward
  have free : Spends (burst counts period (periodEnd period start.now))
      (Throttled counts period limit False (periodEnd period start.now)) 0
      (ControlLoop.finish config environment connected) :=
    (tariff.finish connected).weaken (by simp)
  exact ((limited_of_free free).startingAt (limited.spaced le_rfl)).weaken (fun _ => id)
    (fun _ _ throttled => Throttled.limited throttled (Nat.cast_nonneg limit)) (fun _ _ => id)

theorem run_limited (rounds : Nat) :
    Ensures (fun world => world.log = [])
      (ControlLoop.run config environment connected rounds)
      (fun _ => Limited counts config.periodS (3 * reads + efforts))
      (fun _ => Limited counts config.periodS (3 * reads + efforts)) := by
  apply Ensures.bind (start_spaced counted forward connected)
  intro next
  apply Ensures.tryCatch
  · exact Ensures.bind (loop_spaced counted forward tickS connected rounds next) fun _ =>
      Ensures.pure fun _ => id
  · exact fun exception => Keeps.bind (finish_limited counted forward connected) fun _ =>
      Keeps.throw exception

theorem runLog_limits (rounds : Nat) (time : ℚ) (initialPlugs : Int → Bool) :
    Limits counts config.periodS (3 * reads + efforts)
      (runLog config environment connected rounds time initialPlugs) :=
  ((run_limited counted forward tickS connected rounds).finalState rfl).limits

end Rounds

/-- However slow the calls are and whatever they raise, no stretch of `period_s` sees more
than three reads of the sensor or more than one call of `set_effort`. -/
theorem control_updates_are_paced (accepted : config.Accepted)
    (forward : ∀ world, world.now ≤ environment.clock world) (connected : Bool) (rounds : Nat)
    (time : ℚ) (initialPlugs : Int → Bool) :
    let log := runLog config environment connected rounds time initialPlugs
    Limits EventKind.isRead config.periodS 3 log ∧
      Limits EventKind.isSetEffort config.periodS 1 log := by
  have tickS := accepted.valid.control.actuatorTickS_pos.le
  exact ⟨runLog_limits isRead_counted forward tickS connected rounds time initialPlugs,
    runLog_limits isSetEffort_counted forward tickS connected rounds time initialPlugs⟩

end Pacing

section

open Binary64

theorem control_updates_are_paced_obedient :
    let log := runLog Config.shipped .obedient true 30 0 (fun _ => false)
    Limits EventKind.isRead Config.shipped.periodS 3 log ∧
      (log.filter fun event => event.kind.isRead).length = 3 :=
  ⟨(control_updates_are_paced Config.shipped_accepted (fun _ => le_rfl) true 30 0
    fun _ => false).1, by decide +kernel⟩

end

end BuranBrew.Host

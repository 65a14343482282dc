import BuranBrew.Host.DeadTime
import BuranBrew.Host.LoopRules

/-! # Reversals with slow commands

`_idle_since` is the clock reading from before the switch, so the lockout keeps
the readings of two opposite switches apart, not their effects.
-/

namespace BuranBrew.Host

open Execution TimeProportionalActuator

variable {config : Config} {environment : Environment}

/-- What a tick does is stamped with the last clock reading. -/
def atReading (_ : Event) (earlier : List Event) : ℚ :=
  (lastClock earlier).getD 0

/-- While the action is IDLE, both plugs are OFF. -/
def Calm (config : Config) (world : World) : Prop :=
  world.actuator.action = .idle → BothOff config world.plugs

theorem Calm.forceIdle (healthy : environment.Healthy config) {world : World}
    (calm : Calm config world) (now : ℚ) (reason : Reason) :
    Calm config (finalState ((forceIdle config environment now reason).run world)) := by
  have result := forceIdle_result config healthy.tame now reason world
  generalize (TimeProportionalActuator.forceIdle config environment now reason).run world =
    outcome at result ⊢
  cases result with
  | unchanged => exact calm
  | refused after active switching =>
      cases switch_succeeds healthy.tame healthy.commands switching
  | switched after points _ active switching =>
      have off : BothOff config after.plugs := bothOff_of_switch_idle healthy.tame switching
      exact fun _ => off

structure Initialized (config : Config) (world : World) : Prop where
  idle : world.actuator.action = .idle
  never : world.actuator.lastActiveDirection = none
  off : BothOff config world.plugs

theorem start_initializes (healthy : environment.Healthy config) (connected : Bool) :
    Returns (fun world => world.actuator = {})
      (ControlLoop.start config environment connected)
      (fun _ => Initialized config) := by
  apply Ensures.bind (monotonic_returns healthy fun _ new => new)
  intro now
  have initializes : Returns (fun world => ∃ before : World, before.actuator = {} ∧
        before.now = now ∧ world = before.clocked now)
      (initializeActuator config environment now) (fun _ => Initialized config) := by
    rintro world ⟨before, new, _, rfl⟩
    set world := before.clocked now
    have done (world : World) (node : Int) :
        (world.reply environment node false).outcome = .done := healthy.commands _ _ _
    have succeeds (world : World) (node : Int) : world.succeeds environment node false = true := by
      simp [World.succeeds, done]
    set heatOff := world.sent environment config.nodePlugHeat false
    have heat : heatOff.plugs config.nodePlugHeat = false := by
      rw [World.sent_plugs_of_done environment (done _ _), Function.update_self]
    rw [initializeActuator_run healthy.tame, if_pos ⟨succeeds _ _, succeeds _ _⟩]
    refine ⟨congrArg Actuator.action new, congrArg Actuator.lastActiveDirection new, ?_, ?_⟩
    · change (heatOff.sent environment config.nodePlugCool false).plugs _ = false
      rw [← Bool.not_eq_true]
      intro energised
      rw [World.plugs_of_sent_off environment energised] at heat
      cases heat
    · change (heatOff.sent environment config.nodePlugCool false).plugs _ = false
      rw [World.sent_plugs_of_done environment (done _ _), Function.update_self]
  apply Ensures.bind initializes
  intro transition
  have logged (world : World) (telemetry : Telemetry) (initialized : Initialized config world) :
      Initialized config (world.logged (.emitted telemetry)) :=
    ⟨initialized.idle, initialized.never, initialized.off⟩
  have emits (telemetry : Telemetry) : Returns (Initialized config)
      (emit environment connected telemetry) (fun _ => Initialized config) :=
    emit_returns healthy (fun _ initialized => ⟨initialized.idle, initialized.never,
      initialized.off⟩) connected fun world => logged world telemetry
  apply Ensures.bind (Ensures.bind Ensures.get fun _ => emits _)
  exact fun _ => Ensures.pure fun _ => id

section Loop

variable [Rounding]

theorem Calm.tick (healthy : environment.Healthy config) {world : World}
    (calm : Calm config world) (now : ℚ) :
    Calm config (finalState ((tick config environment now).run world)) := by
  have result := tick_result config healthy.tame now world
  generalize (TimeProportionalActuator.tick config environment now).run world = outcome
    at result ⊢
  cases result with
  | unchanged decided => exact fun idle => calm (by simpa using idle)
  | refused decided after plans different switching =>
      cases switch_succeeds healthy.tame healthy.commands switching
  | switched decided after points plans different switching =>
      intro idle
      have wanted : decided.requestedAction = .idle := idle
      rw [wanted] at switching
      have off : BothOff config after.plugs := bothOff_of_switch_idle healthy.tame switching
      exact off

def Paced (config : Config) (base world : World) : Prop :=
  Rested config atReading base world ∧ Calm config world

def Current (config : Config) (base : World) (reading : ℚ) (world : World) : Prop :=
  Paced config base world ∧ world.now = reading ∧
    lastClock (base.eventsSince world) = some reading

theorem Current.prompt {base world : World} {reading : ℚ}
    (current : Current config base reading world) (next : World) :
    PromptSince atReading world.now base world next := by
  intro event earlier _ _ same
  rw [atReading, same, current.2.2, Option.getD_some, current.2.1]

theorem Paced.later {base world next : World} (paced : Paced config base world)
    (log : next.log = world.log) (initialPlugs : next.initialPlugs = world.initialPlugs)
    (actuator : next.actuator = world.actuator) (now : world.now ≤ next.now) :
    Paced config base next := by
  have plugs : next.plugs = world.plugs := by
    rw [World.plugs, World.plugs, log, initialPlugs]
  refine ⟨paced.1.later log initialPlugs ⟨by rw [actuator], by rw [actuator],
    by rw [actuator]⟩ now, fun idle => ?_⟩
  rw [plugs]
  exact paced.2 (actuator ▸ idle)

theorem Paced.logged {base world next : World} (paced : Paced config base world)
    {event : Event} (neutral : event.kind.isNeutral = true)
    (log : next.log = event :: world.log)
    (initialPlugs : next.initialPlugs = world.initialPlugs)
    (actuator : Rested.SameLockout world next) (now : world.now ≤ next.now) :
    Paced config base next := by
  have plugs : next.plugs = world.plugs := by
    rcases event with ⟨time, kind⟩
    rw [World.plugs, World.plugs, log, initialPlugs]
    cases kind <;> first | rfl | cases neutral
  refine ⟨paced.1.unaffected log initialPlugs plugs actuator now, fun idle => ?_⟩
  rw [plugs]
  exact paced.2 (actuator.action ▸ idle)

theorem paced_rules (healthy : environment.Healthy config) (valid : config.Valid)
    (distinct : config.nodePlugHeat ≠ config.nodePlugCool) (base : World) :
    LoopInvariant config environment (Paced config base) (Current config base) where
  pointFree world paced := paced.later rfl rfl rfl le_rfl
  sampledPointFree now world current :=
    ⟨current.1.later rfl rfl rfl le_rfl, current.2.1, current.2.2⟩
  released now world current := current.1
  clocked world paced := by
    have reading := healthy.clock world
    refine ⟨paced.logged rfl rfl rfl ⟨rfl, rfl, rfl⟩ reading.ge, rfl, ?_⟩
    rw [paced.1.follows.eventsSince_cons rfl]
    rfl
  slept world paced := by
    have positive := valid.control.actuatorTickS_pos
    refine paced.logged rfl rfl rfl ⟨rfl, rfl, rfl⟩ ?_
    change world.now ≤ world.now + _
    linarith
  answered world node endpoint reply paced := by
    have nonneg := reply.duration_nonneg
    refine paced.logged rfl rfl rfl ⟨rfl, rfl, rfl⟩ ?_
    change world.now ≤ world.now + _
    linarith
  emitted world telemetry paced := paced.logged rfl rfl rfl ⟨rfl, rfl, rfl⟩ le_rfl
  remembered now world controller loop current :=
    ⟨current.1.later rfl rfl rfl le_rfl, current.2.1, current.2.2⟩
  setEffort effort now := by
    intro world current
    rcases setEffort_run config healthy.quiet effort now world with ⟨points, ran⟩
    rw [ran]
    refine ⟨current.1.logged rfl rfl rfl ⟨rfl, rfl, rfl⟩ le_rfl, current.2.1, ?_⟩
    rw [current.1.1.follows.eventsSince_cons rfl]
    exact current.2.2
  tick now := by
    refine Ensures.of_finalState fun world current => ?_
    have prompt := current.prompt
    rcases current with ⟨⟨rested, calm⟩, rfl, clock⟩
    refine ⟨rested.tick healthy.tame distinct (fun idle _ direction _ _ => ?_) (prompt _),
      calm.tick healthy _⟩
    exact bothOff_iff.mp (calm idle) _
  plan now := by
    refine Ensures.of_finalState fun world paced => ?_
    rcases world.actuator.plan_advanceWindow config.control now with ⟨decided, plans⟩
    rw [plan_run healthy.quiet world plans]
    exact paced.logged rfl rfl rfl
      ⟨by simp, by simp [World.planned], by simp [World.planned]⟩ le_rfl
  forceIdle now reason := by
    refine Ensures.of_finalState fun world current => ?_
    have prompt := current.prompt
    rcases current with ⟨⟨rested, calm⟩, rfl, clock⟩
    exact ⟨rested.forceIdle healthy.tame distinct reason (prompt _),
      calm.forceIdle healthy _ reason⟩

theorem Initialized.paced {world : World} (initialized : Initialized config world) :
    Paced config world world :=
  ⟨Rested.beginning initialized.idle initialized.never, fun _ => initialized.off⟩

/-- The world in which `run` enters its loop. -/
def started (config : Config) (environment : Environment) (connected : Bool) (time : ℚ)
    (initialPlugs : Int → Bool) : World :=
  finalState ((ControlLoop.start config environment connected).run
    (World.fresh time initialPlugs))

/-- What has happened since then, newest first. -/
def loopEvents (config : Config) (environment : Environment) (connected : Bool)
    (rounds : Nat) (time : ℚ) (initialPlugs : Int → Bool) : List Event :=
  (started config environment connected time initialPlugs).eventsSince
    (finalState ((ControlLoop.run config environment connected rounds).run
      (World.fresh time initialPlugs)))

theorem started_paced (healthy : environment.Healthy config) (connected : Bool) (time : ℚ)
    (initialPlugs : Int → Bool) :
    let base := started config environment connected time initialPlugs
    Paced config base base := by
  have starts := start_initializes healthy connected
  have initialized : Initialized config
      (started config environment connected time initialPlugs) :=
    (starts.raising fun _ _ impossible => impossible.elim).finalState rfl
  exact initialized.paced

theorem run_paced (healthy : environment.Healthy config) (valid : config.Valid)
    (distinct : config.nodePlugHeat ≠ config.nodePlugCool) (connected : Bool) (rounds : Nat)
    (time : ℚ) (initialPlugs : Int → Bool) :
    Paced config (started config environment connected time initialPlugs)
      (finalState ((ControlLoop.run config environment connected rounds).run
        (World.fresh time initialPlugs))) := by
  set base := started config environment connected time initialPlugs
  have starts : Ensures (fun world => world = World.fresh time initialPlugs)
      (ControlLoop.start config environment connected)
      (fun _ => Paced config base) (fun _ => Paced config base) := by
    apply Ensures.of_finalState
    rintro world rfl
    exact started_paced healthy connected time initialPlugs
  exact ((paced_rules healthy valid distinct base).run connected rounds starts).finalState rfl

/-- The event turns a plug ON, and `off` is when the opposite plug last went OFF. -/
def IsReversal (config : Config) (initialPlugs : Int → Bool) (log : List Event)
    (event : Event) (earlier : List Event) (off : Event) (before : List Event) : Prop :=
  event :: earlier <:+ log ∧ ∃ direction : Direction,
    TurnsOn initialPlugs (config.node direction) event earlier ∧
    lastOff initialPlugs (config.node direction.opposite) earlier = some (off, before)

/-- How long after the clock reading of its tick a command took effect. -/
def lag (event : Event) (earlier : List Event) : ℚ :=
  event.time - atReading event earlier

/-- A reversal keeps the dead time if its OFF command lagged no more than its
ON command. What happens before `initialize` is done does not count. -/
theorem slow_commands_keep_dead_time (healthy : environment.Healthy config)
    (accepted : config.Accepted) (distinct : config.nodePlugHeat ≠ config.nodePlugCool)
    (connected : Bool) (rounds : Nat) (time : ℚ) (initialPlugs : Int → Bool)
    {event last : Event} {earlier before : List Event}
    (reversal : IsReversal config (started config environment connected time initialPlugs).plugs
      (loopEvents config environment connected rounds time initialPlugs)
      event earlier last before)
    (lagged : lag last before ≤ lag event earlier) :
    config.Apart last.time event.time := by
  have paced := run_paced healthy accepted.valid distinct connected rounds time initialPlugs
  rcases reversal with ⟨among, direction, turnsOn, went⟩
  have gap := paced.1.gap event earlier direction among turnsOn
  have apart : config.Apart (atReading last before) (atReading event earlier) :=
    gap.2 last before went
  have further : atReading event earlier - atReading last before ≤ event.time - last.time := by
    unfold lag at lagged
    linarith
  exact le_trans apart (fl_mono further)

end Loop

/-- The beer warms up after half a minute, and a plug that is ON takes some time
to turn OFF. -/
def Environment.warming (release : CallTiming) : Environment :=
  { obedient with
    setPlug := fun world node on =>
      { (if on = false ∧ world.plugs node = true then release else .instant) with
        outcome := .done }
    readTempCenti := fun world _ _ =>
      { CallTiming.instant with value := .ok (if world.now < 30 then 0 else 10000) } }

theorem Environment.warming_healthy {release : CallTiming} {config : Config}
    (nonneg : 0 ≤ config.chipTimeoutS) (inTime : release.duration ≤ config.chipTimeoutS) :
    (warming release).Healthy config := by
  have instant : CallTiming.instant.duration ≤ config.chipTimeoutS := by
    change (0 : ℚ) ≤ config.chipTimeoutS
    exact_mod_cast nonneg
  constructor
  · exact fun world => rfl
  · exact fun world => rfl
  · exact fun world node on => rfl
  · intro world node on
    simp only [warming]
    split
    · exact inTime
    · exact instant
  · exact fun world node endpoint => ⟨_, rfl⟩
  · exact fun world node endpoint => instant
  · exact fun world node endpoint => ⟨0, rfl⟩
  · exact fun world node endpoint => instant
  · exact fun world exception raised => by cases raised

section

open Binary64

def warmingLog (release : CallTiming) (rounds : Nat) : List Event :=
  (finalState ((ControlLoop.run Config.shipped (.warming release) false rounds).run
    (World.fresh 0 fun _ => false))).log

theorem slow_commands_keep_dead_time_warming :
    ∃ event last earlier before,
      IsReversal Config.shipped
        (started Config.shipped (.warming .instant) false 0 fun _ => true).plugs
        (loopEvents Config.shipped (.warming .instant) false 71 0 fun _ => true)
        event earlier last before ∧
      Config.shipped.Apart last.time event.time := by
  let events := loopEvents Config.shipped (.warming .instant) false 71 0 fun _ => true
  have reversal : IsReversal Config.shipped
      (started Config.shipped (.warming .instant) false 0 fun _ => true).plugs
      (loopEvents Config.shipped (.warming .instant) false 71 0 fun _ => true)
      ⟨70, .setPlug 12 true .done⟩ (events.drop 3)
      ⟨60, .setPlug 11 false .done⟩ (events.drop 53) :=
    ⟨by decide +kernel, .cool, by decide +kernel, by decide +kernel⟩
  have healthy : (Environment.warming .instant).Healthy Config.shipped :=
    Environment.warming_healthy (by decide) (by decide +kernel)
  exact ⟨_, _, _, _, reversal, slow_commands_keep_dead_time healthy
    Config.shipped_accepted (by decide) false 71 0 (fun _ => true) reversal
    (by decide +kernel)⟩

def CallTiming.twentySeconds : CallTiming where
  duration := 20
  effectAfter := 20
  effectAfter_nonneg := by norm_num
  effectAfter_le := le_refl 20

/-- Turning the heater OFF lasts until 80, and the second tick of the same update
turns the cooler ON at once. -/
theorem slow_commands_shorten_dead_time :
    ¬∀ (config : Config) (environment : Environment) (connected : Bool) (rounds : Nat)
      (time : ℚ) (initialPlugs : Int → Bool) (event last : Event)
      (earlier before : List Event),
      config.Accepted → config.nodePlugHeat ≠ config.nodePlugCool →
      environment.Healthy config → BothOff config initialPlugs →
      IsReversal config initialPlugs
        (finalState ((ControlLoop.run config environment connected rounds).run
          (World.fresh time initialPlugs))).log event earlier last before →
      config.control.reverseIdleS ≤ event.time - last.time := by
  intro claimed
  have reversal : IsReversal Config.shipped (fun _ => false)
      (warmingLog .twentySeconds 61)
      ⟨80, .setPlug 12 true .done⟩ ((warmingLog .twentySeconds 61).drop 5)
      ⟨80, .setPlug 11 false .done⟩ ((warmingLog .twentySeconds 61).drop 13) :=
    ⟨by decide +kernel, .cool, by decide +kernel, by decide +kernel⟩
  have kept := claimed Config.shipped (.warming .twentySeconds) false 61 0 (fun _ => false)
    _ _ _ _ Config.shipped_accepted (by decide)
    (Environment.warming_healthy (by decide) (by decide +kernel)) ⟨rfl, rfl⟩ reversal
  exact absurd kept (by decide +kernel)

end

end BuranBrew.Host

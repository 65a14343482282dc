import BuranBrew.Foundation.Smoothing
import BuranBrew.Host.Moves

/-! # Failing temperature reads

A `_control_update` whose reads fail gives up before it has changed anything.
-/

namespace BuranBrew.Host

open Execution TimeProportionalActuator

/-- A temperature read succeeds or raises `RuntimeError` or `TimeoutExpired`. -/
def Environment.ReadFailuresOnly (environment : Environment) : Prop :=
  ∀ world node endpoint exception,
    (environment.readTempCenti world node endpoint).value = .error exception →
      exception.isCommandFailure = true

variable {config : Config} {environment : Environment} {connected : Bool}

/-! ## The filters after the reads -/

section Frame

variable (config environment connected) (fact : LoopState → Prop)

theorem switch_keeps_loop (action : Action) :
    Keeps (fun world => fact world.loop) (switch config environment action) :=
  switch_keeps config (fun _ => id) (fun _ _ _ => id) action

theorem assign_keeps_loop (update : Actuator → Actuator) :
    Keeps (fun world => fact world.loop) (assign environment update) :=
  assign_keeps (fun _ => id) fun _ => id

theorem record_keeps_loop (kind : EventKind) :
    Keeps (fun world => fact world.loop) (record kind) :=
  record_keeps fun _ => id

theorem monotonic_keeps_loop : Keeps (fun world => fact world.loop) (monotonic environment) :=
  monotonic_ensures (fun _ => id) fun _ => id

theorem setEffort_keeps_loop [Rounding] (effort now : ℚ) :
    Keeps (fun world => fact world.loop) (setEffort config environment effort now) := by
  have kept := assign_keeps_loop environment fact
  have stored (stale : Bool) : Keeps (fun world => fact world.loop) (do
      assign environment fun self => { self with effort := max (-1) (min 1 effort) }
      assign environment fun self => { self with lastEffortUpdate := some now }
      record (.setEffort (max (-1) (min 1 effort)) stale)) :=
    Keeps.bind (kept _) fun _ => Keeps.bind (kept _) fun _ => record_keeps_loop fact _
  apply Keeps.bind Keeps.get
  intro world
  dsimp only
  split_ifs
  · exact Keeps.bind (kept _) fun _ => stored _
  · exact stored _

theorem plan_keeps_loop [Rounding] (now : ℚ) :
    Keeps (fun world => fact world.loop) (plan config environment now) := by
  apply Keeps.bind (assign_keeps_loop environment fact _)
  intro _
  apply Keeps.bind Keeps.get
  intro world
  dsimp only
  cases world.actuator.plan config.control now with
  | error exception => exact Keeps.throw _
  | ok decided => exact Keeps.bind (record_keeps_loop fact _) fun _ => Keeps.pure _

theorem commit_keeps_loop (wanted previous : Action) (now : ℚ) :
    Keeps (fun world => fact world.loop) (commit environment wanted previous now) := by
  have kept := assign_keeps_loop environment fact
  have became : Keeps (fun world => fact world.loop) (become environment wanted) :=
    Keeps.bind (kept _) fun _ => record_keeps_loop fact _
  unfold commit
  by_cases leaves : previous.isActive ∧ wanted ≠ previous
  · rw [if_pos leaves]
    exact Keeps.bind (kept _) fun _ => Keeps.bind (kept _) fun _ => became
  · rw [if_neg leaves]
    split_ifs
    · exact Keeps.bind (kept _) fun _ => became
    · exact became

theorem tick_keeps_loop [Rounding] (now : ℚ) :
    Keeps (fun world => fact world.loop) (tick config environment now) := by
  apply Keeps.bind (record_keeps_loop fact _)
  intro _
  apply Keeps.bind (plan_keeps_loop config environment fact now)
  intro decided
  apply Keeps.bind Keeps.get
  intro world
  dsimp only
  split_ifs
  · exact Keeps.pure _
  · apply Keeps.bind (switch_keeps_loop config environment fact _)
    intro success
    cases success with
    | false => exact Keeps.pure _
    | true =>
        exact Keeps.bind (commit_keeps_loop environment fact _ _ now) fun _ => Keeps.pure _

theorem emit_keeps_loop (telemetry : Telemetry) :
    Keeps (fun world => fact world.loop) (emit environment connected telemetry) :=
  emit_keeps (fun _ => id) connected fun _ => id

theorem emitTransition_keeps_loop (transition : Option ActuatorTransition) :
    Keeps (fun world => fact world.loop)
      (ControlLoop.emitTransition environment connected transition) :=
  emitTransition_keeps (fun _ => id) connected (fun _ _ => id) transition

theorem readGravity_keeps_loop [Rounding] :
    Keeps (fun world => fact world.loop) (ControlLoop.readGravity config environment) := by
  have read : Keeps (fun world => fact world.loop)
      (readGravityMilli environment config.nodeSensor config.epGravity) :=
    readThrough_keeps (fun _ => id) (fun _ _ _ _ => id) _ _ _
  exact Keeps.fallback none (Keeps.bind read fun _ => Keeps.pure _)

theorem report_keeps_loop [Rounding] (ambientC internalC : ℚ) (decision : ControlDecision) :
    Keeps (fun world => fact world.loop) (ControlLoop.report config environment connected
      ambientC internalC decision) := by
  have emits := emit_keeps_loop environment connected fact
  have finishes (sg : Option ℚ) : Keeps (fun world => fact world.loop) (do
      let action := (← get).actuator.action
      emit environment connected (.state ambientC internalC sg action decision.effort)) :=
    Keeps.bind Keeps.get fun _ => emits _
  apply Keeps.bind (readGravity_keeps_loop config environment fact)
  intro sg
  apply Keeps.bind (monotonic_keeps_loop environment fact)
  intro now
  apply Keeps.bind (tick_keeps_loop config environment fact now)
  intro transition
  apply Keeps.bind (emitTransition_keeps_loop environment connected fact transition)
  intro _
  apply Keeps.bind (plan_keeps_loop config environment fact now)
  intro plan
  apply Keeps.bind (Keeps.bind Keeps.get fun _ => emits _)
  intro _
  apply Keeps.bind (emits _)
  intro _
  apply Keeps.bind (emits _)
  intro _
  cases sg with
  | none => exact finishes none
  | some sg => exact Keeps.bind (emits _) fun _ => finishes (some sg)

end Frame

theorem ema_eq_smooth [Rounding] (previous : Option ℚ) (sample alpha : ℚ) :
    ControlLoop.ema previous sample alpha = Smoothing.smooth fl alpha previous sample := by
  cases previous <;> rfl

def Filtered [Rounding] (config : Config) (earlier : LoopState) (ambientC internalC : ℚ)
    (loop : LoopState) : Prop :=
  loop.ambientFiltered = some (Smoothing.smooth fl config.control.ambientFilterAlpha
      earlier.ambientFiltered ambientC) ∧
    loop.internalFiltered = some (Smoothing.smooth fl config.control.internalFilterAlpha
      earlier.internalFiltered internalC)

theorem monotonic_returns_loop (quiet : environment.Quiet) (fact : LoopState → Prop) :
    Returns (fun world => fact world.loop) (monotonic environment)
      (fun _ world => fact world.loop) := by
  apply Ensures.bind (point_returns quiet fun _ => id)
  intro _
  apply Ensures.get_bind
  intro current holds
  have stored : Returns (fun world => world = current)
      (set (current.clocked (environment.clock current)) : Py Unit)
      (fun _ world => fact world.loop) := Ensures.set fun _ _ => holds
  exact Ensures.bind stored fun _ => Ensures.pure fun _ => id

theorem assignLoop_returns (quiet : environment.Quiet) (update : LoopState → LoopState)
    (earlier : LoopState) :
    Returns (fun world => world.loop = earlier) (ControlLoop.assign environment update)
      (fun _ world => world.loop = update earlier) :=
  Ensures.bind (point_returns quiet fun _ => id) fun _ =>
    Ensures.modify fun _ same => congrArg update same

/-- Once both reads have succeeded, both filters follow, whatever is raised later. -/
theorem steer_filters [Rounding] (quiet : environment.Quiet) (earlier : LoopState)
    (ambientC internalC : ℚ) :
    Ensures (fun world => world.loop = earlier)
      (ControlLoop.steer config environment connected ambientC internalC)
      (fun _ world => Filtered config earlier ambientC internalC world.loop)
      (fun _ world => Filtered config earlier ambientC internalC world.loop) := by
  let filtered := Filtered config earlier ambientC internalC
  apply Ensures.bind ((monotonic_returns_loop quiet (· = earlier)).raising
    fun _ _ => False.elim)
  intro now
  apply Ensures.bind ((assignLoop_returns quiet _ earlier).raising fun _ _ => False.elim)
  intro _
  apply Ensures.bind ((assignLoop_returns quiet _ _).raising fun _ _ => False.elim)
  intro _
  have both : filtered { earlier with
      ambientFiltered :=
        some (ControlLoop.ema earlier.ambientFiltered ambientC config.control.ambientFilterAlpha)
      internalFiltered := some
        (ControlLoop.ema earlier.internalFiltered internalC config.control.internalFilterAlpha) } :=
    ⟨congrArg some (ema_eq_smooth _ _ _), congrArg some (ema_eq_smooth _ _ _)⟩
  have controls (update : Controller → Controller) : Keeps (fun world => filtered world.loop)
      (PIController.assign environment update) :=
    Keeps.bind (point_keeps fun _ => id) fun _ => Ensures.modify fun _ => id
  have remembers (diffCenti : Int) : Keeps (fun world => filtered world.loop)
      (ControlLoop.assign environment fun self => { self with lastDiffCenti := diffCenti }) :=
    Keeps.bind (point_keeps fun _ => id) fun _ => Ensures.modify fun _ => id
  have starts (world : World) (same : world.loop = _) : filtered world.loop := same ▸ both
  apply Ensures.strengthen _ starts
  apply Keeps.bind Keeps.get
  intro current
  apply Keeps.bind
  · exact Keeps.bind Keeps.get fun _ => Keeps.bind (controls _) fun _ =>
      Keeps.bind (controls _) fun _ => Keeps.bind Keeps.get fun _ => Keeps.pure _
  · intro decision
    apply Keeps.bind (remembers _)
    intro _
    apply Keeps.bind (setEffort_keeps_loop config environment filtered _ now)
    intro _
    apply Keeps.bind (tick_keeps_loop config environment filtered now)
    intro transition
    exact Keeps.bind (emitTransition_keeps_loop environment connected filtered transition)
      fun _ => Keeps.pure _

/-! ## The reads -/

section Reads

variable (config environment)

def ambientReply (world : World) : ReadReply :=
  environment.readTempCenti world.pointed config.nodeSensor config.epAmbient

def afterAmbient (world : World) : World :=
  world.pointed.answered config.nodeSensor config.epAmbient
    (ambientReply config environment world)

def internalReply (world : World) : ReadReply :=
  environment.readTempCenti (afterAmbient config environment world).pointed config.nodeSensor
    config.epInternal

/-- The calibrated samples of a cycle in which both reads succeed. -/
def goodSample [Rounding] (world : World) : Option (ℚ × ℚ) :=
  match (ambientReply config environment world).value,
    (internalReply config environment world).value with
  | .ok ambient, .ok internal => some (fl (fl (fl ambient / 100) + config.ambientOffsetC),
      fl (fl (fl internal / 100) + config.internalOffsetC))
  | _, _ => none

end Reads

structure OnlyReads (before after : World) : Prop where
  loop : after.loop = before.loop
  controller : after.controller = before.controller
  actuator : after.actuator = before.actuator
  plugs : after.plugs = before.plugs
  log : ∃ added, after.log = added ++ before.log ∧
    ∀ event ∈ added, ∃ node endpoint, event.kind = .read node endpoint

namespace OnlyReads

theorem read {before after : World} (reads : OnlyReads before after) (node endpoint : Int)
    (reply : ReadReply) : OnlyReads before (after.pointed.answered node endpoint reply) where
  loop := reads.loop
  controller := reads.controller
  actuator := reads.actuator
  plugs := reads.plugs
  log := by
    rcases reads.log with ⟨added, log, onlyReads⟩
    refine ⟨⟨after.now + reply.effectAfter, .read node endpoint⟩ :: added,
      congrArg (List.cons _) log, ?_⟩
    intro event member
    rcases List.mem_cons.mp member with rfl | earlier
    · exact ⟨node, endpoint, rfl⟩
    · exact onlyReads event earlier

theorem refl (world : World) : OnlyReads world world :=
  ⟨rfl, rfl, rfl, rfl, [], rfl, fun _ member => absurd member (List.not_mem_nil)⟩

end OnlyReads

theorem readTemperatures_run [Rounding] (config : Config) (quiet : environment.Quiet)
    (failures : environment.ReadFailuresOnly) (world : World) :
    ∃ after, (ControlLoop.readTemperatures config environment).run world =
        .ok (goodSample config environment world) after ∧ OnlyReads world after := by
  have first : OnlyReads world (afterAmbient config environment world) :=
    (OnlyReads.refl world).read _ _ _
  unfold ControlLoop.readTemperatures readTempCenti
  cases ambient : (ambientReply config environment world).value with
  | error exception =>
      have caught := failures _ _ _ exception ambient
      rw [run_tryCatch, EStateM.run_bind, readThrough_raised quiet ambient]
      simp only [goodSample, ambient, caught, if_true, EStateM.run_pure]
      exact ⟨_, rfl, first⟩
  | ok value =>
      have returned : (readThrough environment environment.readTempCenti config.nodeSensor
          config.epAmbient).run world = .ok value (afterAmbient config environment world) :=
        readThrough_returned quiet ambient
      rw [run_tryCatch, EStateM.run_bind, returned]
      dsimp only
      rw [EStateM.run_bind]
      cases internal : (internalReply config environment world).value with
      | error exception =>
          have caught := failures _ _ _ exception internal
          rw [readThrough_raised quiet internal]
          simp only [goodSample, ambient, internal, caught, if_true, EStateM.run_pure]
          exact ⟨_, rfl, first.read _ _ _⟩
      | ok value' =>
          rw [readThrough_returned quiet internal]
          simp only [goodSample, ambient, internal, EStateM.run_pure]
          exact ⟨_, rfl, first.read _ _ _⟩

/-! ## Cycles -/

section Cycles

variable [Rounding] (config environment connected)

def cycled (world : World) : World :=
  finalState ((ControlLoop.controlUpdate config environment connected).run world)

/-- A sequence of `_control_update` calls. What happens before each of them, such as the
ticks of the loop, is left open. -/
def runCycles (world : World) (interludes : List (World → World)) : World :=
  interludes.foldl (fun world interlude => cycled config environment connected (interlude world))
    world

/-- The samples of the cycles in which both reads succeed, in order. -/
def goodSamples : World → List (World → World) → List (ℚ × ℚ)
  | _, [] => []
  | world, interlude :: interludes =>
      (goodSample config environment (interlude world)).toList ++
        goodSamples (cycled config environment connected (interlude world)) interludes

end Cycles

/-- What a cycle must not touch when a read fails. -/
structure Unaffected (before after : World) : Prop where
  loop : after.loop = before.loop
  controller : after.controller = before.controller
  actuator : after.actuator = before.actuator
  plugs : after.plugs = before.plugs
  noCommands : ∀ event ∈ before.eventsSince after, ∀ node on outcome,
    event.kind ≠ .setPlug node on outcome
  noTelemetry : ∀ event ∈ before.eventsSince after, ∀ telemetry,
    event.kind ≠ .emitted telemetry

theorem OnlyReads.unaffected {before after : World} (reads : OnlyReads before after) :
    Unaffected before after := by
  rcases reads.log with ⟨added, log, onlyReads⟩
  have events : before.eventsSince after = added := World.eventsSince_eq log
  refine ⟨reads.loop, reads.controller, reads.actuator, reads.plugs, ?_, ?_⟩
  · intro event member node on outcome command
    rcases onlyReads event (events ▸ member) with ⟨_, _, read⟩
    cases read.symm.trans command
  · intro event member telemetry emission
    rcases onlyReads event (events ▸ member) with ⟨_, _, read⟩
    cases read.symm.trans emission

theorem controlUpdate_failed [Rounding] (connected : Bool) (quiet : environment.Quiet)
    (failures : environment.ReadFailuresOnly) {world : World}
    (failed : goodSample config environment world = none) :
    Unaffected world (cycled config environment connected world) := by
  rcases readTemperatures_run config quiet failures world with ⟨after, ran, reads⟩
  rw [failed] at ran
  have returns : (ControlLoop.controlUpdate config environment connected).run world =
      .ok () after := by
    simp only [ControlLoop.controlUpdate, EStateM.run_bind, ran, EStateM.run_pure]
  rw [cycled, returns]
  exact reads.unaffected

theorem controlUpdate_filters [Rounding] (quiet : environment.Quiet)
    (failures : environment.ReadFailuresOnly) {world : World} {ambientC internalC : ℚ}
    (succeeded : goodSample config environment world = some (ambientC, internalC)) :
    Filtered config world.loop ambientC internalC
      (cycled config environment connected world).loop := by
  rcases readTemperatures_run config quiet failures world with ⟨after, ran, reads⟩
  rw [succeeded] at ran
  let filtered := Filtered config world.loop ambientC internalC
  have updates : Ensures (fun now => now = after)
      (do
        let decision ←
          ControlLoop.steer config environment connected ambientC internalC
        ControlLoop.report config environment connected ambientC internalC decision)
      (fun _ world => filtered world.loop) (fun _ world => filtered world.loop) := by
    apply Ensures.bind ((steer_filters quiet world.loop ambientC internalC).startingAt
      reads.loop)
    exact fun decision => report_keeps_loop config environment connected filtered _ _ decision
  have outcome := updates after rfl
  unfold cycled
  simp only [ControlLoop.controlUpdate, EStateM.run_bind, ran]
  exact Ensures.finalState updates rfl

/-! ## Runs -/

section Runs

variable [Rounding] (quiet : environment.Quiet) (failures : environment.ReadFailuresOnly)

include quiet failures

theorem cycled_filters (config : Config) (connected : Bool) (world : World) :
    (cycled config environment connected world).loop.ambientFiltered =
        Smoothing.smoothAll fl config.control.ambientFilterAlpha world.loop.ambientFiltered
          ((goodSample config environment world).toList.map Prod.fst) ∧
      (cycled config environment connected world).loop.internalFiltered =
        Smoothing.smoothAll fl config.control.internalFilterAlpha world.loop.internalFiltered
          ((goodSample config environment world).toList.map Prod.snd) := by
  cases taken : goodSample config environment world with
  | none =>
      have kept := (controlUpdate_failed connected quiet failures taken).loop
      rw [kept]
      exact ⟨rfl, rfl⟩
  | some samples => exact controlUpdate_filters quiet failures taken

theorem runCycles_filters (config : Config) (connected : Bool) (interludes : List (World → World))
    (kept : ∀ interlude ∈ interludes, ∀ world, (interlude world).loop = world.loop)
    (world : World) :
    (runCycles config environment connected world interludes).loop.ambientFiltered =
        Smoothing.smoothAll fl config.control.ambientFilterAlpha world.loop.ambientFiltered
          ((goodSamples config environment connected world interludes).map Prod.fst) ∧
      (runCycles config environment connected world interludes).loop.internalFiltered =
        Smoothing.smoothAll fl config.control.internalFilterAlpha world.loop.internalFiltered
          ((goodSamples config environment connected world interludes).map Prod.snd) := by
  induction interludes generalizing world with
  | nil => exact ⟨rfl, rfl⟩
  | cons interlude interludes induction =>
      have rest := induction (fun later member => kept later (List.mem_cons_of_mem _ member))
        (cycled config environment connected (interlude world))
      have first := cycled_filters quiet failures config connected (interlude world)
      rw [kept interlude List.mem_cons_self world] at first
      rw [goodSamples, List.map_append, List.map_append, Smoothing.smoothAll_append,
        Smoothing.smoothAll_append, ← first.1, ← first.2]
      exact rest

end Runs

/-! ## Filters of floats -/

section

open Binary64 FloatingPoint

theorem goodSample_members (config : Config) (environment : Environment) (world : World) :
    ∀ samples ∈ goodSample config environment world,
      binary64.Member samples.1 ∧ binary64.Member samples.2 := by
  intro samples taken
  rw [Option.mem_def, goodSample] at taken
  split at taken
  · cases taken
    exact ⟨binary64.member_round _, binary64.member_round _⟩
  · cases taken

theorem goodSamples_members (config : Config) (environment : Environment) (connected : Bool)
    (world : World) (interludes : List (World → World)) :
    ∀ samples ∈ goodSamples config environment connected world interludes,
      binary64.Member samples.1 ∧ binary64.Member samples.2 := by
  induction interludes generalizing world with
  | nil => exact fun _ among => absurd among List.not_mem_nil
  | cons interlude interludes induction =>
      intro samples among
      rw [goodSamples, List.mem_append] at among
      rcases among with now | later
      · exact goodSample_members config environment _ samples (Option.mem_toList.mp now)
      · exact induction _ samples later

/-- A filter is the moving average of the samples. It lies between their extremes, unless its
share is one and the difference of two consecutive samples is rounded. -/
structure FollowsSamples (alpha : ℚ) (samples : List ℚ) (filtered : Option ℚ) : Prop where
  average : filtered = Smoothing.average fl alpha samples
  between : (alpha < 1 ∨ samples.IsChain fun sample next => binary64.Member (next - sample)) →
    ∀ value low high, filtered = some value → samples.min? = some low →
      samples.max? = some high → low ≤ value ∧ value ≤ high

theorem followsSamples_average {alpha : ℚ} (positive : 0 < alpha) (small : alpha ≤ 1)
    (float : binary64.Member alpha) {samples : List ℚ}
    (members : ∀ sample ∈ samples, binary64.Member sample) :
    FollowsSamples alpha samples (Smoothing.average fl alpha samples) :=
  ⟨rfl, fun smoothed _ _ _ known lowest highest =>
    Smoothing.average_between Format.binary64_fine float positive.le small members smoothed known
      lowest highest⟩

/-- The filters follow exactly the cycles in which both reads succeed; a cycle in which one
fails changes nothing. -/
theorem sensor_failures_are_atomic (quiet : environment.Quiet)
    (failures : environment.ReadFailuresOnly) (accepted : config.Accepted)
    (ambientFloat : binary64.Member config.control.ambientFilterAlpha)
    (internalFloat : binary64.Member config.control.internalFilterAlpha) (connected : Bool)
    (start : ℚ) (plugs : Int → Bool) (interludes : List (World → World))
    (kept : ∀ interlude ∈ interludes, ∀ world, (interlude world).loop = world.loop) :
    let cycles := runCycles config environment connected (World.fresh start plugs)
    let samples := goodSamples config environment connected (World.fresh start plugs) interludes
    FollowsSamples config.control.ambientFilterAlpha (samples.map Prod.fst)
        (cycles interludes).loop.ambientFiltered ∧
      FollowsSamples config.control.internalFilterAlpha (samples.map Prod.snd)
        (cycles interludes).loop.internalFiltered ∧
      ∀ done interlude rest, interludes = done ++ interlude :: rest →
        goodSample config environment (interlude (cycles done)) = none →
        Unaffected (interlude (cycles done))
          (cycled config environment connected (interlude (cycles done))) := by
  intro cycles samples
  have valid := accepted.valid.control
  have filters := runCycles_filters quiet failures config connected interludes kept
    (World.fresh start plugs)
  have members := goodSamples_members config environment connected (World.fresh start plugs)
    interludes
  refine ⟨?_, ?_, ?_⟩
  · change FollowsSamples _ _ (runCycles config environment connected
      (World.fresh start plugs) interludes).loop.ambientFiltered
    rw [filters.1]
    apply followsSamples_average valid.ambientFilterAlpha_pos valid.ambientFilterAlpha_le
      ambientFloat
    intro sample among
    rcases List.mem_map.mp among with ⟨pair, taken, rfl⟩
    exact (members pair taken).1
  · change FollowsSamples _ _ (runCycles config environment connected
      (World.fresh start plugs) interludes).loop.internalFiltered
    rw [filters.2]
    apply followsSamples_average valid.internalFilterAlpha_pos valid.internalFilterAlpha_le
      internalFloat
    intro sample among
    rcases List.mem_map.mp among with ⟨pair, taken, rfl⟩
    exact (members pair taken).2
  · intro done interlude rest split failed
    exact controlUpdate_failed connected quiet failures failed

/-- The first read of the internal temperature times out. -/
def Environment.slowStart : Environment :=
  { obedient with
    readTempCenti := fun world _ endpoint =>
      { CallTiming.instant with
        value := if endpoint = 2 ∧ world.log.length = 1 then .error .timeoutExpired
          else .ok 1900 } }

theorem Environment.slowStart_quiet : slowStart.Quiet := fun _ => rfl

theorem Environment.slowStart_readFailuresOnly : slowStart.ReadFailuresOnly := by
  intro world node endpoint exception failed
  unfold slowStart at failed
  dsimp only at failed
  split at failed
  · cases failed
    rfl
  · cases failed

theorem sensor_failures_are_atomic_slow_start :
    (runCycles Config.shipped .slowStart false (World.fresh 0 fun _ => false)
        [id, id]).loop.internalFiltered = Smoothing.average fl (1 / 4) [19] ∧
      Unaffected (World.fresh 0 fun _ => false)
        (cycled Config.shipped .slowStart false (World.fresh 0 fun _ => false)) := by
  have atomic := sensor_failures_are_atomic Environment.slowStart_quiet
    Environment.slowStart_readFailuresOnly Config.shipped_accepted (by decide +kernel)
    (by decide +kernel) false 0 (fun _ => false) [id, id] (by simp)
  have samples : goodSamples Config.shipped .slowStart false (World.fresh 0 fun _ => false)
      [id, id] = [(19, 19)] := by
    decide +kernel
  dsimp only at atomic
  rw [samples] at atomic
  exact ⟨atomic.2.1.average, atomic.2.2 [] id [id] rfl (by decide +kernel)⟩

def Config.unfiltered : Config :=
  { shipped with
    control := { shipped.control with ambientFilterAlpha := 1, internalFilterAlpha := 1 } }

theorem Config.unfiltered_accepted : unfiltered.Accepted := by
  rw [accepted_iff_valid]
  have control : unfiltered.control.Valid unfiltered.periodS := by
    constructor <;> norm_num [unfiltered, shipped]
  exact ⟨by norm_num [unfiltered, shipped], control, by decide, by decide, by decide⟩

/-- The temperatures rise from 3.17 to 19.19 degrees after the first cycle. -/
def Environment.rising : Environment :=
  { obedient with
    readTempCenti := fun world _ _ =>
      { CallTiming.instant with
        value := .ok (if world.loop.internalFiltered.isNone then 317 else 1919) } }

/-- The difference of the two samples is rounded up, and the filter that does not filter
comes out above both of them. -/
theorem filter_passes_sample :
    ¬∀ (config : Config) (environment : Environment) (connected : Bool) (start : ℚ)
      (plugs : Int → Bool) (interludes : List (World → World)),
      environment.Quiet → environment.ReadFailuresOnly → config.Accepted →
      binary64.Member config.control.ambientFilterAlpha →
      binary64.Member config.control.internalFilterAlpha →
      (∀ interlude ∈ interludes, ∀ world, (interlude world).loop = world.loop) →
      ∀ value low high,
        (runCycles config environment connected (World.fresh start plugs)
          interludes).loop.internalFiltered = some value →
        ((goodSamples config environment connected (World.fresh start plugs) interludes).map
          Prod.snd).min? = some low →
        ((goodSamples config environment connected (World.fresh start plugs) interludes).map
          Prod.snd).max? = some high →
        low ≤ value ∧ value ≤ high := by
  intro claimed
  have samples : goodSamples Config.unfiltered .rising false (World.fresh 0 fun _ => false)
      [id, id] = [(fl (317 / 100), fl (317 / 100)), (fl (1919 / 100), fl (1919 / 100))] := by
    decide +kernel
  have between := claimed .unfiltered .rising false 0 (fun _ => false) [id, id] (fun _ => rfl)
    (fun _ _ _ _ failed => nomatch failed) Config.unfiltered_accepted (by decide +kernel)
    (by decide +kernel) (by simp) (2700752401538745 / 2 ^ 47) (fl (317 / 100))
    (fl (1919 / 100)) (by decide +kernel) (by rw [samples]; decide +kernel)
    (by rw [samples]; decide +kernel)
  exact absurd between.2 (by decide +kernel)

end

end BuranBrew.Host

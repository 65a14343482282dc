import BuranBrew.Host.IdleDecision
import BuranBrew.Host.LoopRules

/-! # Shutdown

The `finally` block switches to IDLE only if the action is not IDLE already. An
exception that leaves the loop between the effect of an ON command and the
assignment of the action therefore leaves its plug ON.
-/

namespace BuranBrew.Host

open Execution TimeProportionalActuator

variable {config : Config} {environment : Environment}

/-- From this world on, no exception arrives between two statements. -/
def Undisturbed (environment : Environment) (base : World) : Prop :=
  ∀ world, base.points ≤ world.points → environment.interrupt world = none

/-- The world came after the base, with a failed command in between if one was
seen. -/
def Extends (base : World) (failed : Bool) (world : World) : Prop :=
  base.points ≤ world.points ∧ ∃ added, world.log = added ++ base.log ∧
    (failed = true → ∃ event ∈ added, event.kind.isFailure = true)

theorem Extends.pointFree (base : World) (failed : Bool) :
    PointFree (Extends base failed) :=
  fun _ extended => ⟨Nat.le_succ_of_le extended.1, extended.2⟩

theorem Extends.sent {base world : World} {failed : Bool}
    (extended : Extends base failed world) (environment : Environment) (node : Int)
    (on : Bool) :
    Extends base (failed || !world.succeeds environment node on)
      (world.sent environment node on) := by
  rcases extended with ⟨later, added, log, seen⟩
  refine ⟨Nat.le_succ_of_le later, world.commandEvent environment node on :: added,
    by simp [log], fun some => ?_⟩
  rw [World.succeeds_iff, Bool.not_not, Bool.or_eq_true] at some
  rcases some with some | some
  · rcases seen some with ⟨event, among, failure⟩
    exact ⟨event, List.mem_cons_of_mem _ among, failure⟩
  · exact ⟨_, List.mem_cons_self, some⟩

theorem switchOff_reports {base : World}
    (undisturbed : Undisturbed environment base)
    (wanted nodes : List Int) (failed : Bool) :
    Ensures (Extends base failed) (switchOff environment wanted nodes)
      (fun anyFailed => Extends base (failed || anyFailed))
      (fun _ => Extends base true) := by
  induction nodes generalizing failed with
  | nil => exact Ensures.pure fun world extended => by simpa using extended
  | cons node nodes induction =>
      by_cases member : node ∈ wanted
      · rw [switchOff_cons_wanted member]
        exact induction failed
      · have sent : Ensures (Extends base failed) (setPlug environment node false)
            (fun _ => Extends base failed) (fun _ => Extends base true) := by
          apply setPlug_ensures
          · intro exception world extended interrupt
            rw [undisturbed world extended.1] at interrupt
            cases interrupt
          · intro world extended done
            have kept := extended.sent environment node false
            simpa [World.succeeds, done] using kept
          · intro world exception tookEffect extended raised
            have kept := extended.sent environment node false
            simpa [World.succeeds, raised] using kept
        have first : Ensures (Extends base failed) (fails (setPlug environment node false))
            (fun offFailed => Extends base (failed || offFailed))
            (fun _ => Extends base true) :=
          fails_ensures sent (fun world extended => by simpa using extended)
            (fun _ world _ extended => by simpa using extended)
        simp only [switchOff, member, if_false]
        refine Ensures.bind first fun offFailed => Ensures.bind (induction _)
          fun laterFailed => Ensures.pure fun world extended => ?_
        simpa [Bool.or_assoc] using extended

/-- What the `finally` block makes of the world in which the loop was left. -/
def Finished (config : Config) (left final : World) : Prop :=
  (left.actuator.action = .idle → final.plugs = left.plugs) ∧
    (left.actuator.action ≠ .idle → BothOff config final.plugs ∨ Extends left true final)

theorem Finished.of_bothOff {left final : World} (active : left.actuator.action ≠ .idle)
    (off : BothOff config final.plugs) : Finished config left final :=
  ⟨fun idle => absurd idle active, fun _ => .inl off⟩

theorem Finished.of_failure {left final : World} (active : left.actuator.action ≠ .idle)
    (failed : Extends left true final) : Finished config left final :=
  ⟨fun idle => absurd idle active, fun _ => .inr failed⟩

theorem Finished.pointed {left final : World} (finished : Finished config left final) :
    Finished config left final.pointed :=
  ⟨finished.1, fun active => (finished.2 active).imp_right (Extends.pointFree left true _)⟩

theorem Finished.emitted {left final : World} (finished : Finished config left final)
    (telemetry : Telemetry) : Finished config left (final.logged (.emitted telemetry)) := by
  refine ⟨finished.1, fun active => (finished.2 active).imp_right ?_⟩
  rintro ⟨later, added, log, seen⟩
  refine ⟨later, ⟨final.now, .emitted telemetry⟩ :: added, by simp [log], fun failed => ?_⟩
  rcases seen failed with ⟨event, among, failure⟩
  exact ⟨event, List.mem_cons_of_mem _ among, failure⟩

/-- The clock was read and nothing else has happened since. -/
def Sampled (left world : World) : Prop :=
  world.plugs = left.plugs ∧ world.actuator = left.actuator ∧ Extends left false world

theorem monotonic_sampled {left : World}
    (undisturbed : Undisturbed environment left) :
    Ensures (fun world => world = left) (monotonic environment)
      (fun _ => Sampled left) (fun _ _ => False) := by
  intro world same
  subst same
  have quiet := undisturbed world (le_refl _)
  simp only [monotonic, point, EStateM.run_bind, EStateM.run_get, EStateM.run_set, quiet]
  exact ⟨rfl, rfl, Nat.le_succ _, [_], rfl, by simp⟩

theorem switch_idle_reports {left : World}
    (undisturbed : Undisturbed environment left) :
    Ensures (Extends left false) (switch config environment .idle)
      (fun success world => if success then BothOff config world.plugs
        else Extends left true world)
      (fun _ => Extends left true) := by
  have reported : Ensures (Extends left false) (switch config environment .idle)
      (fun success => Extends left (!success)) (fun _ => Extends left true) := by
    refine Ensures.bind (switchOff_reports undisturbed _ _ false) fun anyFailed => ?_
    cases anyFailed with
    | true => exact Ensures.pure fun _ extended => extended
    | false => exact Ensures.pure fun _ extended => extended
  have off : Ensures (Extends left false) (switch config environment .idle)
      (fun success world => success = true → BothOff config world.plugs)
      (fun _ _ => True) := by
    have always : Ensures (fun _ => True) (switch config environment .idle)
        (fun success world => True ∧ (success = true → BothOff config world.plugs))
        (fun _ _ => True) :=
      switch_idle_ensures config (fun _ _ => trivial) (fun _ _ _ => trivial)
    exact always.weaken (fun _ _ => trivial) (fun _ _ holds => holds.2) (fun _ _ => id)
  apply (reported.and off).weaken (fun _ => id)
  · intro success world outcome
    rcases outcome with ⟨extended, bothOff⟩
    cases success with
    | false => exact extended
    | true => exact bothOff rfl
  · exact fun _ _ holds => holds.1

theorem forceIdle_finishes {left : World} (now : ℚ)
    (undisturbed : Undisturbed environment left) :
    Ensures (Sampled left) (forceIdle config environment now .shutdown)
      (fun _ => Finished config left) (fun _ => Finished config left) := by
  have pointFree : PointFree fun world => BothOff config world.plugs := fun _ off => off
  have assigned (update : Actuator → Actuator) :
      Keeps (fun world => BothOff config world.plugs) (assign environment update) :=
    assign_keeps pointFree fun _ off => off
  have rest (previous : Action) : Keeps (fun world => BothOff config world.plugs) (do
      assign environment fun self => { self with lastActiveDirection := some previous }
      assign environment fun self => { self with idleSince := some now }
      become environment .idle
      let self := (← get).actuator
      return some (ActuatorTransition.mk .idle
        ⟨.idle, self.effort, 0, 0, config.control.windowS, .shutdown⟩)) :=
    Keeps.bind (assigned _) fun _ => Keeps.bind (assigned _) fun _ =>
      Keeps.bind (Keeps.bind (assigned _) fun _ => record_keeps fun _ off => off) fun _ =>
      Keeps.bind Keeps.get fun _ => Keeps.pure _
  refine Ensures.get_bind fun current holds => ?_
  rcases holds with ⟨plugs, actuator, extended⟩
  dsimp only
  split_ifs with idle
  · refine Ensures.pure fun world same => ?_
    subst same
    exact ⟨fun _ => plugs, fun active => absurd (actuator ▸ idle) active⟩
  · have active : left.actuator.action ≠ .idle := actuator ▸ idle
    have switching : Ensures (fun world => world = current)
        (switch config environment .idle)
        (fun success world => if success then BothOff config world.plugs
          else Extends left true world)
        (fun _ => Finished config left) :=
      (switch_idle_reports undisturbed).weaken (fun _ same => same ▸ extended)
        (fun _ _ => id) (fun _ _ => Finished.of_failure active)
    refine Ensures.bind switching fun success => ?_
    cases success with
    | false => exact Ensures.pure fun _ failed => Finished.of_failure active failed
    | true =>
        exact (rest current.actuator.action).weaken (fun _ => id)
          (fun _ _ => Finished.of_bothOff active) (fun _ _ => Finished.of_bothOff active)

theorem finish_ensures (config : Config) {left : World} (connected : Bool)
    (undisturbed : Undisturbed environment left) :
    Ensures (fun world => world = left) (ControlLoop.finish config environment connected)
      (fun _ => Finished config left) (fun _ => Finished config left) := by
  have sampled : Ensures (fun world => world = left) (monotonic environment)
      (fun _ => Sampled left) (fun _ => Finished config left) :=
    (monotonic_sampled undisturbed).raising fun _ _ none => none.elim
  refine Ensures.bind sampled fun now =>
    Ensures.bind (forceIdle_finishes now undisturbed) fun transition => ?_
  exact emitTransition_keeps (fun _ finished => finished.pointed) connected
    (fun _ telemetry finished => finished.emitted telemetry) transition

/-! ## Runs that end with an exception -/

theorem start_accounted [Rounding] (config : Config) (environment : Environment)
    (connected : Bool) :
    Ensures (fun world => world.actuator.action = .idle)
      (ControlLoop.start config environment connected)
      (fun _ => Accounted config) (fun _ _ => True) := by
  have sampled : Ensures (fun world => world.actuator.action = .idle)
      (monotonic environment) (fun _ world => world.actuator.action = .idle)
      (fun _ _ => True) := by
    have kept : Ensures (fun world => world.actuator.action = .idle)
        (monotonic environment) (fun _ world => world.actuator.action = .idle)
        (fun _ world => world.actuator.action = .idle) :=
      monotonic_ensures (fun _ idle => idle) (fun _ idle => idle)
    exact kept.raising fun _ _ _ => trivial
  have initialized (now : ℚ) : Ensures (fun world => world.actuator.action = .idle)
      (initializeActuator config environment now) (fun _ => Accounted config)
      (fun _ _ => True) :=
    (initializeActuator_ensures config environment now).weaken (fun _ => id)
      (fun _ _ holds => accounted_of_bothOff holds.2) (fun _ _ _ => trivial)
  refine Ensures.bind sampled fun now => Ensures.bind (initialized now) fun transition =>
    Ensures.bind ?_ fun _ => Ensures.pure fun _ => id
  exact ((accounted_rules config environment).loop.emitTransition connected _).raising
    fun _ _ _ => trivial

theorem run_of_leaves [Rounding] {connected : Bool} {rounds : Nat} {world started left : World}
    {next : ℚ} {cause : Exn}
    (starts : (ControlLoop.start config environment connected).run world =
      .ok next started)
    (leaves : (ControlLoop.loop config environment connected rounds next).run started =
      .error cause left) :
    finalState ((ControlLoop.run config environment connected rounds).run world) =
      finalState ((ControlLoop.finish config environment connected).run left) := by
  simp only [ControlLoop.run, EStateM.run_bind, starts, run_tryCatch,
    run_discard_of_error leaves]
  cases (ControlLoop.finish config environment connected).run left <;> rfl

/-- When an exception leaves the loop, the plugs end up OFF unless the action is
IDLE while a plug is stray. -/
theorem shutdown_leaves_off_iff [Rounding] {connected : Bool} {rounds : Nat} {time : ℚ}
    {initialPlugs : Int → Bool} {started left : World} {next : ℚ} {cause : Exn}
    (starts : (ControlLoop.start config environment connected).run
      (World.fresh time initialPlugs) = .ok next started)
    (leaves : (ControlLoop.loop config environment connected rounds next).run started =
      .error cause left)
    (undisturbed : Undisturbed environment left)
    (succeeded : NoneFailed left (finalState
      ((ControlLoop.run config environment connected rounds).run
        (World.fresh time initialPlugs)))) :
    BothOff config (finalState ((ControlLoop.run config environment connected rounds).run
        (World.fresh time initialPlugs))).plugs ↔
      (left.actuator.action = .idle →
        ∀ direction, strayOn (config.node direction) left.log = false) := by
  rw [run_of_leaves starts leaves] at *
  have accounted : Accounted config left := by
    have atStart := start_accounted config environment connected
      (World.fresh time initialPlugs) rfl
    rw [starts] at atStart
    have kept := (accounted_rules config environment).loop.loop connected rounds next
      started atStart
    rw [leaves] at kept
    exact kept
  have finished : Finished config left
      (finalState ((ControlLoop.finish config environment connected).run left)) := by
    have outcome := finish_ensures config connected undisturbed left rfl
    cases result : (ControlLoop.finish config environment connected).run left with
    | ok => rw [result] at outcome; exact outcome
    | error => rw [result] at outcome; exact outcome
  by_cases idle : left.actuator.action = .idle
  · rw [forall_prop_of_true idle, bothOff_iff, finished.1 idle]
    exact forall_congr' fun direction => by rw [accounted idle direction]
  · refine iff_of_true ?_ fun wasIdle => absurd wasIdle idle
    refine (finished.2 idle).resolve_right ?_
    rintro ⟨_, added, log, seen⟩
    rcases seen rfl with ⟨event, among, failure⟩
    rw [noneFailed_iff added log] at succeeded
    rw [succeeded event among] at failure
    cases failure

/-- Sensors read zero, so the first update heats; the user interrupts the
gravity read that follows. -/
def Environment.interruptedGravity : Environment :=
  { obedient with readGravityMilli := fun _ _ _ =>
      { CallTiming.instant with value := .error .keyboardInterrupt } }

section

open Binary64

theorem shutdown_leaves_off_iff_gravity :
    BothOff Config.shipped (finalState
      ((ControlLoop.run Config.shipped .interruptedGravity true 1).run
        (World.fresh 0 fun _ => true))).plugs := by
  have starts := eq_ok_of_valueOf (show valueOf
    ((ControlLoop.start Config.shipped .interruptedGravity true).run
      (World.fresh 0 fun _ => true)) = some 0 by decide +kernel)
  have leaves := eq_error_of_exceptionOf (show exceptionOf
    ((ControlLoop.loop Config.shipped .interruptedGravity true 1 0).run (finalState
      ((ControlLoop.start Config.shipped .interruptedGravity true).run
        (World.fresh 0 fun _ => true)))) = some .keyboardInterrupt by decide +kernel)
  exact (shutdown_leaves_off_iff starts leaves (fun _ _ => rfl) (by decide +kernel)).mpr
    fun idle => absurd idle (by decide +kernel)

/-- The user interrupts every ON command after it has reached its plug. -/
def Environment.interruptedOn : Environment :=
  instantly fun _ _ on => if on then .raised .keyboardInterrupt true else .done

/-- The interrupt leaves `_switch` before the action is assigned, and
`force_idle` returns at once: the heater stays ON. -/
theorem shutdown_leaves_heater_on :
    ¬∀ (config : Config) (environment : Environment) (connected : Bool) (rounds : Nat)
      (time : ℚ) (initialPlugs : Int → Bool) (started left : World) (next : ℚ)
      (cause : Exn),
      (ControlLoop.start config environment connected).run
        (World.fresh time initialPlugs) = .ok next started →
      (ControlLoop.loop config environment connected rounds next).run started =
        .error cause left →
      Undisturbed environment left →
      NoneFailed left (finalState
        ((ControlLoop.run config environment connected rounds).run
          (World.fresh time initialPlugs))) →
      BothOff config (finalState
        ((ControlLoop.run config environment connected rounds).run
          (World.fresh time initialPlugs))).plugs := by
  intro claimed
  have starts := eq_ok_of_valueOf (show valueOf
    ((ControlLoop.start Config.shipped .interruptedOn true).run
      (World.fresh 0 fun _ => false)) = some 0 by decide +kernel)
  have leaves := eq_error_of_exceptionOf (show exceptionOf
    ((ControlLoop.loop Config.shipped .interruptedOn true 1 0).run (finalState
      ((ControlLoop.start Config.shipped .interruptedOn true).run
        (World.fresh 0 fun _ => false)))) = some .keyboardInterrupt by decide +kernel)
  have off := claimed Config.shipped .interruptedOn true 1 0 (fun _ => false) _ _ 0 _
    starts leaves (fun _ _ => rfl) (by decide +kernel)
  exact absurd off (by decide +kernel)

end

end BuranBrew.Host

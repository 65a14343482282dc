import BuranBrew.Foundation.Exceptions
import BuranBrew.Host.Freshness

/-! # What ends the loop

Failing commands, sensors and Redis do not. The exit status tells what has.
-/

namespace BuranBrew.Host

open Execution TimeProportionalActuator

variable {config : Config} {environment : Environment}

inductive Environment.Escapes (environment : Environment) (exception : Exn) : Prop
  | interrupt (world : World) (arrives : environment.interrupt world = some exception)
  | setPlug (world : World) (node : Int) (on tookEffect : Bool)
      (raises : (environment.setPlug world node on).outcome = .raised exception tookEffect)
      (unhandled : exception.isCommandFailure = false)
  | temperature (world : World) (node endpoint : Int)
      (raises : (environment.readTempCenti world node endpoint).value = .error exception)
      (unhandled : exception.isCommandFailure = false)
  | gravity (world : World) (node endpoint : Int)
      (raises : (environment.readGravityMilli world node endpoint).value = .error exception)
      (unhandled : exception.isCommandFailure = false)
  | redis (world : World) (raises : environment.redis world = some exception)
      (unhandled : exception.isException = false)

/-! ## Statements -/

theorem point_escapes : RaisesOnly environment.Escapes (point environment) := by
  apply RaisesOnly.get.bind
  intro world
  apply (RaisesOnly.set world.pointed).bind
  intro _
  cases arrives : environment.interrupt world with
  | none => exact RaisesOnly.pure ()
  | some exception => exact RaisesOnly.throw (.interrupt world arrives)

theorem call_escapes {α : Type} {allowed : Exn → Prop} (after : World → World)
    {result : World → Py α} (escapes : ∀ exception, environment.Escapes exception →
      allowed exception)
    (results : ∀ world, RaisesOnly allowed (result world)) :
    RaisesOnly allowed (do
      point environment
      let world ← get
      set (after world)
      result world) := by
  apply RaisesOnly.bind (point_escapes.ensures fun exception _ => escapes exception)
  intro _
  apply RaisesOnly.get.bind
  intro world
  exact (RaisesOnly.set (after world)).bind fun _ => results world

theorem modify_escapes (update : World → World) :
    RaisesOnly environment.Escapes (do point environment; modify update) :=
  point_escapes.bind fun _ => RaisesOnly.modify update

theorem assign_escapes (update : Actuator → Actuator) :
    RaisesOnly environment.Escapes (assign environment update) :=
  modify_escapes _

theorem record_escapes (kind : EventKind) :
    RaisesOnly environment.Escapes (record kind) :=
  RaisesOnly.modify _

theorem monotonic_escapes : RaisesOnly environment.Escapes (monotonic environment) :=
  call_escapes (fun world => world.clocked (environment.clock world)) (fun _ => id)
    fun _ => RaisesOnly.pure _

theorem setPlug_escapes (node : Int) (on : Bool) :
    RaisesOnly (fun exception => exception.isCommandFailure = true ∨
      environment.Escapes exception) (setPlug environment node on) := by
  apply call_escapes (fun world =>
    world.commanded node on (environment.setPlug world node on)) fun _ => .inr
  intro world
  cases raises : (environment.setPlug world node on).outcome with
  | done => exact RaisesOnly.pure ()
  | raised exception tookEffect =>
      apply RaisesOnly.throw
      cases handled : exception.isCommandFailure with
      | true => exact .inl rfl
      | false => exact .inr (.setPlug world node on tookEffect raises handled)

theorem readThrough_escapes {answer : World → Int → Int → ReadReply} (node endpoint : Int)
    (escapes : ∀ world exception, (answer world node endpoint).value = .error exception →
      exception.isCommandFailure = false → environment.Escapes exception) :
    RaisesOnly (fun exception => exception.isCommandFailure = true ∨
      environment.Escapes exception) (readThrough environment answer node endpoint) := by
  apply call_escapes (fun world =>
    world.answered node endpoint (answer world node endpoint)) fun _ => .inr
  intro world
  cases raises : (answer world node endpoint).value with
  | ok value => exact RaisesOnly.pure value
  | error exception =>
      apply RaisesOnly.throw
      cases handled : exception.isCommandFailure with
      | true => exact .inl rfl
      | false => exact .inr (escapes world exception raises handled)

theorem emit_escapes (connected : Bool) (telemetry : Telemetry) :
    RaisesOnly environment.Escapes (emit environment connected telemetry) := by
  apply point_escapes.bind
  intro _
  cases connected with
  | false => exact RaisesOnly.pure ()
  | true =>
      apply Ensures.get_bind
      intro world _
      cases raises : environment.redis world with
      | none => exact (record_escapes _).ensures fun _ _ => id
      | some exception =>
          dsimp only
          by_cases handled : exception.isException = true
          · rw [if_pos handled]
            exact Ensures.pure fun _ _ => trivial
          · rw [if_neg handled]
            have unhandled : exception.isException = false := by simpa using handled
            exact Ensures.throw fun _ _ => .redis world raises unhandled

/-! ## The actuator -/

theorem fails_escapes (node : Int) (on : Bool) :
    RaisesOnly environment.Escapes (fails (setPlug environment node on)) :=
  RaisesOnly.fallback true ((setPlug_escapes node on).bind fun _ => RaisesOnly.pure false)

theorem switchOff_escapes (wanted nodes : List Int) :
    RaisesOnly environment.Escapes (switchOff environment wanted nodes) := by
  induction nodes with
  | nil => exact RaisesOnly.pure false
  | cons node nodes induction =>
      unfold switchOff
      split_ifs
      · exact induction
      · exact (fails_escapes node false).bind fun _ => induction.bind fun _ =>
          RaisesOnly.pure _

theorem switchOn_escapes (nodes : List Int) :
    RaisesOnly environment.Escapes (switchOn environment nodes) := by
  induction nodes with
  | nil => exact RaisesOnly.pure true
  | cons node nodes induction =>
      apply (fails_escapes node true).bind
      intro failed
      split_ifs
      · exact RaisesOnly.pure false
      · exact induction

theorem switch_escapes (action : Action) :
    RaisesOnly environment.Escapes (switch config environment action) := by
  apply (switchOff_escapes _ _).bind
  intro anyFailed
  split_ifs
  · exact RaisesOnly.pure false
  · exact switchOn_escapes _

theorem plan_escapes [Rounding] (now : ℚ) :
    RaisesOnly environment.Escapes (plan config environment now) := by
  have advanced : Ensures (fun _ => True)
      (assign environment (Actuator.advanceWindow config.control.windowS now))
      (fun _ world => ∃ decided, world.actuator.plan config.control now = .ok decided)
      (fun exception _ => environment.Escapes exception) :=
    Ensures.bind point_escapes fun _ => Ensures.modify fun _ _ =>
      Actuator.plan_advanceWindow _ _ _
  apply Ensures.bind advanced
  intro _
  apply Ensures.get_bind
  rintro world ⟨decided, plans⟩
  dsimp only
  rw [plans]
  exact ((record_escapes _).bind fun _ => RaisesOnly.pure decided).ensures fun _ _ => id

theorem become_escapes (action : Action) :
    RaisesOnly environment.Escapes (become environment action) :=
  (assign_escapes _).bind fun _ => record_escapes _

theorem commit_escapes (wanted previous : Action) (now : ℚ) :
    RaisesOnly environment.Escapes (commit environment wanted previous now) := by
  unfold commit
  by_cases leaves : previous.isActive ∧ wanted ≠ previous
  · rw [if_pos leaves]
    exact (assign_escapes _).bind fun _ => (assign_escapes _).bind fun _ =>
      become_escapes wanted
  · rw [if_neg leaves]
    split_ifs
    · exact (assign_escapes _).bind fun _ => become_escapes wanted
    · exact become_escapes wanted

theorem tick_escapes [Rounding] (now : ℚ) :
    RaisesOnly environment.Escapes (tick config environment now) := by
  apply (record_escapes _).bind
  intro _
  apply (plan_escapes now).bind
  intro decided
  apply RaisesOnly.get.bind
  intro world
  dsimp only
  split_ifs
  · exact RaisesOnly.pure _
  · apply (switch_escapes _).bind
    intro success
    split_ifs
    · exact RaisesOnly.pure _
    · exact (commit_escapes _ _ now).bind fun _ => RaisesOnly.pure _

theorem forceIdle_escapes (now : ℚ) (reason : Reason) :
    RaisesOnly environment.Escapes (forceIdle config environment now reason) := by
  apply RaisesOnly.get.bind
  intro world
  dsimp only
  split_ifs
  · exact RaisesOnly.pure _
  · apply (switch_escapes .idle).bind
    intro success
    split_ifs
    · exact RaisesOnly.pure _
    · exact (assign_escapes _).bind fun _ => (assign_escapes _).bind fun _ =>
        (become_escapes .idle).bind fun _ => RaisesOnly.get.bind fun _ => RaisesOnly.pure _

theorem setEffort_escapes [Rounding] (effort now : ℚ) :
    RaisesOnly environment.Escapes (setEffort config environment effort now) := by
  apply RaisesOnly.get.bind
  intro world
  dsimp only
  split_ifs
  · exact (assign_escapes _).bind fun _ => (assign_escapes _).bind fun _ =>
      (assign_escapes _).bind fun _ => record_escapes _
  · exact (assign_escapes _).bind fun _ => (assign_escapes _).bind fun _ => record_escapes _

/-! ## The loop -/

theorem emitTransition_escapes (connected : Bool) (transition : Option ActuatorTransition) :
    RaisesOnly environment.Escapes
      (ControlLoop.emitTransition environment connected transition) := by
  cases transition with
  | none => exact RaisesOnly.pure ()
  | some transition => exact RaisesOnly.get.bind fun _ => emit_escapes connected _

theorem finish_escapes (connected : Bool) :
    RaisesOnly environment.Escapes (ControlLoop.finish config environment connected) :=
  monotonic_escapes.bind fun now => (forceIdle_escapes now .shutdown).bind fun transition =>
    emitTransition_escapes connected transition

section Rounds

variable [Rounding]

theorem readTemperatures_escapes :
    RaisesOnly environment.Escapes (ControlLoop.readTemperatures config environment) := by
  have read (node endpoint : Int) :
      RaisesOnly (fun exception => exception.isCommandFailure = true ∨
        environment.Escapes exception) (readTempCenti environment node endpoint) :=
    readThrough_escapes node endpoint fun world exception => .temperature world node endpoint
  exact RaisesOnly.fallback none ((read _ _).bind fun _ => (read _ _).bind fun _ =>
    RaisesOnly.pure _)

theorem readGravity_escapes :
    RaisesOnly environment.Escapes (ControlLoop.readGravity config environment) := by
  have read (node endpoint : Int) :
      RaisesOnly (fun exception => exception.isCommandFailure = true ∨
        environment.Escapes exception) (readGravityMilli environment node endpoint) :=
    readThrough_escapes node endpoint fun world exception => .gravity world node endpoint
  exact RaisesOnly.fallback none ((read _ _).bind fun _ => RaisesOnly.pure _)

theorem steer_escapes (connected : Bool) (ambientC internalC : ℚ) :
    RaisesOnly environment.Escapes
      (ControlLoop.steer config environment connected ambientC internalC) := by
  have assignLoop (update : LoopState → LoopState) :
      RaisesOnly environment.Escapes (ControlLoop.assign environment update) :=
    modify_escapes _
  have updateController (internalC ambientC now : ℚ) : RaisesOnly environment.Escapes
      (PIController.update config environment internalC ambientC now) :=
    RaisesOnly.get.bind fun _ => (modify_escapes _).bind fun _ => (modify_escapes _).bind
      fun _ => RaisesOnly.get.bind fun _ => RaisesOnly.pure _
  apply monotonic_escapes.bind
  intro now
  apply (assignLoop _).bind
  intro _
  apply (assignLoop _).bind
  intro _
  apply RaisesOnly.get.bind
  intro _
  apply (updateController _ _ now).bind
  intro decision
  apply (assignLoop _).bind
  intro _
  apply (setEffort_escapes _ now).bind
  intro _
  apply (tick_escapes now).bind
  intro transition
  exact (emitTransition_escapes connected transition).bind fun _ => RaisesOnly.pure _

theorem report_escapes (connected : Bool) (ambientC internalC : ℚ)
    (decision : ControlDecision) :
    RaisesOnly environment.Escapes
      (ControlLoop.report config environment connected ambientC internalC decision) := by
  have rest (sg : Option ℚ) : RaisesOnly environment.Escapes (do
      let action := (← get).actuator.action
      emit environment connected (.state ambientC internalC sg action decision.effort)) :=
    RaisesOnly.get.bind fun _ => emit_escapes connected _
  apply readGravity_escapes.bind
  intro sg
  apply monotonic_escapes.bind
  intro now
  apply (tick_escapes now).bind
  intro transition
  apply (emitTransition_escapes connected transition).bind
  intro _
  apply (plan_escapes now).bind
  intro plan
  apply (RaisesOnly.get.bind fun _ => emit_escapes connected _).bind
  intro _
  apply (emit_escapes connected _).bind
  intro _
  apply (emit_escapes connected _).bind
  intro _
  cases sg with
  | none => exact rest none
  | some sg => exact (emit_escapes connected _).bind fun _ => rest (some sg)

theorem iteration_escapes (connected : Bool) (nextSensorUpdate : ℚ) :
    RaisesOnly environment.Escapes
      (ControlLoop.iteration config environment connected nextSensorUpdate) := by
  have update : RaisesOnly environment.Escapes
      (ControlLoop.controlUpdate config environment connected) := by
    apply readTemperatures_escapes.bind
    intro temperatures
    cases temperatures with
    | none => exact RaisesOnly.pure ()
    | some temperatures =>
        exact (steer_escapes connected _ _).bind fun _ => report_escapes connected _ _ _
  have rest (next : ℚ) : RaisesOnly environment.Escapes (do
      sleep environment config.control.actuatorTickS
      return next) :=
    (modify_escapes _).bind fun _ => RaisesOnly.pure next
  apply monotonic_escapes.bind
  intro now
  apply (tick_escapes now).bind
  intro transition
  apply (emitTransition_escapes connected transition).bind
  intro _
  split_ifs
  · apply update.bind
    intro _
    apply monotonic_escapes.bind
    intro now
    rw [pure_bind]
    exact rest _
  · exact rest _

theorem loop_escapes (connected : Bool) (rounds : Nat) (nextSensorUpdate : ℚ) :
    RaisesOnly environment.Escapes
      (ControlLoop.loop config environment connected rounds nextSensorUpdate) := by
  induction rounds generalizing nextSensorUpdate with
  | zero => exact RaisesOnly.pure nextSensorUpdate
  | succ rounds induction => exact (iteration_escapes connected nextSensorUpdate).bind induction

end Rounds

/-! ## The start -/

/-- The clock is read and plugs are switched OFF. -/
def EventKind.isStartup : EventKind → Prop
  | .clock _ => True
  | .setPlug _ on _ => on = false
  | _ => False

/-- The log of a start, with a command that has failed if one is known to have. -/
structure Starting (failed : Bool) (log : List Event) : Prop where
  startup : ∀ event ∈ log, event.kind.isStartup
  failure : failed = true → ∃ event ∈ log, event.kind.isFailure = true

theorem Starting.cons {failed : Bool} {log : List Event} (starting : Starting failed log)
    {event : Event} (startup : event.kind.isStartup) (later : Bool)
    (failure : later = true → failed = true ∨ event.kind.isFailure = true) :
    Starting later (event :: log) := by
  constructor
  · intro other among
    rcases List.mem_cons.mp among with rfl | before
    · exact startup
    · exact starting.startup other before
  · intro failed
    rcases failure failed with known | fails
    · rcases starting.failure known with ⟨other, among, fails⟩
      exact ⟨other, List.mem_cons_of_mem event among, fails⟩
    · exact ⟨event, List.mem_cons_self, fails⟩

/-- What ends the start: an exception that no handler takes, or a plug that cannot be switched
OFF. -/
def Environment.GivesUp (environment : Environment) (exception : Exn) (world : World) : Prop :=
  environment.Escapes exception ∨ exception = .runtimeError ∧ Starting true world.log

section Start

-- What arrives from outside is not taken for a failed command.
variable (signals : ∀ world exception, environment.interrupt world = some exception →
  exception.isCommandFailure = false)

include signals

theorem fails_starting (known : Bool) (node : Int) :
    Ensures (fun world => Starting known world.log) (fails (setPlug environment node false))
      (fun failed world => Starting (known || failed) world.log)
      (fun exception _ => environment.Escapes exception) := by
  have sent : Ensures (fun world => Starting known world.log)
      (setPlug environment node false) (fun _ world => Starting known world.log)
      (fun exception world => if exception.isCommandFailure = true then
        Starting true world.log else environment.Escapes exception) := by
    apply setPlug_ensures
    · intro exception world starting arrives
      rw [if_neg (by simp [signals world exception arrives])]
      exact .interrupt world arrives
    · intro world starting done
      have off : (world.commandEvent environment node false).kind.isStartup := rfl
      exact starting.cons off known .inl
    · intro world exception tookEffect starting raises
      split_ifs with handled
      · have off : (world.commandEvent environment node false).kind.isStartup := rfl
        have fails : (world.commandEvent environment node false).kind.isFailure = true := by
          change (EventKind.setPlug node false
            (world.reply environment node false).outcome).isFailure = true
          rw [raises]
          rfl
        exact starting.cons off true fun _ => .inr fails
      · exact .setPlug _ node false tookEffect raises (by simpa using handled)
  have answered : Ensures (fun world => Starting known world.log)
      (do setPlug environment node false; return false)
      (fun failed world => Starting (known || failed) world.log)
      (fun exception world => if exception.isCommandFailure = true then
        Starting true world.log else environment.Escapes exception) := by
    apply Ensures.bind sent
    intro _
    apply Ensures.pure
    intro world starting
    rwa [Bool.or_false]
  apply Ensures.tryCatch answered
  intro exception
  by_cases handled : exception.isCommandFailure = true
  · rw [if_pos handled]
    apply Ensures.pure
    intro world starting
    rw [if_pos handled] at starting
    rwa [Bool.or_true]
  · rw [if_neg handled]
    apply Ensures.throw
    intro world escapes
    rwa [if_neg handled] at escapes

theorem switchOff_starting (wanted nodes : List Int) (known : Bool) :
    Ensures (fun world => Starting known world.log) (switchOff environment wanted nodes)
      (fun failed world => Starting (known || failed) world.log)
      (fun exception _ => environment.Escapes exception) := by
  induction nodes generalizing known with
  | nil =>
      apply Ensures.pure
      intro world starting
      rwa [Bool.or_false]
  | cons node nodes induction =>
      unfold switchOff
      split_ifs
      · exact induction known
      · apply Ensures.bind (fails_starting signals known node)
        intro failed
        apply Ensures.bind (induction (known || failed))
        intro laterFailed
        apply Ensures.pure
        intro world starting
        rwa [← Bool.or_assoc]

theorem start_gives_up (connected : Bool) :
    Ensures (fun world => world.log = []) (ControlLoop.start config environment connected)
      (fun _ _ => True) environment.GivesUp := by
  have clocked : Ensures (fun world => world.log = []) (monotonic environment)
      (fun _ world => Starting false world.log) (fun _ world => world.log = []) := by
    apply monotonic_ensures fun _ => id
    intro world log
    change Starting false (_ :: world.log)
    rw [log]
    exact ⟨fun event among => by rw [List.mem_singleton.mp among]; trivial, by simp⟩
  have reading : Ensures (fun world => world.log = []) (monotonic environment)
      (fun _ world => Starting false world.log) environment.GivesUp :=
    (clocked.and (monotonic_escapes.ensures fun _ _ => id)).weaken (fun _ => id)
      (fun _ _ => And.left) (fun _ _ both => .inl both.2)
  have switched : Ensures (fun world => Starting false world.log)
      (switch config environment .idle)
      (fun success world => success = false → Starting true world.log) environment.GivesUp := by
    apply Ensures.bind ((switchOff_starting signals _ _ false).raising fun _ _ => .inl)
    intro anyFailed
    cases anyFailed with
    | true => exact Ensures.pure fun _ starting _ => starting
    | false => exact Ensures.pure fun _ _ failed => by cases failed
  apply Ensures.bind reading
  intro now
  have initialized : Ensures (fun world => Starting false world.log)
      (initializeActuator config environment now) (fun _ _ => True) environment.GivesUp := by
    apply Ensures.bind switched
    intro success
    cases success with
    | false => exact Ensures.throw fun _ gaveUp => .inr ⟨rfl, gaveUp rfl⟩
    | true =>
        have assigned : RaisesOnly environment.Escapes (do
            assign environment fun self => { self with windowStart := some now }
            assign environment fun self => { self with idleSince := some now }
            return (⟨.idle, ⟨.idle, 0, 0, 0, config.control.windowS, .startup⟩⟩ :
              ActuatorTransition)) :=
          (assign_escapes _).bind fun _ => (assign_escapes _).bind fun _ => RaisesOnly.pure _
        exact assigned.ensures fun _ _ => .inl
  apply Ensures.bind initialized
  intro transition
  have emitted : RaisesOnly environment.Escapes (do
      ControlLoop.emitTransition environment connected (some transition)
      return now) :=
    (emitTransition_escapes connected _).bind fun _ => RaisesOnly.pure now
  exact emitted.ensures fun _ _ => .inl

/-- Whatever fails, only exceptions that no handler takes end a run that has started. -/
theorem run_gives_up [Rounding] (connected : Bool) (rounds : Nat) :
    Ensures (fun world => world.log = []) (ControlLoop.run config environment connected rounds)
      (fun _ _ => True) environment.GivesUp := by
  apply Ensures.bind (start_gives_up signals connected)
  intro next
  have looped : RaisesOnly environment.Escapes
      (discard (ControlLoop.loop config environment connected rounds next)) :=
    (loop_escapes connected rounds next).bind fun _ => RaisesOnly.pure _
  have finished : RaisesOnly environment.Escapes
      (tryCatch (discard (ControlLoop.loop config environment connected rounds next))
        fun exception => do
          ControlLoop.finish config environment connected
          throw exception) :=
    looped.tryCatch fun exception escapes =>
      (finish_escapes connected).bind fun _ => RaisesOnly.throw escapes
  exact finished.ensures fun _ _ => .inl

end Start

/-! ## The exit status -/

inductive Ending
  | running
  | status (code : Int)
  | uncaught (exception : Exn)
  deriving DecidableEq, Repr

/-- `main` after the document was read, with as many rounds as it has made so far. -/
def main [Rounding] (raw : RawConfig) (environment : Environment) (connected : Bool) (rounds : Nat)
    (time : ℚ) (initialPlugs : Int → Bool) : Ending :=
  match Config.load raw with
  | .error _ => .status 2
  | .ok config =>
      match exceptionOf ((ControlLoop.run config environment connected rounds).run
        (World.fresh time initialPlugs)) with
      | none => .running
      | some .keyboardInterrupt => .status 0
      | some .runtimeError => .status 1
      | some exception => .uncaught exception

section Results

variable (signals : ∀ world exception, environment.interrupt world = some exception →
  exception.isCommandFailure = false)

include signals

theorem ended_by [Rounding] {connected : Bool} {rounds : Nat} {time : ℚ} {initialPlugs : Int → Bool}
    {exception : Exn}
    (raised : exceptionOf ((ControlLoop.run config environment connected rounds).run
      (World.fresh time initialPlugs)) = some exception) :
    environment.Escapes exception ∨ exception = .runtimeError ∧
      Starting true (runLog config environment connected rounds time initialPlugs) := by
  have gaveUp : Ensures (fun world => world.log = [])
      (ControlLoop.run config environment connected rounds) (fun _ _ => True) environment.GivesUp :=
    run_gives_up signals connected rounds
  have outcome := gaveUp (World.fresh time initialPlugs) rfl
  rw [eq_error_of_exceptionOf raised] at outcome
  exact outcome

theorem not_escapes_runtimeError : ¬environment.Escapes .runtimeError := by
  intro escapes
  cases escapes with
  | interrupt world arrives => cases signals world _ arrives
  | setPlug world node on tookEffect raises unhandled => cases unhandled
  | temperature world node endpoint raises unhandled => cases unhandled
  | gravity world node endpoint raises unhandled => cases unhandled
  | redis world raises unhandled => cases unhandled

/-- Status 0 means an interrupt, and status 1 a start at which a plug could not be switched
OFF and none was switched ON. Otherwise the loop runs on whatever fails, unless something
raises what nobody handles. -/
theorem exit_status_tells [Rounding] (raw : RawConfig) (connected : Bool) (rounds : Nat) (time : ℚ)
    (initialPlugs : Int → Bool) :
    let ending := main raw environment connected rounds time initialPlugs
    (ending = .status 0 → environment.Escapes .keyboardInterrupt) ∧
      (ending = .status 1 → ∃ config, Config.load raw = .ok config ∧
        Starting true (runLog config environment connected rounds time initialPlugs)) ∧
      ∀ exception, ending = .uncaught exception → environment.Escapes exception := by
  dsimp only
  unfold main
  cases loaded : Config.load raw with
  | error message => simp
  | ok config =>
      dsimp only
      cases raised : exceptionOf ((ControlLoop.run config environment connected rounds).run
          (World.fresh time initialPlugs)) with
      | none => simp
      | some exception =>
          have ended := ended_by signals raised
          cases exception with
          | runtimeError =>
              have gaveUp := (ended.resolve_left (not_escapes_runtimeError signals)).2
              simpa using gaveUp
          | _ => simpa using ended

end Results

def Environment.refusing : Environment :=
  instantly fun _ node on =>
    if node = 11 ∧ on = false then .raised .runtimeError false else .done

section

open Binary64

theorem exit_status_tells_refused :
    ∃ raw, main raw .refusing true 3 0 (fun _ => true) = .status 1 ∧
      Starting true (runLog Config.shipped .refusing true 3 0 fun _ => true) := by
  rcases Config.shipped_accepted with ⟨raw, loaded⟩
  have raised : exceptionOf ((ControlLoop.run Config.shipped .refusing true 3).run
      (World.fresh 0 fun _ => true)) = some .runtimeError := by decide +kernel
  have ended : main raw .refusing true 3 0 (fun _ => true) = .status 1 := by
    unfold main
    rw [loaded]
    dsimp only
    rw [raised]
  have signals (world : World) (exception : Exn)
      (arrives : Environment.refusing.interrupt world = some exception) :
      exception.isCommandFailure = false := by
    cases arrives
  rcases (exit_status_tells signals raw true 3 0 fun _ => true).2.1 ended with
    ⟨config, same, starting⟩
  cases loaded.symm.trans same
  exact ⟨raw, ended, starting⟩

end

end BuranBrew.Host

import BuranBrew.Device.AppTask

/-! # Steps of the application

The observer of the application is the observer by itself: the Matter thread makes the
calls, and nothing else of the application touches its state.
-/

namespace BuranBrew.Device

open Observer (Handled MatterWork Reading observerGetTilt)
open Transitions

def State.sample (state : State) : Option Reading :=
  let read := observerGetTilt state.observer ⟨some 0, some 0⟩
  if read.1 then some read.2 else none

inductive Step (state : State) : Action → State → Prop
  | scheduleGate (pending : state.init = some .scheduleGate) :
      Step state .init
        { state.schedule .applyInitialObserverGate with init := some .startTimer }
  | startTimer (pending : state.init = some .startTimer) :
      Step state .init { state with timer := some (state.uptime + 2000), init := none }
  | dispatch {task : Task} {queue : List Task} (idle : state.point = none)
      (queued : state.queue = task :: queue) :
      Step state .dispatch { state with queue, point := some task.point }
  | reportAmbient {driver : Bme680} {scheduledMs : Nat} (ambient : Option Int16)
      (running : state.point = some (.reportAmbient scheduledMs)) :
      Step state (.matter driver)
        { state with
          attributes.ambient := ambient
          point := some (.getTilt (some scheduledMs)) }
  | getTilt {driver : Bme680} {scheduledMs : Option Nat}
      (running : state.point = some (.getTilt scheduledMs)) :
      Step state (.matter driver)
        { state with
          point := some (.setInternal state.sample scheduledMs.isSome)
          reportedMs := some state.uptime }
  | setInternal {driver : Bme680} {sample : Option Reading} {periodic : Bool}
      (running : state.point = some (.setInternal sample periodic)) :
      Step state (.matter driver)
        { state with
          attributes.internal := sample.bind Reading.tempCentiC
          point := some (.setGravity sample periodic) }
  | setGravity {driver : Bme680} {sample : Option Reading} {periodic : Bool}
      (running : state.point = some (.setGravity sample periodic)) :
      Step state (.matter driver)
        { state with
          attributes.gravity := sample.bind Reading.gravityX1000
          point := if periodic then some .trigger else none }
  | trigger {driver : Bme680} {later : Observer.State}
      (running : state.point = some .trigger)
      (called : Observer.step state.observer .observerTrigger = some later) :
      Step state (.matter driver)
        { state with
          observer := later
          point := some .calling
          triggers := state.triggers + 1 }
  | ignore {driver : Bme680} {work : MatterWork}
      (running : state.point = some (.handle work))
      (ignored : Handled.call ⟨work, state.fabricCount⟩ = none) :
      Step state (.matter driver) { state with point := none }
  | setGate {driver : Bme680} {work : MatterWork} {enable : Bool} {later : Observer.State}
      (running : state.point = some (.handle work))
      (call : Handled.call ⟨work, state.fabricCount⟩ = some enable)
      (called : Observer.step state.observer (.observerEnable enable) = some later) :
      Step state (.matter driver)
        { state with
          observer := later
          point := some .calling
          history := ⟨work, state.fabricCount⟩ :: state.history }
  | returned {driver : Bme680} (running : state.point = some .calling)
      (free : state.observer.matter = none) :
      Step state (.matter driver) { state with point := none }
  | calling {driver : Bme680} {later : Observer.State}
      (running : state.point = some .calling)
      (called : Observer.step state.observer .matter = some later) :
      Step state (.matter driver) { state with observer := later }
  | observer {action : Observer.Action} {later : Observer.State} (own : OfObserver action)
      (taken : Observer.step state.observer action = some later) :
      Step state (.observer action)
        ({ state with observer := later }.tiltSampleReady (callsBack state.observer action))
  | timer {due : Nat} (running : state.timer = some due) (expired : due ≤ state.uptime) :
      Step state .timer
        { state.schedule (.reportWork state.uptime) with
          timer := some (due + kReportPeriodMs) }
  | post (event : Observer.ChipDeviceEvent) :
      Step state (.post event) (state.schedule (.event event))
  | fabrics (count : Nat) : Step state (.fabrics count) { state with fabricCount := count }
  | elapse {later : Observer.State} (ms : Nat) (before : state.Before (state.uptime + ms))
      (taken : Observer.step state.observer (.elapse ms) = some later) :
      Step state (.elapse ms) { state with observer := later }

variable {state later : State} {action : Action}

theorem Step.of_matterStatement {driver : Bme680} {point : Point}
    (running : state.point = some point)
    (taken : matterStatement driver state point = some later) :
    Step state (.matter driver) later := by
  cases point with
  | reportAmbient scheduledMs =>
      simp only [matterStatement] at taken
      split at taken
      · cases taken
        exact .reportAmbient _ running
      · cases taken
  | getTilt scheduledMs =>
      cases taken
      exact .getTilt running
  | setInternal sample periodic =>
      cases taken
      exact .setInternal running
  | setGravity sample periodic =>
      cases taken
      exact .setGravity running
  | trigger =>
      rcases Option.map_eq_some_iff.mp taken with ⟨observer, called, rfl⟩
      exact .trigger running called
  | handle work =>
      simp only [matterStatement] at taken
      split at taken
      · cases taken
        exact .ignore running ‹_›
      · rcases Option.map_eq_some_iff.mp taken with ⟨observer, called, rfl⟩
        exact .setGate running ‹_› called
  | calling =>
      simp only [matterStatement] at taken
      split at taken
      · cases taken
        exact .returned running ‹_›
      · rcases Option.map_eq_some_iff.mp taken with ⟨observer, called, rfl⟩
        exact .calling running called

theorem Step.of_step (taken : step state action = some later) : Step state action later := by
  cases action with
  | init =>
      simp only [step] at taken
      split at taken
      · cases taken
        exact .scheduleGate ‹_›
      · cases taken
        exact .startTimer ‹_›
      · cases taken
  | dispatch =>
      simp only [step] at taken
      split at taken
      · cases taken
        exact .dispatch ‹_› ‹_›
      · cases taken
  | matter driver =>
      rcases Option.bind_eq_some_iff.mp taken with ⟨point, running, stated⟩
      exact .of_matterStatement running stated
  | observer action =>
      simp only [step] at taken
      split at taken
      · rcases Option.map_eq_some_iff.mp taken with ⟨observer, moved, rfl⟩
        exact .observer ‹_› moved
      · cases taken
  | timer =>
      simp only [step] at taken
      split at taken
      · split at taken
        · cases taken
          exact .timer ‹_› ‹_›
        · cases taken
      · cases taken
  | post event =>
      cases taken
      exact .post event
  | fabrics count =>
      cases taken
      exact .fabrics count
  | elapse ms =>
      simp only [step] at taken
      split at taken
      · rcases Option.map_eq_some_iff.mp taken with ⟨observer, moved, rfl⟩
        exact .elapse ms ‹_› moved
      · cases taken

/-! ## The observer of the application -/

@[simp] theorem tiltSampleReady_observer (called : Bool) (state : State) :
    (state.tiltSampleReady called).observer = state.observer := by
  unfold State.tiltSampleReady
  split <;> rfl

/-- What is permitted to the observer's own threads restricts nothing else. -/
def Harmless (permitted : Observer.State → Observer.Action → Prop) : Prop :=
  ∀ state action, ¬OfObserver action → permitted state action

theorem Step.observer_step {permitted : Observer.State → Observer.Action → Prop}
    (harmless : Harmless permitted) (allowed : Lifted permitted state action)
    (taken : Step state action later) :
    later.observer = state.observer ∨ ∃ observed, permitted state.observer observed ∧
      Observer.step state.observer observed = some later.observer := by
  cases taken with
  | trigger running called => exact .inr ⟨.observerTrigger, harmless _ _ not_false, called⟩
  | @setGate _ _ enable _ running call called =>
      exact .inr ⟨.observerEnable enable, harmless _ _ not_false, called⟩
  | calling running called => exact .inr ⟨.matter, harmless _ _ not_false, called⟩
  | @observer action next own taken =>
      right
      refine ⟨action, allowed, ?_⟩
      rw [tiltSampleReady_observer]
      exact taken
  | elapse ms before taken => exact .inr ⟨.elapse ms, harmless _ _ not_false, taken⟩
  | _ => exact .inl rfl

theorem observer_reached {permitted : Observer.State → Observer.Action → Prop} {ready : Bool}
    (harmless : Harmless permitted)
    (reached : Reaches step (Lifted permitted) (initial ready) state) :
    Reaches Observer.step permitted (Observer.initial true) state.observer := by
  induction reached with
  | start => exact .start
  | next _ allowed taken induction =>
      rcases (Step.of_step taken).observer_step harmless allowed with
        same | ⟨observed, permits, moved⟩
      · rw [same]
        exact induction
      · exact induction.next permits moved

end BuranBrew.Device

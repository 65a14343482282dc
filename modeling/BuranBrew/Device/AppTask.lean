import BuranBrew.Device.Ambient
import BuranBrew.Observer.Arbitration
import BuranBrew.Observer.Samples

/-! # The sensor application

The Matter thread takes up what has been scheduled, in that order, while the report
timer, the observer's threads and the end of `AppTask::Init` go on by themselves. The
state begins when `StartServer` has returned. The times at which something happened and
the history of the gate are kept for the proofs: no statement reads them. Log messages
are left out. `ScheduleWork` and posting an event do not fail, so nothing that was
scheduled is lost, and writing an attribute does not fail either.
-/

namespace BuranBrew.Device

open Observer (ChipDeviceEvent Handled MatterWork Reading observerGetTilt)
open Execution

/-- `MeasuredValue` of the ambient, internal and gravity endpoints, none where it is null. -/
structure Attributes where
  ambient : Option Int16 := none
  internal : Option Int := none
  gravity : Option Nat := none
  deriving DecidableEq, Repr

inductive Task
  | reportWork (scheduledMs : Nat)
  | reportTiltWork
  | applyInitialObserverGate
  | event (event : ChipDeviceEvent)
  deriving DecidableEq, Repr

inductive Point
  | reportAmbient (scheduledMs : Nat)
  /-- In `ReportTiltWork`, called from the `ReportWork` that was scheduled then, if any. -/
  | getTilt (scheduledMs : Option Nat)
  | setInternal (sample : Option Reading) (periodic : Bool)
  | setGravity (sample : Option Reading) (periodic : Bool)
  | trigger
  | handle (work : MatterWork)
  | calling
  deriving DecidableEq, Repr

def Task.point : Task → Point
  | .reportWork scheduledMs => .reportAmbient scheduledMs
  | .reportTiltWork => .getTilt none
  | .applyInitialObserverGate => .handle .initialGate
  | .event posted => .handle (.policy posted)

/-- The rest of `AppTask::Init`. -/
inductive InitPoint
  | scheduleGate
  | startTimer
  deriving DecidableEq, Repr

structure State where
  observer : Observer.State := Observer.initial true
  attributes : Attributes := {}
  /-- `s_ready` of the ambient sensor. -/
  ready : Bool
  fabricCount : Nat := 0
  queue : List Task := []
  point : Option Point := none
  init : Option InitPoint := some .scheduleGate
  /-- When `sReportTimer` expires, once it runs. -/
  timer : Option Nat := none
  /-- What the gate was set for, newest first. -/
  history : List Handled := []
  reportedMs : Option Nat := none
  calledBackMs : Option Nat := none
  triggers : Nat := 0

def kReportPeriodMs : Nat := 60 * 1000

def State.uptime (state : State) : Nat := state.observer.uptime

/-- `PlatformMgr().ScheduleWork`, or an event that is posted; the queue has no bound. -/
def State.schedule (task : Task) (state : State) : State :=
  { state with queue := state.queue ++ [task] }

def matterStatement (driver : Bme680) (state : State) : Point → Option State
  | .reportAmbient scheduledMs =>
      match (ambientReadCentiC state.ready driver).run 0 with
      | .ok result out =>
          some { state with
            attributes.ambient := if result = 0 then some out else none
            point := some (.getTilt (some scheduledMs)) }
      | .error _ _ => none
  | .getTilt scheduledMs =>
      let read := observerGetTilt state.observer ⟨some 0, some 0⟩
      some { state with
        point := some (.setInternal (if read.1 then some read.2 else none) scheduledMs.isSome)
        reportedMs := some state.uptime }
  | .setInternal sample periodic =>
      some { state with
        attributes.internal := sample.bind Reading.tempCentiC
        point := some (.setGravity sample periodic) }
  | .setGravity sample periodic =>
      some { state with
        attributes.gravity := sample.bind Reading.gravityX1000
        point := if periodic then some .trigger else none }
  | .trigger =>
      (Observer.step state.observer .observerTrigger).map fun later =>
        { state with
          observer := later
          point := some .calling
          triggers := state.triggers + 1 }
  | .handle work =>
      let handled : Handled := ⟨work, state.fabricCount⟩
      match handled.call with
      | none => some { state with point := none }
      | some enable =>
          (Observer.step state.observer (.observerEnable enable)).map fun later =>
            { state with
              observer := later
              point := some .calling
              history := handled :: state.history }
  | .calling =>
      match state.observer.matter with
      | none => some { state with point := none }
      | some _ =>
          (Observer.step state.observer .matter).map fun later =>
            { state with observer := later }

/-- The observer's own threads take this step, with time standing still. -/
def OfObserver : Observer.Action → Prop
  | .take | .handler _ | .advert _ _ | .rx | .expire => True
  | .observerEnable _ | .observerTrigger | .matter | .elapse _ => False

instance : DecidablePred OfObserver
  | .take | .handler _ | .advert _ _ | .rx | .expire => isTrue trivial
  | .observerEnable _ | .observerTrigger | .matter | .elapse _ => isFalse not_false

def callsBack (observer : Observer.State) : Observer.Action → Bool
  | .handler _ =>
      match observer.handler with
      | some (.burstStop _ (.callback captured)) => captured && observer.sampleCb
      | _ => false
  | _ => false

def State.tiltSampleReady (called : Bool) (state : State) : State :=
  if called then { state.schedule .reportTiltWork with calledBackMs := some state.uptime }
  else state

inductive Action
  | init
  | dispatch
  | matter (driver : Bme680)
  | observer (action : Observer.Action)
  | timer
  | post (event : ChipDeviceEvent)
  | fabrics (count : Nat)
  | elapse (ms : Nat)
  deriving DecidableEq, Repr

/-- Timers are not late. -/
def State.Before (deadline : Nat) (state : State) : Prop :=
  ∀ due ∈ state.timer, deadline ≤ due

instance (deadline : Nat) (state : State) : Decidable (state.Before deadline) :=
  inferInstanceAs (Decidable (∀ due ∈ state.timer, deadline ≤ due))

def step (state : State) : Action → Option State
  | .init =>
      match state.init with
      | some .scheduleGate =>
          some { state.schedule .applyInitialObserverGate with init := some .startTimer }
      | some .startTimer => some { state with timer := some (state.uptime + 2000), init := none }
      | none => none
  | .dispatch =>
      match state.point, state.queue with
      | none, task :: queue => some { state with queue, point := some task.point }
      | _, _ => none
  | .matter driver => state.point.bind (matterStatement driver state)
  | .observer action =>
      if OfObserver action then
        (Observer.step state.observer action).map fun later =>
          { state with observer := later }.tiltSampleReady (callsBack state.observer action)
      else none
  | .timer =>
      match state.timer with
      | some due =>
          if due ≤ state.uptime then
            some { state.schedule (.reportWork state.uptime) with
              timer := some (due + kReportPeriodMs) }
          else none
      | none => none
  | .post event => some (state.schedule (.event event))
  | .fabrics count => some { state with fabricCount := count }
  | .elapse ms =>
      if state.Before (state.uptime + ms) then
        (Observer.step state.observer (.elapse ms)).map fun later =>
          { state with observer := later }
      else none

/-- When `StartServer` has returned. -/
def initial (ready : Bool) : State := { ready }

def Lifted (permitted : Observer.State → Observer.Action → Prop) (state : State) :
    Action → Prop
  | .observer action => permitted state.observer action
  | _ => True

end BuranBrew.Device

import BuranBrew.Foundation.Transitions
import BuranBrew.Foundation.Workqueue
import Mathlib.Tactic.Simps.Basic

/-! # The BLE observer

Three work items on the system workqueue, the Matter thread and the BT RX callback,
interleaving at any statement. An `Action` says which of them goes on; what the
Bluetooth stack returns is part of the action. The log records what the handlers and
the stack have done, and the origin of a work item tells why it was submitted: no
statement reads them.
-/

namespace BuranBrew.Observer

open Workqueue

/-! ## Threads -/

inductive Work
  | start
  | stop
  | timeout
  deriving DecidableEq, Repr

/-- What `bt_le_scan_start` or `bt_le_scan_stop` returns: 0, -EALREADY, or another error. -/
inductive Code
  | success
  | already
  | failure
  deriving DecidableEq, Repr

/-- Why a work item was submitted. Bursts are counted by their successful starts. -/
inductive Origin
  | trigger
  | disable
  | advert (burst : Nat)
  | timeout (burst : Nat)
  deriving DecidableEq, Repr

inductive StartPoint
  | checkEnabled
  | checkActive
  | scanStart
  | setActive
  | setBurstStart
  | schedule
  deriving DecidableEq, Repr

inductive StopPoint
  | checkActive
  | clearActive
  | cancelTimeout
  | scanStop
  | stopping (code : Code)
  | capture
  | callback (captured : Bool)
  deriving DecidableEq, Repr

/-- The handler that the workqueue thread is running. The handlers of the stop and the
timeout item do nothing but call `burst_stop`. -/
inductive Handler
  | start (point : StartPoint)
  | burstStop (origin : Origin) (point : StopPoint)
  deriving DecidableEq, Repr

inductive MatterPoint
  | setEnabled (enable : Bool)
  | submitStop
  | checkEnabled
  | submitStart
  deriving DecidableEq, Repr

/-! ## State -/

inductive Event
  | enable (enable : Bool)
  | scanStart (code : Code)
  | burstStart (uptime : Nat)
  | ended (burst : Nat) (origin : Origin)
  | scanStop (code : Code)
  | checked
  | sampleCb
  | tornDown
  | decoded (uptime : Nat)
  deriving DecidableEq, Repr

structure Tilt where
  tempCentiC : Int := 0
  gravityX1000 : Nat := 0
  timestampMs : Nat := 0
  valid : Bool := false
  deriving DecidableEq, Repr

structure State where
  enabled : Bool := false
  tilt : Tilt := {}
  /-- `s_sample_cb` is not NULL. -/
  sampleCb : Bool
  scanActive : Bool := false
  burstStartMs : Nat := 0
  queue : List Work := []
  /-- When the timeout item, if it is scheduled, is due. -/
  deadline : Option Nat := none
  handler : Option Handler := none
  matter : Option MatterPoint := none
  /-- The burst of an advert that has been decoded while its stop is yet to be submitted. -/
  rx : Option Nat := none
  uptime : Nat := 0
  scanning : Bool := false
  bursts : Nat := 0
  origin : Work → Origin := fun _ => .trigger
  /-- The queue has been empty with no handler running since `observer_enable` returned. -/
  drained : Bool := false
  log : List Event := []

namespace State

@[simps] def logged (event : Event) (state : State) : State :=
  { state with log := event :: state.log }

@[simps] def submit (work : Work) (origin : Origin) (state : State) : State :=
  { state with
    queue := Workqueue.submit work state.queue
    origin := if work ∈ state.queue then state.origin
      else Function.update state.origin work origin }

def enabling (state : State) : Bool :=
  match state.matter with
  | some (.setEnabled _) | some .submitStop => true
  | _ => false

/-- The timeout item is scheduled or queued. -/
def Armed (state : State) : Prop :=
  state.deadline.isSome ∨ .timeout ∈ state.queue

instance (state : State) : Decidable state.Armed :=
  inferInstanceAs (Decidable (_ ∨ _))

@[simps] def goto (handler : Handler) (state : State) : State :=
  { state with handler := some handler }

@[simps] def finish (state : State) : State :=
  { state with
    handler := none
    drained := state.drained || (state.queue.isEmpty && !state.enabling) }

end State

/-! ## Statements -/

/-- `BURST_TIMEOUT`, in milliseconds. -/
def burstTimeout : Nat := 5000

/-- A statement of `start_work_handler`; `code` is what a call of the stack returns. -/
def startStatement (code : Code) (state : State) : StartPoint → State
  | .checkEnabled =>
      if !state.enabled then state.finish else state.goto (.start .checkActive)
  | .checkActive => if state.scanActive then state.finish else state.goto (.start .scanStart)
  | .scanStart =>
      let returned := state.logged (.scanStart code)
      if code = .success then
        { returned with scanning := true, bursts := state.bursts + 1 }.goto
          (.start .setActive)
      else returned.finish
  | .setActive => { state with scanActive := true }.goto (.start .setBurstStart)
  | .setBurstStart =>
      { state with burstStartMs := state.uptime }.logged (.burstStart state.uptime) |>.goto
        (.start .schedule)
  | .schedule =>
      -- `k_work_schedule` leaves an item alone that is scheduled or queued.
      if state.Armed then state.finish
      else
        { state with
          deadline := some (state.uptime + burstTimeout)
          origin := Function.update state.origin .timeout (.timeout state.bursts) }.finish

def stopStatement (code : Code) (origin : Origin) (state : State) : StopPoint → State
  | .checkActive =>
      if !state.scanActive then state.finish else state.goto (.burstStop origin .clearActive)
  | .clearActive =>
      { state with scanActive := false }.logged (.ended state.bursts origin) |>.goto
        (.burstStop origin .cancelTimeout)
  | .cancelTimeout =>
      { state with deadline := none, queue := cancel .timeout state.queue }.goto
        (.burstStop origin .scanStop)
  | .scanStop =>
      state.logged (.scanStop code) |>.goto (.burstStop origin (.stopping code))
  | .stopping code =>
      -- The controller keeps scanning after an error other than -EALREADY.
      { state with scanning := state.scanning && decide (code = Code.failure) }.goto
        (.burstStop origin .capture)
  | .capture =>
      let captured := state.tilt.valid && decide (state.burstStartMs ≤ state.tilt.timestampMs)
      state.logged .checked |>.goto (.burstStop origin (.callback captured))
  | .callback captured =>
      let called := if captured && state.sampleCb then state.logged .sampleCb else state
      called.logged .tornDown |>.finish

def handlerStatement (code : Code) (state : State) : Handler → State
  | .start point => startStatement code state point
  | .burstStop origin point => stopStatement code origin state point

def matterStatement (state : State) : MatterPoint → State
  | .setEnabled enable =>
      { state with enabled := enable, matter := if enable then none else some .submitStop }
  | .submitStop => { state.submit .stop .disable with matter := none }
  | .checkEnabled =>
      { state with matter := if !state.enabled then none else some .submitStart }
  | .submitStart => { state.submit .start .trigger with matter := none }

inductive Action
  | take
  | handler (code : Code)
  | observerEnable (enable : Bool)
  | observerTrigger
  | matter
  | advert (tempCentiC : Int) (gravityX1000 : Nat)
  | rx
  | expire
  | elapse (ms : Nat)
  deriving DecidableEq, Repr

def Work.handler (origin : Origin) : Work → Handler
  | .start => .start .checkEnabled
  | .stop | .timeout => .burstStop origin .checkActive

def step (state : State) : Action → Option State
  | .take =>
      match state.handler, state.queue with
      | none, work :: queue =>
          some { state with queue, handler := some (work.handler (state.origin work)) }
      | _, _ => none
  | .handler code => state.handler.map (handlerStatement code state)
  | .observerEnable enable =>
      match state.matter with
      | none => some ({ state with matter := some (.setEnabled enable), drained := false }.logged
          (.enable enable))
      | some _ => none
  | .observerTrigger =>
      match state.matter with
      | none => some { state with matter := some .checkEnabled }
      | some _ => none
  | .matter => state.matter.map (matterStatement state)
  | .advert tempCentiC gravityX1000 =>
      match state.rx with
      | none =>
          some ({ state with
            tilt := ⟨tempCentiC, gravityX1000, state.uptime, true⟩
            rx := some state.bursts }.logged (.decoded state.uptime))
      | some _ => none
  | .rx => state.rx.map fun burst => { state.submit .stop (.advert burst) with rx := none }
  | .expire =>
      match state.deadline with
      | some deadline =>
          if deadline ≤ state.uptime then
            some { state with deadline := none, queue := Workqueue.submit .timeout state.queue }
          else none
      | none => none
  | .elapse ms => some { state with uptime := state.uptime + ms }

def initial (sampleCb : Bool) : State := { sampleCb }

end BuranBrew.Observer

import BuranBrew.Device.Pace

/-! # The bursts of a device

Every burst goes back to a trigger of its own, and a trigger to the report of a period.
-/

namespace BuranBrew.Device

open Observer (Code Origin Work startStatement stopStatement)
open Transitions

variable {state later : State} {action : Action}

/-! ## Triggers -/

/-- Whether the triggered burst starts is yet to be seen. -/
def handlerAwaits : Observer.Handler → Nat
  | .start .checkEnabled | .start .checkActive | .start .scanStart => 1
  | _ => 0

def matterAwaits : Observer.MatterPoint → Nat
  | .checkEnabled | .submitStart => 1
  | _ => 0

def prospects (observer : Observer.State) : Nat :=
  observer.bursts + observer.queue.count .start + observer.handler.elim 0 handlerAwaits +
    observer.matter.elim 0 matterAwaits

theorem count_submit_start_le (queue : List Work) :
    (Workqueue.submit .start queue).count .start ≤ queue.count .start + 1 := by
  unfold Workqueue.submit
  split
  · exact Nat.le_succ _
  · simp

theorem count_submit_of_ne {work : Work} (other : work ≠ .start) (queue : List Work) :
    (Workqueue.submit work queue).count .start = queue.count .start := by
  unfold Workqueue.submit
  split
  · rfl
  · simp [other]

theorem count_cancel_timeout (queue : List Work) :
    (Workqueue.cancel .timeout queue).count .start = queue.count .start :=
  List.count_filter (by decide)

section Statements

variable (code : Code) {observer : Observer.State}

theorem prospects_startStatement {point : Observer.StartPoint}
    (running : observer.handler = some (.start point)) :
    prospects (startStatement code observer point) ≤ prospects observer := by
  cases point with
  | checkEnabled =>
      simp only [startStatement]
      split <;> simp [prospects, running, handlerAwaits]
  | checkActive =>
      simp only [startStatement]
      split <;> simp [prospects, running, handlerAwaits]
  | scanStart =>
      simp only [startStatement]
      split
      · simp only [prospects, running, handlerAwaits, Observer.State.goto,
          Observer.State.logged, Option.elim_some]
        omega
      · simp [prospects, running, handlerAwaits]
  | setActive => simp [startStatement, prospects, running, handlerAwaits]
  | setBurstStart => simp [startStatement, prospects, running, handlerAwaits]
  | schedule =>
      simp only [startStatement]
      split <;> simp [prospects, running, handlerAwaits]

theorem prospects_stopStatement {origin : Origin} {point : Observer.StopPoint}
    (running : observer.handler = some (.burstStop origin point)) :
    prospects (stopStatement code origin observer point) ≤ prospects observer := by
  cases point with
  | checkActive =>
      simp only [stopStatement]
      split <;> simp [prospects, running, handlerAwaits]
  | cancelTimeout => simp [stopStatement, prospects, running, handlerAwaits,
      count_cancel_timeout]
  | callback captured =>
      simp only [stopStatement]
      split <;> simp [prospects, running, handlerAwaits]
  | _ => simp [stopStatement, prospects, running, handlerAwaits]

theorem prospects_matterStatement {point : Observer.MatterPoint}
    (calling : observer.matter = some point) :
    prospects (Observer.matterStatement observer point) ≤ prospects observer := by
  cases point with
  | setEnabled enable =>
      cases enable <;> simp [Observer.matterStatement, prospects, calling, matterAwaits]
  | submitStop =>
      simp [Observer.matterStatement, prospects, calling, matterAwaits, count_submit_of_ne]
  | checkEnabled =>
      cases enabled : observer.enabled <;>
        simp [Observer.matterStatement, prospects, calling, matterAwaits, enabled]
  | submitStart =>
      have submitted := count_submit_start_le observer.queue
      simp only [Observer.matterStatement, Observer.State.submit, prospects, calling,
        Option.elim_some, Option.elim_none, matterAwaits]
      omega

end Statements

theorem prospects_step {observer next : Observer.State} {observed : Observer.Action}
    (taken : Observer.step observer observed = some next) :
    prospects next ≤ prospects observer + if observed = .observerTrigger then 1 else 0 := by
  cases Observer.Step.of_step taken with
  | @take work queue idle queued =>
      have taken : (work :: queue).count .start =
          queue.count .start + handlerAwaits (work.handler (observer.origin work)) := by
        cases work <;> simp [Observer.Work.handler, handlerAwaits]
      simp only [prospects, idle, queued, taken, Option.elim_some, Option.elim_none]
      omega
  | start code running => simpa using prospects_startStatement code running
  | burstStop code running => simpa using prospects_stopStatement code running
  | observerEnable enable free => simp [prospects, free, matterAwaits]
  | observerTrigger free => simp [prospects, free, matterAwaits]
  | matter calling => simpa using prospects_matterStatement calling
  | advert tempCentiC gravityX1000 free => simp [prospects]
  | rx pending => simp [prospects, count_submit_of_ne]
  | expire scheduled due => simp [prospects, count_submit_of_ne]
  | elapse ms => simp [prospects]

theorem Step.prospects (taken : Step state action later)
    (bounded : prospects state.observer ≤ state.triggers) :
    Device.prospects later.observer ≤ later.triggers := by
  cases taken with
  | trigger running called => exact (prospects_step called).trans (Nat.succ_le_succ bounded)
  | setGate running call called => exact (prospects_step called).trans bounded
  | calling running called => exact (prospects_step called).trans bounded
  | elapse ms before taken => exact (prospects_step taken).trans bounded
  | @observer action next own taken =>
      have same : (State.tiltSampleReady (callsBack state.observer action)
          { state with observer := next }).triggers = state.triggers := by
        unfold State.tiltSampleReady
        split <;> rfl
      rw [tiltSampleReady_observer, same]
      have stepped := prospects_step taken
      have other : action ≠ .observerTrigger := by
        rintro rfl
        exact own
      rw [if_neg other] at stepped
      exact stepped.trans bounded
  | _ => exact bounded

theorem prospects_of_reached {allowed : State → Action → Prop} {ready : Bool}
    (reached : Reaches step allowed (initial ready) state) :
    prospects state.observer ≤ state.triggers := by
  apply reached.invariant
  · exact Nat.le_refl 0
  · intro state action later bounded _ taken
    exact (Step.of_step taken).prospects bounded

/-! ## Bursts -/

/-- However the threads interleave, and however late the reports are, a device starts no
more than one burst in every report period, the first one not before the first report. -/
theorem bursts_are_paced {allowed : State → Action → Prop} {ready : Bool}
    (reached : Reaches step allowed (initial ready) state) :
    state.observer.bursts * kReportPeriodMs ≤ state.uptime + (kReportPeriodMs - 2000) := by
  have triggered : state.observer.bursts ≤ state.triggers := by
    have bounded := prospects_of_reached reached
    unfold prospects at bounded
    omega
  have bursts : state.observer.bursts ≤ state.committed :=
    triggered.trans (Nat.le_add_right _ _)
  rcases Nat.eq_zero_or_pos state.observer.bursts with none | some
  · rw [none]
    omega
  · rcases paced_of_reached reached with ⟨-, -, zero⟩ | ⟨first, count, ticking⟩
    · omega
    · have regular := ticking.regular
      have ticked := ticking.ticked (.inr (some.trans_le bursts))
      calc state.observer.bursts * kReportPeriodMs
        _ ≤ kReportPeriodMs * state.committed := by
          rw [Nat.mul_comm]
          exact Nat.mul_le_mul_left _ bursts
        _ ≤ first - 2000 := Nat.le_sub_of_add_le regular
        _ ≤ state.uptime + (kReportPeriodMs - 2000) := by
          have period : 2000 ≤ kReportPeriodMs := by decide
          omega

theorem bursts_are_paced_freezing : ∃ state,
    replay step (Lifted Freezing) (initial true) capturingBurst = some state ∧
      state.observer.bursts = 1 ∧ kReportPeriodMs ≤ state.uptime + (kReportPeriodMs - 2000) := by
  have run : ∃ state, replay step (Lifted Freezing) (initial true) capturingBurst = some state ∧
      state.observer.bursts = 1 := exists_replay (by decide +kernel)
  rcases run with ⟨state, replayed, burst⟩
  have paced := bursts_are_paced (Reaches.start.of_replay replayed)
  rw [burst, Nat.one_mul] at paced
  exact ⟨state, replayed, burst, paced⟩

end BuranBrew.Device

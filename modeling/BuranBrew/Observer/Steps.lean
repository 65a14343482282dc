import BuranBrew.Observer.State

/-! # Steps of the observer -/

namespace BuranBrew.Observer

namespace State

variable {state : State} {event : Event} {handler : Handler} {work : Work} {origin : Origin}

@[simp] theorem armed_logged : (state.logged event).Armed ↔ state.Armed := Iff.rfl

@[simp] theorem armed_goto : (state.goto handler).Armed ↔ state.Armed := Iff.rfl

@[simp] theorem armed_finish : state.finish.Armed ↔ state.Armed := Iff.rfl

theorem armed_submit (origin : Origin) (other : work ≠ .timeout) :
    (state.submit work origin).Armed ↔ state.Armed := by
  simp [Armed, other.symm]

theorem submit_origin_of_queued {other : Work} (queued : other ∈ state.queue) :
    (state.submit work origin).origin other = state.origin other := by
  rw [submit_origin]
  split
  · rfl
  · rename_i unqueued
    apply Function.update_of_ne
    intro same
    subst same
    exact unqueued queued

theorem submit_origin_of_ne {other : Work} (different : other ≠ work) :
    (state.submit work origin).origin other = state.origin other := by
  rw [submit_origin]
  split
  · rfl
  · exact Function.update_of_ne different _ _

theorem submit_origin_self (unqueued : work ∉ state.queue) :
    (state.submit work origin).origin work = origin := by
  rw [submit_origin, if_neg unqueued]
  exact Function.update_self _ _ _

theorem armed_of_queued {queue : List Work} (queued : state.queue = work :: queue)
    (other : work ≠ .timeout) :
    state.Armed ↔ state.deadline.isSome ∨ .timeout ∈ queue := by
  simp [Armed, queued, other.symm]

theorem armed_of_scheduled {deadline : Nat} (scheduled : state.deadline = some deadline) :
    state.Armed := by
  simp [Armed, scheduled]

end State

section Statements

variable (code : Code) (origin : Origin) (state : State)

theorem startStatement_keeps (point : StartPoint) :
    (startStatement code state point).enabled = state.enabled ∧
      (startStatement code state point).matter = state.matter ∧
      (startStatement code state point).queue = state.queue := by
  cases point <;> simp only [startStatement] <;> (try split) <;> simp

theorem stopStatement_keeps (point : StopPoint) :
    (stopStatement code origin state point).enabled = state.enabled ∧
      (stopStatement code origin state point).matter = state.matter := by
  cases point <;> simp only [stopStatement] <;> (try split) <;> simp

theorem startStatement_log (point : StartPoint) :
    (startStatement code state point).log =
      match point with
      | .scanStart => .scanStart code :: state.log
      | .setBurstStart => .burstStart state.uptime :: state.log
      | _ => state.log := by
  cases point with
  | checkEnabled =>
      simp only [startStatement]
      split
      · rfl
      · rfl
  | checkActive =>
      simp only [startStatement]
      split
      · rfl
      · rfl
  | scanStart =>
      simp only [startStatement]
      split
      · rfl
      · rfl
  | setActive => rfl
  | setBurstStart => rfl
  | schedule =>
      simp only [startStatement]
      split
      · rfl
      · rfl

theorem stopStatement_log (point : StopPoint) :
    (stopStatement code origin state point).log =
      match point with
      | .clearActive => .ended state.bursts origin :: state.log
      | .scanStop => .scanStop code :: state.log
      | .capture => .checked :: state.log
      | .callback captured =>
          .tornDown ::
            if captured && state.sampleCb then .sampleCb :: state.log else state.log
      | _ => state.log := by
  cases point with
  | checkActive =>
      simp only [stopStatement]
      split
      · rfl
      · rfl
  | clearActive => rfl
  | cancelTimeout => rfl
  | scanStop => rfl
  | stopping code => rfl
  | capture => rfl
  | callback captured =>
      simp only [stopStatement]
      split
      · rfl
      · rfl

end Statements

inductive Step (state : State) : Action → State → Prop
  | take {work : Work} {queue : List Work} (idle : state.handler = none)
      (queued : state.queue = work :: queue) :
      Step state .take
        { state with queue, handler := some (work.handler (state.origin work)) }
  | start {point : StartPoint} (code : Code) (running : state.handler = some (.start point)) :
      Step state (.handler code) (startStatement code state point)
  | burstStop {origin : Origin} {point : StopPoint} (code : Code)
      (running : state.handler = some (.burstStop origin point)) :
      Step state (.handler code) (stopStatement code origin state point)
  | observerEnable (enable : Bool) (free : state.matter = none) :
      Step state (.observerEnable enable)
        ({ state with matter := some (.setEnabled enable), drained := false }.logged
          (.enable enable))
  | observerTrigger (free : state.matter = none) :
      Step state .observerTrigger { state with matter := some .checkEnabled }
  | matter {point : MatterPoint} (calling : state.matter = some point) :
      Step state .matter (matterStatement state point)
  | advert (tempCentiC : Int) (gravityX1000 : Nat) (free : state.rx = none) :
      Step state (.advert tempCentiC gravityX1000)
        ({ state with
          tilt := ⟨tempCentiC, gravityX1000, state.uptime, true⟩
          rx := some state.bursts }.logged (.decoded state.uptime))
  | rx {burst : Nat} (pending : state.rx = some burst) :
      Step state .rx { state.submit .stop (.advert burst) with rx := none }
  | expire {deadline : Nat} (scheduled : state.deadline = some deadline)
      (due : deadline ≤ state.uptime) :
      Step state .expire
        { state with deadline := none, queue := Workqueue.submit .timeout state.queue }
  | elapse (ms : Nat) :
      Step state (.elapse ms) { state with uptime := state.uptime + ms }

variable {state later : State} {action : Action}

/-- Adverts are delivered while the controller is scanning. -/
def Delivered (state : State) : Action → Prop
  | .advert _ _ => state.scanning = true
  | _ => True

instance : Decidable (Delivered state action) :=
  match action with
  | .advert _ _ => inferInstanceAs (Decidable (_ = _))
  | .take | .handler _ | .observerEnable _ | .observerTrigger | .matter | .rx | .expire
  | .elapse _ => isTrue trivial

theorem Step.of_step (taken : step state action = some later) : Step state action later := by
  cases action with
  | take =>
      simp only [step] at taken
      split at taken
      · rename_i idle queued
        cases taken
        exact .take idle queued
      · cases taken
  | handler code =>
      rcases Option.map_eq_some_iff.mp taken with ⟨handler, running, rfl⟩
      cases handler with
      | start point => exact .start code running
      | burstStop origin point => exact .burstStop code running
  | observerEnable enable =>
      simp only [step] at taken
      split at taken
      · cases taken
        exact .observerEnable enable ‹_›
      · cases taken
  | observerTrigger =>
      simp only [step] at taken
      split at taken
      · cases taken
        exact .observerTrigger ‹_›
      · cases taken
  | matter =>
      rcases Option.map_eq_some_iff.mp taken with ⟨point, calling, rfl⟩
      exact .matter calling
  | advert tempCentiC gravityX1000 =>
      simp only [step] at taken
      split at taken
      · cases taken
        exact .advert tempCentiC gravityX1000 ‹_›
      · cases taken
  | rx =>
      rcases Option.map_eq_some_iff.mp taken with ⟨burst, pending, rfl⟩
      exact .rx pending
  | expire =>
      simp only [step] at taken
      split at taken
      · rename_i deadline scheduled
        split at taken
        · cases taken
          exact .expire scheduled ‹_›
        · cases taken
      · cases taken
  | elapse ms =>
      cases taken
      exact .elapse ms

end BuranBrew.Observer

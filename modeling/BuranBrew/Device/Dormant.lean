import BuranBrew.Device.Reports

/-! # Before the first trigger

Only a report triggers a burst. Until the first one has done so, nothing scans, no frame is
heard, and the Tilt attributes are null.
-/

namespace BuranBrew.Device

open Observer (Delivered)
open Transitions

variable {state later : State} {action : Action}

structure Untriggered (observer : Observer.State) : Prop where
  silent : observer.scanning = false
  inactive : observer.scanActive = false
  invalid : observer.tilt.valid = false
  queue : .start ∉ observer.queue
  handler : ∀ handler ∈ observer.handler, ∃ origin, handler = .burstStop origin .checkActive
  matter : observer.matter ≠ some .checkEnabled ∧ observer.matter ≠ some .submitStart

theorem Untriggered.step {observer next : Observer.State} {observed : Observer.Action}
    (untriggered : Untriggered observer) (delivered : Delivered observer observed)
    (other : observed ≠ .observerTrigger)
    (taken : Observer.step observer observed = some next) : Untriggered next := by
  have untouched := untriggered
  rcases untriggered with ⟨silent, inactive, invalid, unqueued, handlers, matter⟩
  cases Observer.Step.of_step taken with
  | @take work queue idle queued =>
      rw [queued, List.mem_cons, not_or] at unqueued
      refine ⟨silent, inactive, invalid, unqueued.2, ?_, matter⟩
      intro handler running
      cases running
      cases work with
      | start => exact absurd rfl unqueued.1
      | stop => exact ⟨_, rfl⟩
      | timeout => exact ⟨_, rfl⟩
  | start code running =>
      rcases handlers _ running with ⟨origin, same⟩
      cases same
  | @burstStop origin point code running =>
      rcases handlers _ running with ⟨_, same⟩
      cases same
      have returns : Observer.stopStatement code origin observer .checkActive =
          observer.finish := by
        simp [Observer.stopStatement, inactive]
      rw [returns]
      exact ⟨silent, inactive, invalid, unqueued, by simp, matter⟩
  | observerEnable enable free => exact ⟨silent, inactive, invalid, unqueued, handlers, by simp⟩
  | observerTrigger free => exact absurd rfl other
  | @matter point calling =>
      cases point with
      | setEnabled enable =>
          refine ⟨silent, inactive, invalid, unqueued, handlers, ?_⟩
          cases enable <;> simp [Observer.matterStatement]
      | submitStop =>
          refine ⟨silent, inactive, invalid, ?_, handlers, by simp [Observer.matterStatement]⟩
          simpa [Observer.matterStatement] using unqueued
      | checkEnabled => exact absurd calling matter.1
      | submitStart => exact absurd calling matter.2
  | advert tempCentiC gravityX1000 free =>
      have scanning : observer.scanning = true := delivered
      rw [silent] at scanning
      cases scanning
  | rx pending => exact ⟨silent, inactive, invalid, by simpa using unqueued, handlers, matter⟩
  | expire scheduled due =>
      exact ⟨silent, inactive, invalid, by simpa using unqueued, handlers, matter⟩
  | elapse ms => exact ⟨silent, inactive, invalid, unqueued, handlers, matter⟩

structure State.Dormant (state : State) : Prop where
  untriggered : Untriggered state.observer
  internal : state.attributes.internal = none
  gravity : state.attributes.gravity = none
  unwritten : ∀ point ∈ state.point, ∀ sample periodic,
    point = .setInternal sample periodic ∨ point = .setGravity sample periodic → sample = none

theorem State.Dormant.goto (dormant : state.Dormant) (observer : Untriggered later.observer)
    (internal : later.attributes.internal = state.attributes.internal)
    (gravity : later.attributes.gravity = state.attributes.gravity)
    (point : later.point = state.point ∨ ∀ point ∈ later.point, ¬point.Writes) :
    later.Dormant where
  untriggered := observer
  internal := internal.trans dormant.internal
  gravity := gravity.trans dormant.gravity
  unwritten running among sample periodic writes := by
    rcases point with same | other
    · rw [same] at among
      exact dormant.unwritten running among sample periodic writes
    · rcases writes with rfl | rfl
      · exact absurd trivial (other _ among)
      · exact absurd trivial (other _ among)

theorem State.Dormant.sample (dormant : state.Dormant) : state.sample = none := by
  have stale : state.observer.fresh = false := by
    simp [Observer.State.fresh, dormant.untriggered.invalid]
  simp [State.sample, Observer.observerGetTilt, stale]

theorem delivered_harmless : Harmless Delivered := by
  intro observer observed other
  cases observed with
  | advert => exact absurd trivial other
  | _ => trivial

theorem Step.dormant (taken : Step state action later) (delivered : Lifted Delivered state action)
    (dormant : state.triggers = 0 → state.Dormant) (none : later.triggers = 0) :
    later.Dormant := by
  cases taken with
  | trigger running called => exact absurd none (Nat.succ_ne_zero _)
  | dispatch idle queued =>
      have dormant := dormant none
      exact dormant.goto dormant.untriggered rfl rfl (.inr (by simp))
  | reportAmbient ambient running =>
      have dormant := dormant none
      exact dormant.goto dormant.untriggered rfl rfl (.inr (by simp [Point.Writes]))
  | getTilt running =>
      have dormant := dormant none
      refine ⟨dormant.untriggered, dormant.internal, dormant.gravity, ?_⟩
      rintro point among sample periodic (rfl | rfl)
      · cases among
        exact dormant.sample
      · cases among
  | @setInternal _ written _ running =>
      have dormant := dormant none
      have absent : written = .none := dormant.unwritten _ running written _ (.inl rfl)
      subst absent
      refine ⟨dormant.untriggered, rfl, dormant.gravity, ?_⟩
      rintro point among sample periodic (rfl | rfl)
      · cases among
      · cases among
        rfl
  | @setGravity _ written periodic running =>
      have dormant := dormant none
      have absent : written = .none := dormant.unwritten _ running written _ (.inr rfl)
      subst absent
      refine ⟨dormant.untriggered, dormant.internal, rfl, ?_⟩
      rintro point among sample _ (rfl | rfl)
      · cases periodic <;> cases among
      · cases periodic <;> cases among
  | ignore running ignored =>
      have dormant := dormant none
      exact dormant.goto dormant.untriggered rfl rfl (.inr (by simp))
  | @setGate _ _ enable _ running call called =>
      have dormant := dormant none
      have untriggered := dormant.untriggered.step
        (delivered_harmless _ (.observerEnable enable) not_false) (by simp) called
      exact dormant.goto untriggered rfl rfl (.inr (by simp [Point.Writes]))
  | returned running free =>
      have dormant := dormant none
      exact dormant.goto dormant.untriggered rfl rfl (.inr (by simp))
  | calling running called =>
      have dormant := dormant none
      have untriggered := dormant.untriggered.step (delivered_harmless _ .matter not_false)
        (by simp) called
      exact dormant.goto untriggered rfl rfl (.inl rfl)
  | @observer action next own taken =>
      have same : ∀ called : Bool,
          ({ state with observer := next }.tiltSampleReady called).triggers = state.triggers ∧
          ({ state with observer := next }.tiltSampleReady called).attributes =
            state.attributes ∧
          ({ state with observer := next }.tiltSampleReady called).point = state.point := by
        rintro (_ | _) <;> exact ⟨rfl, rfl, rfl⟩
      rcases same (callsBack state.observer action) with ⟨triggers, attributes, point⟩
      rw [triggers] at none
      have dormant := dormant none
      have untriggered : Untriggered next := by
        apply dormant.untriggered.step delivered _ taken
        rintro rfl
        exact own
      apply dormant.goto
      · rw [tiltSampleReady_observer]
        exact untriggered
      · rw [attributes]
      · rw [attributes]
      · exact .inl point
  | elapse ms before taken =>
      have dormant := dormant none
      have untriggered := dormant.untriggered.step (delivered_harmless _ (.elapse ms) not_false)
        (by simp) taken
      exact dormant.goto untriggered rfl rfl (.inl rfl)
  | _ =>
      have dormant := dormant none
      exact dormant.goto dormant.untriggered rfl rfl (.inl rfl)

theorem dormant_of_reached {ready : Bool}
    (reached : Reaches step (Lifted Delivered) (initial ready) state)
    (none : state.triggers = 0) : state.Dormant := by
  induction reached with
  | start =>
      refine ⟨⟨rfl, rfl, rfl, ?_, ?_, ?_⟩, rfl, rfl, ?_⟩
      · simp [initial, Observer.initial]
      · simp [initial, Observer.initial]
      · simp [initial, Observer.initial]
      · simp [initial]
  | next before permitted taken induction =>
      exact (Step.of_step taken).dormant permitted induction none

end BuranBrew.Device

import BuranBrew.Device.Reports

/-! # The gate of the observer

The Matter thread makes every call of the observer to its end, so that the gate is what
the last of its handlers has asked for.
-/

namespace BuranBrew.Device

open Observer (Handled enableCalls lastEnable policyGate advertising Rejecting)
open Transitions

variable {state later : State} {action : Action}

/-! ## Calls -/

theorem enableCalls_eq {observer next : Observer.State} {observed : Observer.Action}
    (taken : Observer.step observer observed = some next)
    (other : ∀ enable, observed ≠ .observerEnable enable) :
    enableCalls next.log = enableCalls observer.log := by
  cases Observer.Step.of_step taken with
  | start code running =>
      rename_i point
      rw [Observer.startStatement_log]
      cases point <;> rfl
  | burstStop code running =>
      rename_i origin point
      rw [Observer.stopStatement_log]
      cases point with
      | callback captured =>
          change enableCalls (if captured && observer.sampleCb then _ else _) = _
          split <;> rfl
      | _ => rfl
  | observerEnable enable free => exact absurd rfl (other enable)
  | matter calling =>
      rename_i point
      cases point <;> rfl
  | _ => rfl

structure State.Calls (state : State) : Prop where
  waiting : state.observer.matter ≠ none → state.point = some .calling
  recorded : enableCalls state.observer.log = state.history.filterMap Handled.call
  called : ∀ handled ∈ state.history, handled.call ≠ none

theorem State.Calls.of_same (calls : state.Calls)
    (matter : later.observer.matter = state.observer.matter)
    (point : state.point = some .calling → later.point = some .calling)
    (log : enableCalls later.observer.log = enableCalls state.observer.log)
    (history : later.history = state.history) : later.Calls where
  waiting := by
    rw [matter]
    exact fun calling => point (calls.waiting calling)
  recorded := by
    rw [log, history]
    exact calls.recorded
  called := by
    rw [history]
    exact calls.called

theorem matter_eq {observer next : Observer.State} {observed : Observer.Action}
    (taken : Observer.step observer observed = some next)
    (own : OfObserver observed ∨ ∃ ms, observed = .elapse ms) :
    next.matter = observer.matter := by
  cases Observer.Step.of_step taken with
  | start code running => exact (Observer.startStatement_keeps code observer _).2.1
  | burstStop code running => exact (Observer.stopStatement_keeps code _ observer _).2
  | observerEnable => simp [OfObserver] at own
  | observerTrigger => simp [OfObserver] at own
  | matter => simp [OfObserver] at own
  | _ => rfl

theorem Step.calls (taken : Step state action later) (calls : state.Calls) : later.Calls := by
  cases taken with
  | dispatch idle queued => exact calls.of_same rfl (by simp [idle]) rfl rfl
  | reportAmbient ambient running => exact calls.of_same rfl (by simp [running]) rfl rfl
  | getTilt running => exact calls.of_same rfl (by simp [running]) rfl rfl
  | setInternal running => exact calls.of_same rfl (by simp [running]) rfl rfl
  | setGravity running => exact calls.of_same rfl (by simp [running]) rfl rfl
  | ignore running ignored => exact calls.of_same rfl (by simp [running]) rfl rfl
  | trigger running called =>
      refine ⟨fun _ => rfl, ?_, calls.called⟩
      rw [enableCalls_eq called (by simp)]
      exact calls.recorded
  | @setGate _ work enable next running call called =>
      refine ⟨fun _ => rfl, ?_, ?_⟩
      · rw [List.filterMap_cons_some call, ← calls.recorded]
        cases Observer.Step.of_step called
        rfl
      · intro handled among
        rcases List.mem_cons.mp among with rfl | earlier
        · rw [call]
          exact Option.some_ne_none enable
        · exact calls.called handled earlier
  | returned running free =>
      exact ⟨fun calling => absurd free calling, calls.recorded, calls.called⟩
  | calling running called =>
      refine ⟨fun _ => running, ?_, calls.called⟩
      rw [enableCalls_eq called (by simp)]
      exact calls.recorded
  | @observer action next own taken =>
      have log := enableCalls_eq taken fun enable same => by
        rw [same] at own
        exact own
      have same : (State.tiltSampleReady (callsBack state.observer action)
          { state with observer := next }).point = state.point ∧
          (State.tiltSampleReady (callsBack state.observer action)
            { state with observer := next }).history = state.history := by
        unfold State.tiltSampleReady
        split
        · exact ⟨rfl, rfl⟩
        · exact ⟨rfl, rfl⟩
      apply calls.of_same
      · rw [tiltSampleReady_observer]
        exact matter_eq taken (.inl own)
      · rw [same.1]
        exact fun running => running
      · rw [tiltSampleReady_observer]
        exact log
      · exact same.2
  | elapse ms before taken =>
      exact calls.of_same (matter_eq taken (.inr ⟨ms, rfl⟩)) (fun running => running)
        (enableCalls_eq taken (by simp)) rfl
  | _ => exact calls.of_same rfl (fun running => running) rfl rfl

theorem calls_of_reached {allowed : State → Action → Prop} {ready : Bool}
    (reached : Reaches step allowed (initial ready) state) : state.Calls := by
  apply reached.invariant
  · exact ⟨fun calling => absurd rfl calling, rfl, by simp [initial]⟩
  · intro state action later calls _ taken
    exact (Step.of_step taken).calls calls

theorem State.Calls.enabling (calls : state.Calls) (idle : state.point = none) :
    state.observer.matter = none := by
  by_contra calling
  rw [calls.waiting calling] at idle
  cases idle

/-! ## Policy -/

theorem rejecting_harmless : Harmless Rejecting := by
  intro observer observed other rejected
  rw [rejected] at other
  exact absurd trivial other

/-- The policy is what decides: with the Matter thread idle, the gate is as it asks after
everything that was handled exactly if the last handler did not open it during
advertising. When commissioning is complete there is a fabric. -/
theorem gate_follows_policy_iff {allowed : State → Action → Prop} {ready : Bool}
    (reached : Reaches step allowed (initial ready) state) (idle : state.point = none)
    (handled : Handled) (earlier : List Handled) (history : state.history = handled :: earlier)
    (commissioned : ∀ work ∈ state.history, work.work = .policy .commissioningComplete →
      work.fabricCount > 0) :
    state.observer.enabled = policyGate handled.fabricCount state.history ↔
      ¬(handled.Opens ∧ advertising earlier = true) := by
  have calls := calls_of_reached reached
  have observed : Reaches Observer.step Unrestricted (Observer.initial true) state.observer := by
    apply observer_reached fun _ _ _ => trivial
    apply reached.weaken
    intro state action _
    cases action <;> trivial
  have returned : state.observer.enabling = false := by
    simp [Observer.State.enabling, calls.enabling idle]
  have relevant : ∀ work ∈ handled :: earlier, work.Relevant := by
    rw [← history]
    intro work among
    refine ⟨?_, commissioned work among⟩
    intro other
    apply calls.called work among
    rw [Handled.call, other]
    rfl
  rw [history]
  apply Observer.gate_is_policy_iff observed returned _ relevant
  rw [calls.recorded, history]

/-- Once the Matter thread has handled something that closes the gate (advertising has
started, or there is no fabric) and the workqueue has drained since, the controller does
not scan, unless a stop has failed. -/
theorem closed_gate_silences {ready : Bool}
    (reached : Reaches step (Lifted Rejecting) (initial ready) state)
    (handled : Handled) (earlier : List Handled)
    (history : state.history = handled :: earlier) (closes : handled.call = some false)
    (drained : state.observer.drained = true)
    (stopped : .scanStop .failure ∉ state.observer.log) : state.observer.scanning = false := by
  have calls := calls_of_reached reached
  have observed := observer_reached rejecting_harmless reached
  have latest : lastEnable state.observer.log = some false := by
    rw [Observer.lastEnable_eq, calls.recorded, history, List.filterMap_cons_some closes]
    rfl
  rw [Observer.stop_mem_iff, not_or] at stopped
  exact (Observer.disabling_silences_iff observed ⟨latest, drained, stopped.1⟩).mpr stopped.2

def interruptedBurst : List Action :=
  List.flatten [firstReport,
    [.observer .take], (Observer.statements 6 .success).map .observer,
    [.post (.chipoBLEAdvertisingChange .started), .dispatch], statements 4,
    [.observer .take], (Observer.statements 7 .success).map .observer]

theorem gate_follows_policy_interrupted : ∃ state,
    replay step (Lifted Rejecting) (initial true) interruptedBurst = some state ∧
      state.observer.enabled = policyGate 1 state.history := by
  have run : ∃ state,
      replay step (Lifted Rejecting) (initial true) interruptedBurst = some state ∧
      state.point = none ∧ state.history =
        [⟨.policy (.chipoBLEAdvertisingChange .started), 1⟩, ⟨.initialGate, 1⟩] :=
    exists_replay (by decide +kernel)
  rcases run with ⟨state, replayed, idle, history⟩
  have policy := gate_follows_policy_iff (Reaches.start.of_replay replayed) idle _ _ history
    (by simp [history])
  exact ⟨state, replayed, policy.mpr (by decide)⟩

theorem closed_gate_silences_interrupted : ∃ state,
    replay step (Lifted Rejecting) (initial true) interruptedBurst = some state ∧
      .scanStart .success ∈ state.observer.log ∧ state.observer.scanning = false := by
  have run : ∃ state,
      replay step (Lifted Rejecting) (initial true) interruptedBurst = some state ∧
      state.history =
        [⟨.policy (.chipoBLEAdvertisingChange .started), 1⟩, ⟨.initialGate, 1⟩] ∧
      state.observer.drained = true ∧ .scanStop .failure ∉ state.observer.log ∧
      .scanStart .success ∈ state.observer.log :=
    exists_replay (by decide +kernel)
  rcases run with ⟨state, replayed, history, drained, stopped, scanned⟩
  have silent := closed_gate_silences (Reaches.start.of_replay replayed) _ _ history rfl drained
    stopped
  exact ⟨state, replayed, scanned, silent⟩

end BuranBrew.Device

import BuranBrew.Observer.Silence

/-! # Arbitration with CHIPoBLE advertising

The application opens and closes the gate of the observer on events of the Matter stack.
It keeps no record of them: each call of `observer_enable` follows from the event that is
handled and the fabric table at that time.
-/

namespace BuranBrew.Observer

open Transitions

inductive ActivityChange
  | noChange
  | started
  | stopped
  deriving DecidableEq, Repr

inductive ChipDeviceEvent
  | commissioningComplete
  | chipoBLEAdvertisingChange (result : ActivityChange)
  | other
  deriving DecidableEq, Repr

def isCommissioned (fabricCount : Nat) : Bool :=
  decide (fabricCount > 0)

/-- `AppBleObserverPolicy`: the argument of its call of `observer_enable`, if it makes one. -/
def appBleObserverPolicy (fabricCount : Nat) : ChipDeviceEvent → Option Bool
  | .commissioningComplete => some true
  | .chipoBLEAdvertisingChange result =>
      if result = .started then some false else some (isCommissioned fabricCount)
  | .other => none

/-- `ApplyInitialObserverGate`: the argument of its call of `observer_enable`. -/
def applyInitialObserverGate (fabricCount : Nat) : Bool :=
  isCommissioned fabricCount

inductive MatterWork
  | policy (event : ChipDeviceEvent)
  | initialGate
  deriving DecidableEq, Repr

/-- Work of the Matter thread, with the fabric table at the time. -/
structure Handled where
  work : MatterWork
  fabricCount : Nat
  deriving DecidableEq, Repr

def Handled.call (handled : Handled) : Option Bool :=
  match handled.work with
  | .policy event => appBleObserverPolicy handled.fabricCount event
  | .initialGate => some (applyInitialObserverGate handled.fabricCount)

/-! ## The policy -/

/-- The last advertising change, if any, reported that advertising has started. -/
def advertising : List Handled → Bool
  | [] => false
  | ⟨.policy (.chipoBLEAdvertisingChange result), _⟩ :: _ => decide (result = .started)
  | _ :: earlier => advertising earlier

/-- The gate that the policy asks for, after some history and with the present fabrics. -/
def policyGate (fabricCount : Nat) (history : List Handled) : Bool :=
  isCommissioned fabricCount && !advertising history

/-- Work that the arbitration is about; commissioning leaves a fabric in the table. -/
def Handled.Relevant (handled : Handled) : Prop :=
  handled.work ≠ .policy .other ∧
    (handled.work = .policy .commissioningComplete → handled.fabricCount > 0)

/-- The work opens the gate without regard to advertising. -/
def Handled.Opens (handled : Handled) : Prop :=
  handled.work = .policy .commissioningComplete ∨
    handled.work = .initialGate ∧ handled.fabricCount > 0

instance : DecidablePred Handled.Relevant :=
  fun _ => inferInstanceAs (Decidable (_ ∧ (_ → _)))

instance : DecidablePred Handled.Opens :=
  fun _ => inferInstanceAs (Decidable (_ ∨ _ ∧ _))

theorem exists_call {handled : Handled} (relevant : handled.Relevant) :
    ∃ enable, handled.call = some enable := by
  rcases handled with ⟨work, fabricCount⟩
  cases work with
  | initialGate => exact ⟨_, rfl⟩
  | policy event =>
      cases event with
      | commissioningComplete => exact ⟨_, rfl⟩
      | chipoBLEAdvertisingChange result => cases result <;> exact ⟨_, rfl⟩
      | other => exact absurd rfl relevant.1

theorem call_eq_policyGate_iff {handled : Handled} {earlier : List Handled}
    (relevant : handled.Relevant) :
    handled.call = some (policyGate handled.fabricCount (handled :: earlier)) ↔
      ¬(handled.Opens ∧ advertising earlier = true) := by
  rcases handled with ⟨work, fabricCount⟩
  rcases relevant with ⟨known, commissioned⟩
  cases work with
  | initialGate =>
      simp [Handled.call, applyInitialObserverGate, policyGate, advertising, Handled.Opens,
        isCommissioned]
  | policy event =>
      cases event with
      | commissioningComplete =>
          have fabric : fabricCount > 0 := commissioned rfl
          simp [Handled.call, appBleObserverPolicy, policyGate, advertising, Handled.Opens,
            isCommissioned, fabric]
      | chipoBLEAdvertisingChange result =>
          cases result <;>
            simp [Handled.call, appBleObserverPolicy, policyGate, advertising, Handled.Opens,
              isCommissioned]
      | other => exact absurd rfl known

/-! ## The gate of the observer -/

def enableCalls : List Event → List Bool
  | [] => []
  | .enable enable :: log => enable :: enableCalls log
  | _ :: log => enableCalls log

theorem lastEnable_eq (log : List Event) : lastEnable log = (enableCalls log).head? := by
  induction log with
  | nil => rfl
  | cons event log induction =>
      cases event with
      | enable enable => rfl
      | _ => exact induction

theorem enabled_of_calls {sampleCb : Bool} {allowed : State → Action → Prop} {state : State}
    {enable : Bool} {calls : List Bool}
    (reached : Reaches step allowed (initial sampleCb) state)
    (returned : state.enabling = false) (called : enableCalls state.log = enable :: calls) :
    state.enabled = enable := by
  apply (quiet_of_reaches reached).latest enable
  · rw [lastEnable_eq, called]
    rfl
  · intro calling
    simp [State.enabling, calling] at returned

/-- After some work the gate is as the policy asks exactly if the work does not open it
during advertising. -/
theorem gate_is_policy_iff {sampleCb : Bool} {allowed : State → Action → Prop} {state : State}
    {handled : Handled} {earlier : List Handled}
    (reached : Reaches step allowed (initial sampleCb) state)
    (returned : state.enabling = false)
    (called : enableCalls state.log = (handled :: earlier).filterMap Handled.call)
    (relevant : ∀ work ∈ handled :: earlier, work.Relevant) :
    state.enabled = policyGate handled.fabricCount (handled :: earlier) ↔
      ¬(handled.Opens ∧ advertising earlier = true) := by
  have known := relevant handled List.mem_cons_self
  rw [← call_eq_policyGate_iff known]
  rcases exists_call known with ⟨enable, call⟩
  rw [List.filterMap_cons_some call] at called
  rw [enabled_of_calls reached returned called, call, Option.some.injEq]

def commissioned : List Handled :=
  [⟨.policy .commissioningComplete, 1⟩, ⟨.policy (.chipoBLEAdvertisingChange .stopped), 0⟩,
    ⟨.policy (.chipoBLEAdvertisingChange .started), 0⟩, ⟨.initialGate, 0⟩]

/-- The observer calls of some work, with nothing else going on. -/
def undisturbed (history : List Handled) : List Action :=
  (history.filterMap Handled.call).reverse.flatMap fun enable =>
    [.observerEnable enable, .matter] ++ if enable then [] else [.matter]

theorem gate_is_policy_commissioned : ∃ state,
    replay step Unrestricted (initial true) (undisturbed commissioned) = some state ∧
      state.enabled = policyGate 1 commissioned := by
  have run : ∃ state,
      replay step Unrestricted (initial true) (undisturbed commissioned) = some state ∧
        state.enabling = false ∧
        enableCalls state.log = commissioned.filterMap Handled.call :=
    exists_replay (by decide +kernel)
  rcases run with ⟨state, replayed, returned, called⟩
  have policy := gate_is_policy_iff (Reaches.start.of_replay replayed) returned called
    (by decide)
  exact ⟨state, replayed, policy.mpr (by decide)⟩

/-- A commissioner completes over another transport, during advertising. -/
def commissionedDuringAdvertising : List Handled :=
  [⟨.policy .commissioningComplete, 2⟩, ⟨.policy (.chipoBLEAdvertisingChange .started), 1⟩,
    ⟨.initialGate, 1⟩]

theorem scanning_enabled_during_advertising : ∃ state,
    Reaches step Unrestricted (initial true) state ∧ state.enabling = false ∧
      enableCalls state.log = commissionedDuringAdvertising.filterMap Handled.call ∧
      (∀ work ∈ commissionedDuringAdvertising, work.Relevant) ∧
      advertising commissionedDuringAdvertising = true ∧ state.enabled = true ∧
      policyGate 2 commissionedDuringAdvertising = false := by
  have run : ∃ state,
      replay step Unrestricted (initial true)
          (undisturbed commissionedDuringAdvertising) = some state ∧
        state.enabling = false ∧
        enableCalls state.log = commissionedDuringAdvertising.filterMap Handled.call ∧
        state.enabled = true :=
    exists_replay (by decide +kernel)
  rcases run with ⟨state, replayed, returned, called, enabled⟩
  exact ⟨state, Reaches.start.of_replay replayed, returned, called, by decide, by decide,
    enabled, by decide⟩

end BuranBrew.Observer

import BuranBrew.Brewery.Deployment

/-! # From the frame to the plug

Nothing that the host switches ON is older news than the frames of the Tilt allow.
-/

namespace BuranBrew.Brewery

open Device (Lifted)
open Execution History Host Transitions

section Results

variable [Rounding] {brewery : Deployment} {latencyMs : Nat} {reads lag : ℚ}

/-- An ON command is decided at a time when a frame was decoded not long before, and a
record of the internal temperature shows the temperature of a frame. -/
structure Deployment.Traces (brewery : Deployment) (latencyMs : Nat) (reads lag : ℚ)
    (event : Event) (earlier : List Event) : Prop where
  on : ∀ node outcome, event.kind = .setPlug node true outcome →
    ∃ reading decoded, lastClock earlier = some reading ∧ brewery.Decodes decoded ∧
      fl (reading - (decoded + Deployment.maxAgeS latencyMs + (reads + lag))) ≤
        brewery.config.control.commandStaleTimeoutS
  recorded : ∀ internalC, event.kind = .emitted (.sensor "internal" internalC) →
    ∃ mfg : Observer.Payload, mfg.IsTiltBlack ∧
      internalC = brewery.config.internalC mfg.outputs.tempCentiC.toInt

/-- Whatever fails in the sensor, in the host and between them, no plug is switched ON once
the Tilt has been silent for longer than the sample, the report period and the stale timeout
allow, and no internal temperature is recorded but that of a frame. -/
theorem silence_of_the_tilt_is_safe (works : brewery.Works latencyMs reads lag)
    (connected : Bool) (rounds : Nat) (time : ℚ) (initialPlugs : Int → Bool) :
    Throughout (brewery.Traces latencyMs reads lag)
      (runLog brewery.config brewery.environment connected rounds time initialPlugs) := by
  have warrants : Throughout (Warrants (brewery.Served latencyMs) brewery.config (reads + lag))
      (runLog brewery.config brewery.environment connected rounds time initialPlugs) :=
    ((run_fed works.supplied connected rounds).finalState (fresh_fed time initialPlugs)).log
  intro event earlier among
  constructor
  · intro node outcome command
    rcases (warrants event earlier among).on node outcome command with
      ⟨reading, last, instant, value, served, within⟩
    rcases served.frame.2 with ⟨decoded, decodes, recent⟩
    have further : reading - (decoded + Deployment.maxAgeS latencyMs + (reads + lag)) ≤
        reading - (instant + (reads + lag)) := by linarith
    exact ⟨reading, decoded, last, decodes, (fl_mono further).trans within⟩
  · intro internalC record
    rcases (warrants event earlier among).recorded internalC record with
      ⟨instant, value, served, same⟩
    rcases served.frame.1 with ⟨mfg, frame, temperature⟩
    exact ⟨mfg, frame, by rw [same, temperature]⟩

end Results

/-! ## A frame below zero -/

section

open Host.Binary64

def shippedChipTool : ChipTool := ⟨"chip-tool", ".chip"⟩

def frozenOutput : Telemetry.Text := "[TOO]   MeasuredValue: -388\n".toList

def failing (world : World) (_ : List String) : Process :=
  if world.now ≤ 2 then .completed 0 frozenOutput [] else .timeoutExpired

def failingEnvironment : Environment :=
  { Environment.obedient with
    readTempCenti := fun world node endpoint =>
      { CallTiming.instant with
        value := (shippedChipTool.readTempCenti .basic (failing world) node endpoint).mapError
          Failure.exn } }

def Deployment.frozen (sensor : SensorRun true) : Deployment where
  config := .shipped
  chipTool := shippedChipTool
  decimals := .basic
  environment := failingEnvironment
  subprocess := failing
  ready := true
  sensor := sensor
  bootS := 0

theorem lastField_frozenOutput {number : Telemetry.Text}
    (last : ChipTool.LastField .basic number frozenOutput) :
    number = (formatInt (-388)).toList := by
  rw [← ChipTool.getLast?_findall_measuredRe] at last
  have found : (Patterns.findall (ChipTool.measuredRe .basic) frozenOutput).getLast? =
      some (formatInt (-388)).toList := by decide +kernel
  exact Option.some.inj (last.symm.trans found)

theorem Deployment.frozen_works {sensor : SensorRun true} {count : Nat}
    (idle : (sensor.states count).point = none) (owed : (sensor.states count).owed = [])
    (uptime : (sensor.states count).uptime = 2000)
    (internal : (sensor.states count).attributes.internal = some (-388)) :
    (frozen sensor).Works 0 0 0 where
  endpoint := rfl
  value _ := rfl
  shows world stdout stderr ended := by
    change (if world.now ≤ 2 then .completed 0 frozenOutput [] else .timeoutExpired :
      Process) = _ at ended
    refine ⟨count, ⟨idle, by simp [show (frozen sensor).sensor = sensor from rfl, owed]⟩, ?_, ?_⟩
    · split at ended
      · have instant : (frozen sensor).time (sensor.states count) = 2 := by
          simp [time, frozen, uptime]
          norm_num
        exact instant ▸ ‹world.now ≤ 2›
      · cases ended
    · intro number last
      split at ended
      · cases ended
        exact ⟨-388, internal, lastField_frozenOutput last⟩
      · cases ended
  duration _ := le_rfl
  clock world := (add_zero world.now).ge

theorem exists_frozen_sensor : ∃ (sensor : SensorRun true) (count : Nat),
    (sensor.states count).point = none ∧ (sensor.states count).owed = [] ∧
      (sensor.states count).uptime = 2000 ∧
      (sensor.states count).attributes.internal = some (-388) ∧
      ∀ other, count ≤ other → sensor.states other = sensor.states count := by
  have run : ∃ state, replay Device.step (Lifted Device.Freezing) (Device.initial true)
      Device.capturingBurst = some state ∧ state.point = none ∧ state.owed = [] ∧
        state.uptime = 2000 ∧ state.attributes.internal = some (-388) :=
    exists_replay (by decide +kernel)
  rcases run with ⟨state, replayed, idle, owed, uptime, internal⟩
  have reached : Reaches Device.step (Lifted Receives) (Device.initial true) state := by
    apply (Reaches.start.of_replay replayed).weaken
    intro state action permitted
    cases action with
    | observer action =>
        exact ⟨Device.Freezing.parsed permitted, Device.Freezing.delivered permitted⟩
    | _ => trivial
  rcases reached.exists_trace with ⟨sensor, count, rests⟩
  have comes := rests count le_rfl
  rw [← comes] at idle owed uptime internal rests
  exact ⟨sensor, count, idle, owed, uptime, internal, rests⟩

theorem silence_of_the_tilt_is_safe_frozen : ∃ sensor earlier,
    ⟨0, .setPlug 11 true .done⟩ :: earlier <:+
      runLog Config.shipped failingEnvironment true 3 0 (fun _ => false) ∧
    ∃ reading decoded, lastClock earlier = some reading ∧
      (Deployment.frozen sensor).Decodes decoded ∧
      fl (reading - (decoded + Deployment.maxAgeS 0)) ≤ 180 := by
  rcases exists_frozen_sensor with ⟨sensor, count, idle, owed, uptime, internal, -⟩
  have safe := silence_of_the_tilt_is_safe (Deployment.frozen_works idle owed uptime internal)
    true 3 0 (fun _ => false)
  have heated : (⟨0, .setPlug 11 true .done⟩ : Event) ∈
      runLog Config.shipped failingEnvironment true 3 0 (fun _ => false) := by decide +kernel
  rcases List.append_of_mem heated with ⟨later, earlier, split⟩
  have suffix : ⟨0, .setPlug 11 true .done⟩ :: earlier <:+
      runLog Config.shipped failingEnvironment true 3 0 (fun _ => false) := ⟨later, split.symm⟩
  rcases (safe _ _ suffix).on 11 .done rfl with ⟨reading, decoded, last, decodes, within⟩
  rw [add_zero, add_zero] at within
  exact ⟨sensor, earlier, suffix, reading, decoded, last, decodes, within⟩

end

end BuranBrew.Brewery

import BuranBrew.Device.Pace
import BuranBrew.Host.ChipTool
import BuranBrew.Host.Supply

/-! # The sensor and the host

The host reads the attributes of the sensor through `chip-tool`. Of this program and of
Matter it is assumed that a successful read prints what the attribute was at some time
during the call when the Matter thread of the sensor had no work in hand.
-/

namespace BuranBrew.Brewery

open Device (Attributes Lifted)
open Execution History Host Transitions
open Observer (sampleMaxAgeMs)

/-! ## The sensor -/

def kAmbientEndpoint : Int := 1

def kInternalEndpoint : Int := 2

def kGravityEndpoint : Int := 3

def measuredValue (attributes : Attributes) (endpoint : Int) : Option Int :=
  if endpoint = kAmbientEndpoint then attributes.ambient.map Int16.toInt
  else if endpoint = kInternalEndpoint then attributes.internal
  else if endpoint = kGravityEndpoint then attributes.gravity.map Int.ofNat
  else none

/-- What the Bluetooth stack of the sensor may do: adverts are parsed, and heard only in a
scan. -/
def Receives (observer : Observer.State) (action : Observer.Action) : Prop :=
  Observer.Parsed observer action ∧ Observer.Delivered observer action

/-- A run of the sensor from the time when `StartServer` has returned. -/
abbrev SensorRun (ready : Bool) : Type :=
  Trace Device.step (Lifted Receives) (Device.initial ready)

/-! ## The host -/

structure Deployment where
  config : Config
  chipTool : ChipTool
  decimals : Decimals
  environment : Environment
  /-- How programs end that the host starts. -/
  subprocess : World → List String → Process
  ready : Bool
  sensor : SensorRun ready
  /-- When the sensor was started, by the clock of the host. -/
  bootS : ℚ

namespace Deployment

variable (brewery : Deployment)

def time (state : Device.State) : ℚ := brewery.bootS + state.uptime / 1000

/-- The Matter thread may answer a read: it has no work in hand, and no report has been due
for longer than `latencyMs`. -/
def Answers (latencyMs : Nat) (state : Device.State) : Prop :=
  state.point = none ∧
    ∀ scheduledMs ∈ state.owed, state.uptime ≤ scheduledMs + latencyMs

def Shows (output : Telemetry.Text) (measured : Option Int) : Prop :=
  ∀ number, ChipTool.LastField brewery.decimals number output →
    ∃ value, measured = some value ∧ number = (formatInt value).toList

def readEnds (world : World) : Process :=
  brewery.chipTool.readEnds (brewery.subprocess world) "temperaturemeasurement"
    brewery.config.nodeSensor brewery.config.epInternal

/-- Temperatures are read through `chip-tool`, which takes some time and shows the attribute
of the sensor; the clock is read without much delay. -/
structure Works (latencyMs : Nat) (reads lag : ℚ) : Prop where
  endpoint : brewery.config.epInternal = kInternalEndpoint
  value : ∀ world,
    (brewery.environment.readTempCenti world brewery.config.nodeSensor
        brewery.config.epInternal).value =
      (brewery.chipTool.readTempCenti brewery.decimals (brewery.subprocess world)
        brewery.config.nodeSensor brewery.config.epInternal).mapError Failure.exn
  shows : ∀ world stdout stderr, brewery.readEnds world = .completed 0 stdout stderr →
    ∃ count, Answers latencyMs (brewery.sensor.states count) ∧
      world.now ≤ brewery.time (brewery.sensor.states count) ∧
      brewery.Shows stdout
        (measuredValue (brewery.sensor.states count).attributes brewery.config.epInternal)
  duration : ∀ world, (brewery.environment.readTempCenti world brewery.config.nodeSensor
    brewery.config.epInternal).duration ≤ reads
  clock : ∀ world, brewery.environment.clock world ≤ world.now + lag

def Served (latencyMs : Nat) (instant : ℚ) (value : Int) : Prop :=
  ∃ count, Answers latencyMs (brewery.sensor.states count) ∧
    instant = brewery.time (brewery.sensor.states count) ∧
    (brewery.sensor.states count).attributes.internal = some value

variable {brewery} {latencyMs : Nat} {reads lag : ℚ}

theorem Works.supplied (works : brewery.Works latencyMs reads lag) :
    brewery.environment.Supplied (brewery.Served latencyMs) brewery.config reads lag where
  duration := works.duration
  clock := works.clock
  internal world value returned := by
    rw [works.value world] at returned
    have read : brewery.chipTool.readTempCenti brewery.decimals (brewery.subprocess world)
        brewery.config.nodeSensor brewery.config.epInternal = .ok value := by
      cases outcome : brewery.chipTool.readTempCenti brewery.decimals (brewery.subprocess world)
        brewery.config.nodeSensor brewery.config.epInternal with
      | error failure =>
          rw [outcome] at returned
          cases returned
      | ok other =>
          rw [outcome] at returned
          cases returned
          rfl
    rcases ChipTool.read_eq_ok_iff.mp read with
      ⟨stdout, stderr, number, ended, last, converted⟩
    rcases works.shows world stdout stderr ended with ⟨count, answers, during, shows⟩
    rcases shows number last with ⟨shown, measured, printed⟩
    rw [printed, ChipTool.int_formatInt] at converted
    have same : shown = value := by
      split at converted
      · cases converted
      · exact Except.ok.inj converted
    refine ⟨brewery.time (brewery.sensor.states count), ⟨count, answers, rfl, ?_⟩, during⟩
    rw [works.endpoint] at measured
    rw [← same, ← measured]
    rfl

/-! ## Frames -/

def Decodes (brewery : Deployment) (instant : ℚ) : Prop :=
  ∃ (count decodedAt : Nat), .decoded decodedAt ∈ (brewery.sensor.states count).observer.log ∧
    instant = brewery.bootS + decodedAt / 1000

/-- How long the sensor may go on serving a frame. -/
def maxAgeS (latencyMs : Nat) : ℚ := (sampleMaxAgeMs + Device.kReportPeriodMs + latencyMs) / 1000

theorem Served.frame {instant : ℚ} {value : Int}
    (served : brewery.Served latencyMs instant value) :
    (∃ mfg : Observer.Payload, mfg.IsTiltBlack ∧ value = mfg.outputs.tempCentiC.toInt) ∧
      ∃ decoded, brewery.Decodes decoded ∧ instant ≤ decoded + maxAgeS latencyMs := by
  rcases served with ⟨count, ⟨idle, prompt⟩, rfl, served⟩
  have reached := brewery.sensor.reaches count
  rcases Device.tilt_attributes_expire reached (by simp [idle]) latencyMs prompt with
    ⟨null, -⟩ | ⟨mfg, frame, internal, -, decodedAt, decoded, recent⟩
  · rw [null] at served
    cases served
  · rw [internal] at served
    refine ⟨⟨mfg, frame, (Option.some.inj served).symm⟩, _,
      ⟨count, decodedAt, decoded, rfl⟩, ?_⟩
    have bound : ((brewery.sensor.states count).uptime : ℚ) ≤
        decodedAt + sampleMaxAgeMs + Device.kReportPeriodMs + latencyMs := by
      exact_mod_cast recent
    unfold time maxAgeS
    linarith

end Deployment

end BuranBrew.Brewery

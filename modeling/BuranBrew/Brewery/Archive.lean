import BuranBrew.Brewery.FailSafe
import BuranBrew.Host.RecordAge
import BuranBrew.Telemetry.Alerts
import BuranBrew.Telemetry.ManyArchivers
import BuranBrew.Telemetry.RoundTrip

/-! # From the frame to the archive

The records of the host pass through the streams and the archivers into the tables on which
the alert rules are evaluated. Nothing else is assumed to append to the streams.
-/

namespace BuranBrew.Brewery

open Delivery (Entry)
open Device (Lifted)
open Execution History Host Transitions
open Telemetry (EntryId Fields Fleet Production Row SharedStore StreamName
  Time rowFor)

/-! ## Rows -/

section Rows

variable {emitter : Emitter} {timeNs : Int64} {metric : String} {value : ℚ} {fields : Fields}

theorem rowFor_ts (stream : StreamName) (entry : Entry EntryId Fields) :
    (rowFor stream entry).ts = Telemetry.stamp entry := by
  cases stream <;> rfl

theorem rowFor_sensor_ts (id : EntryId)
    (sent : emitter.sensor timeNs metric value = some (.sensor, fields)) :
    (rowFor .sensor ⟨id, fields⟩).ts = .unixMilli (Emitter.nowMs timeNs) := by
  rw [rowFor_ts]
  rcases emitter.xAdd_eq_some sent with ⟨-, rfl⟩
  exact Telemetry.stamp_eq id timeNs (by simp [List.lookup_cons])

theorem rowFor_sensor_metric (id : EntryId)
    (sent : emitter.sensor timeNs metric value = some (.sensor, fields)) :
    (rowFor .sensor ⟨id, fields⟩).metric = metric := by
  rcases emitter.xAdd_eq_some sent with ⟨-, rfl⟩
  simp [rowFor, Row.metric, Telemetry.Archiver.field, Telemetry.Values.lookup_ofFields,
    List.lookup_cons]

theorem unixMilli_nowMs_le (timeNs : Int64) :
    Time.unixMilli (Emitter.nowMs timeNs) ≤ timeNs.toInt :=
  Int.ediv_mul_le _ (by decide)

end Rows

/-! ## The streams -/

section Archives

variable [Rounding]

namespace Deployment

-- The epoch by the clock of the host, in seconds, and how far the system clock may be ahead
-- of it when a record is sent.
variable (brewery : Deployment) (epochS skewS : ℚ)

def Logs (event : Event) : Prop :=
  ∃ connected rounds time initialPlugs,
    event ∈ runLog brewery.config brewery.environment connected rounds time initialPlugs

structure Sends (stream : StreamName) (fields : Fields) (record : Host.Telemetry) (time : ℚ)
    (timeNs : Int64) : Prop where
  logged : brewery.Logs ⟨time, .emitted record⟩
  stamped : (timeNs.toInt : ℚ) ≤ (epochS + time + skewS) * 1000000000
  sent : ∃ connected, (⟨brewery.config.nodeSensor, connected⟩ : Emitter).send timeNs record =
    some (stream, fields)

def Produces {π : Type} (_ : Fleet π) : Fleet.Action π → Prop
  | .produce production _ =>
      ∃ record time timeNs,
        brewery.Sends epochS skewS production.stream production.fields record time timeNs
  | .move _ _ => True

def Archives {π : Type} [DecidableEq π] (consumers : π → String) (fleet : Fleet π) : Prop :=
  Reaches (Fleet.step consumers) (brewery.Produces epochS skewS) {} fleet

end Deployment

variable {brewery : Deployment} {epochS skewS : ℚ} {π : Type} [DecidableEq π]
  {consumers : π → String} {fleet : Fleet π}

theorem Deployment.Archives.appended (archives : brewery.Archives epochS skewS consumers fleet)
    {stream : StreamName} {entry : Entry EntryId Fields}
    (known : entry ∈ (fleet.store.streams stream).log.appended) :
    ∃ record time timeNs, brewery.Sends epochS skewS stream entry.content record time timeNs := by
  have sent : ∀ stream, ∀ entry ∈ (fleet.store.streams stream).log.appended,
      ∃ record time timeNs,
        brewery.Sends epochS skewS stream entry.content record time timeNs := by
    apply archives.invariant
    · simp
    · intro fleet action later sent permitted taken stream entry among
      cases action with
      | produce production count =>
          cases taken
          by_cases same : stream = production.stream
          · subst same
            rw [SharedStore.produce, SharedStore.updateStream_streams_same] at among
            rcases List.mem_append.mp among with before | added
            · exact sent _ entry before
            · rw [List.mem_singleton.mp added]
              exact permitted
          · rw [SharedStore.produce, SharedStore.updateStream_streams_other same] at among
            exact sent stream entry among
      | move process made =>
          rcases Option.map_eq_some_iff.mp taken with ⟨⟨store, next⟩, moved, rfl⟩
          rw [(Telemetry.Moved.of_move moved).appended] at among
          exact sent stream entry among
  exact sent stream entry known

theorem Deployment.Archives.of_row (archives : brewery.Archives epochS skewS consumers fleet)
    {stream : StreamName} {row : Row stream} (among : row ∈ fleet.store.tables stream) :
    ∃ id fields record time timeNs, row = rowFor stream ⟨id, fields⟩ ∧
      brewery.Sends epochS skewS stream fields record time timeNs := by
  have reached : fleet.Reached consumers := archives.weaken fun _ _ _ => trivial
  rcases (reached.sound.store stream).rows row among with ⟨⟨id, fields⟩, known, same⟩
  rcases archives.appended known with ⟨record, time, timeNs, sends⟩
  exact ⟨id, fields, record, time, timeNs, same, sends⟩

/-! ## Temperatures -/

namespace Deployment

theorem Archives.of_internal (archives : brewery.Archives epochS skewS consumers fleet)
    {row : Row .sensor} (among : row ∈ fleet.store.tables .sensor)
    (internal : row.metric = "internal") :
    ∃ id fields internalC time timeNs, ∃ emitter : Emitter, row = rowFor .sensor ⟨id, fields⟩ ∧
      brewery.Sends epochS skewS .sensor fields (.sensor "internal" internalC) time timeNs ∧
      emitter.sensor timeNs "internal" internalC = some (.sensor, fields) := by
  rcases archives.of_row among with ⟨id, fields, record, time, timeNs, rfl, sends⟩
  rcases sends.sent with ⟨connected, sent⟩
  cases record with
  | control => cases (Emitter.xAdd_eq_some _ sent).1
  | state => cases sent
  | sensor metric internalC =>
      rw [rowFor_sensor_metric id sent] at internal
      subst internal
      exact ⟨id, fields, internalC, time, timeNs, _, rfl, sends, sent⟩

/-- How long after a frame was decoded its temperature may be archived. -/
def archiveAgeS (latencyMs : Nat) (reads commands lag skewS : ℚ) : ℚ :=
  maxAgeS latencyMs + recordAge reads commands lag + skewS

variable {latencyMs : Nat} {reads commands lag : ℚ}

theorem Works.of_recorded (works : brewery.Works latencyMs reads lag)
    (within : brewery.environment.Within reads commands) (nonneg : 0 ≤ lag) {time internalC : ℚ}
    (logged : brewery.Logs ⟨time, .emitted (.sensor "internal" internalC)⟩) :
    ∃ (mfg : Observer.Payload) (decoded : ℚ), mfg.IsTiltBlack ∧ brewery.Decodes decoded ∧
      internalC = brewery.config.internalC mfg.outputs.tempCentiC.toInt ∧
      time ≤ decoded + maxAgeS latencyMs + recordAge reads commands lag := by
  rcases logged with ⟨connected, rounds, start, initialPlugs, among⟩
  rcases List.append_of_mem among with ⟨later, earlier, split⟩
  have recent := runLog_recent works.supplied within nonneg connected rounds start initialPlugs
    _ earlier ⟨later, split.symm⟩
  rcases recent internalC rfl with ⟨instant, value, served, same, within⟩
  rcases served.frame with ⟨⟨mfg, frame, temperature⟩, decoded, decodes, bound⟩
  refine ⟨mfg, decoded, frame, decodes, by rw [same, temperature], ?_⟩
  change time ≤ _ at within
  linarith

theorem Works.of_sent (works : brewery.Works latencyMs reads lag)
    (within : brewery.environment.Within reads commands) (nonneg : 0 ≤ lag) {fields : Fields}
    {internalC time : ℚ} {timeNs : Int64} {emitter : Emitter} (id : EntryId)
    (sends : brewery.Sends epochS skewS .sensor fields (.sensor "internal" internalC) time timeNs)
    (sent : emitter.sensor timeNs "internal" internalC = some (.sensor, fields)) :
    ∃ (mfg : Observer.Payload) (decoded : ℚ), mfg.IsTiltBlack ∧ brewery.Decodes decoded ∧
      internalC = brewery.config.internalC mfg.outputs.tempCentiC.toInt ∧
      ((rowFor .sensor ⟨id, fields⟩).ts : ℚ) ≤
        (epochS + decoded + archiveAgeS latencyMs reads commands lag skewS) * 1000000000 := by
  rcases works.of_recorded within nonneg sends.logged with
    ⟨mfg, decoded, frame, decodes, temperature, recent⟩
  have stamped := sends.stamped
  have truncated : (Time.unixMilli (Emitter.nowMs timeNs) : ℚ) ≤ timeNs.toInt := by
    exact_mod_cast unixMilli_nowMs_le timeNs
  refine ⟨mfg, decoded, frame, decodes, temperature, ?_⟩
  rw [rowFor_sensor_ts id sent]
  unfold archiveAgeS
  linarith

end Deployment

section Results

variable {latencyMs : Nat} {reads commands lag : ℚ}

/-- Once the Tilt has been silent for long enough, the alert for the internal temperature is
raised, whatever has been archived, and stays so. -/
theorem silence_of_the_tilt_raises_the_alert (works : brewery.Works latencyMs reads lag)
    (within : brewery.environment.Within reads commands) (nonneg : 0 ≤ lag) (sinceS : ℚ)
    (silent : ∀ decoded, brewery.Decodes decoded → decoded ≤ sinceS)
    (archives : brewery.Archives epochS skewS consumers fleet) (now : Time)
    (late : (epochS + sinceS + Deployment.archiveAgeS latencyMs reads commands lag skewS + 180) *
      1000000000 < now) :
    Telemetry.AlertRules.fires now fleet.store.tables .internalStale := by
  change Telemetry.AlertRules.sensorAgeMin now fleet.store.tables "internal" > 3
  unfold Telemetry.AlertRules.sensorAgeMin Telemetry.AlertRules.ageMin
  rcases newest : Queries.latest Row.ts (Telemetry.ofMetric fleet.store.tables "internal") with
    _ | row
  · norm_num
  · rcases List.mem_filter.mp (Queries.isLatest_of_latest newest).mem with ⟨among, internal⟩
    rcases archives.of_internal among (of_decide_eq_true internal) with
      ⟨id, fields, internalC, time, timeNs, emitter, rfl, sends, sent⟩
    rcases works.of_sent within nonneg id sends sent with
      ⟨mfg, decoded, -, decodes, -, recent⟩
    have last := silent decoded decodes
    simp only [Option.map_some, Option.getD_some, Time.epochSince]
    push_cast
    linarith

end Results

end Archives

/-! ## A temperature below zero -/

section

open Host.Binary64

def frozenFields : Fields :=
  [("ts_ms", "1700000000000"), ("node", "1"), ("metric", "internal"), ("value", "-3.8800")]

def frozenArchiver : List (Fleet.Action Unit) :=
  [.produce ⟨.sensor, 1, frozenFields⟩ 0, .move () .start, .move () (.createGroup .done),
    .move () (.createGroup .done), .move () (.read .done fun _ => 1),
    .move () (.read .done fun _ => 1), .move () (.insert .done)]

def OnlyFrozen (_ : Fleet Unit) : Fleet.Action Unit → Prop
  | .produce production _ => production.stream = .sensor ∧ production.fields = frozenFields
  | .move _ _ => True

instance (fleet : Fleet Unit) : DecidablePred (OnlyFrozen fleet)
  | .produce _ _ => inferInstanceAs (Decidable (_ ∧ _))
  | .move _ _ => isTrue trivial

theorem failingEnvironment_within : failingEnvironment.Within 0 0 :=
  ⟨fun _ _ _ => le_rfl, fun _ _ _ => le_rfl, fun _ _ _ => le_rfl⟩

theorem exists_frozen_archive (sensor : SensorRun true) : ∃ fleet : Fleet Unit,
    (Deployment.frozen sensor).Archives 1700000000 0 (fun _ => "host") fleet ∧
      ∃ row ∈ fleet.store.tables .sensor, row.metric = "internal" := by
  have run : ∃ fleet, replay (Fleet.step fun _ => "host") OnlyFrozen {} frozenArchiver =
      some fleet ∧ ∃ row ∈ fleet.store.tables .sensor, row.metric = "internal" :=
    exists_replay (by decide +kernel)
  rcases run with ⟨fleet, replayed, archived⟩
  refine ⟨fleet, ?_, archived⟩
  apply (Reaches.start.of_replay replayed).weaken
  intro fleet action permitted
  cases action with
  | move process made => trivial
  | produce production count =>
      refine ⟨.sensor "internal" (Config.shipped.internalC (-388)), 0, 1700000000000000000,
        ⟨?_, ?_, true, ?_⟩⟩
      · refine ⟨true, 3, 0, fun _ => false, ?_⟩
        change _ ∈ runLog Config.shipped failingEnvironment true 3 0 (fun _ => false)
        decide +kernel
      · have stamp : (1700000000000000000 : Int64).toInt = 1700000000000000000 := by decide
        rw [stamp]
        norm_num
      · rw [permitted.1, permitted.2]
        change (⟨1, true⟩ : Emitter).send _ _ = _
        decide +kernel

theorem frozen_decodes_le {sensor : SensorRun true} {count : Nat}
    (uptime : (sensor.states count).uptime = 2000)
    (rests : ∀ other, count ≤ other → sensor.states other = sensor.states count)
    {decoded : ℚ} (decodes : (Deployment.frozen sensor).Decodes decoded) : decoded ≤ 2 := by
  have advances : Monotone fun other => (sensor.states other).uptime := by
    apply monotone_nat_of_le_succ
    intro other
    rcases sensor.goes other with same | ⟨action, permitted, taken⟩
    · rw [same]
    · exact (Device.Step.of_step taken).uptime_le
  rcases decodes with ⟨other, decodedAt, among, rfl⟩
  have parsed : Reaches Device.step (Lifted Observer.Parsed) (Device.initial true)
      (sensor.states other) := by
    apply (sensor.reaches other).weaken
    intro state action permitted
    cases action with
    | observer action => exact permitted.1
    | _ => trivial
  have stored := Observer.reached_stored
    (Device.observer_reached Device.parsed_harmless parsed)
  have before := (stored.last decodedAt among).2.trans stored.clock
  have last : (sensor.states other).uptime ≤ 2000 := by
    rw [← uptime]
    rcases le_total other count with early | late
    · exact advances early
    · rw [rests other late]
  have decodedBefore : (decodedAt : ℚ) ≤ 2000 := by exact_mod_cast before.trans last
  change (0 : ℚ) + decodedAt / 1000 ≤ 2
  linarith

theorem silence_of_the_tilt_raises_the_alert_frozen :
    ∃ (sensor : SensorRun true) (fleet : Fleet Unit),
      (Deployment.frozen sensor).Archives 1700000000 0 (fun _ => "host") fleet ∧
      (∃ row ∈ fleet.store.tables .sensor, row.metric = "internal") ∧
      Telemetry.AlertRules.fires 1700001000000000000 fleet.store.tables .internalStale := by
  rcases exists_frozen_sensor with ⟨sensor, count, idle, owed, uptime, internal, rests⟩
  rcases exists_frozen_archive sensor with ⟨fleet, archives, archived⟩
  have works := Deployment.frozen_works idle owed uptime internal
  refine ⟨sensor, fleet, archives, archived, ?_⟩
  apply silence_of_the_tilt_raises_the_alert works failingEnvironment_within le_rfl 2
    (fun _ => frozen_decodes_le uptime rests) archives
  norm_num [Deployment.archiveAgeS, Deployment.maxAgeS, recordAge, Observer.sampleMaxAgeMs,
    Device.kReportPeriodMs]

end

end BuranBrew.Brewery

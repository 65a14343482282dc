import BuranBrew.Device.Steps

/-! # What the Tilt attributes show

Both attributes come from one look at the sample of the observer: the last frame that was
decoded before, unless it was more than ten minutes old.
-/

namespace BuranBrew.Device

open Observer (Payload Reading sampleMaxAgeMs)
open Transitions

variable {state later : State} {action : Action}

/-! ## Samples -/

def readings (mfg : Payload) : Reading :=
  ⟨some mfg.outputs.tempCentiC.toInt, some mfg.outputs.gravityX1000.toNat⟩

structure Newest (atMs decodedAt : Nat) (log : List Observer.Event) : Prop where
  decoded : .decoded decodedAt ∈ log
  before : decodedAt ≤ atMs
  recent : atMs ≤ decodedAt + sampleMaxAgeMs
  newest : ∀ other, .decoded other ∈ log → other < atMs → other ≤ decodedAt

/-- The sample that could be found at a time. -/
def Determined (atMs : Nat) (log : List Observer.Event) : Option Reading → Prop
  | none => ∀ other, .decoded other ∈ log → other < atMs → other + sampleMaxAgeMs < atMs
  | some reading => ∃ mfg decodedAt, mfg.IsTiltBlack ∧ reading = readings mfg ∧
      Newest atMs decodedAt log

theorem Determined.grow {atMs : Nat} {sample : Option Reading} {log grown : List Observer.Event}
    (determined : Determined atMs log sample)
    (kept : ∀ other, .decoded other ∈ log → .decoded other ∈ grown)
    (new : ∀ other, .decoded other ∈ grown → .decoded other ∈ log ∨ atMs ≤ other) :
    Determined atMs grown sample := by
  have old (other : Nat) (decoded : .decoded other ∈ grown) (before : other < atMs) :
      .decoded other ∈ log := (new other decoded).resolve_right before.not_ge
  cases sample with
  | none => exact fun other decoded before => determined other (old other decoded before) before
  | some reading =>
      rcases determined with ⟨mfg, decodedAt, frame, same, newest⟩
      refine ⟨mfg, decodedAt, frame, same, kept _ newest.decoded, newest.before,
        newest.recent, ?_⟩
      exact fun other decoded before => newest.newest other (old other decoded before) before

theorem determined_sample (stored : state.observer.Stored) :
    Determined state.uptime state.observer.log state.sample := by
  unfold State.sample Observer.observerGetTilt
  cases fresh : state.observer.fresh with
  | false =>
      intro other decoded before
      rcases stored.last other decoded with ⟨valid, later⟩
      have stale : ¬(state.observer.fresh = true) := by simp [fresh]
      rw [Observer.State.fresh_eq_true_iff, not_and, not_le] at stale
      exact (Nat.add_le_add_right later _).trans_lt (stale valid)
  | true =>
      rcases Observer.State.fresh_eq_true_iff.mp fresh with ⟨valid, recent⟩
      rcases stored.frame valid with ⟨mfg, frame, temp, gravity⟩
      refine ⟨mfg, state.observer.tilt.timestampMs, frame, ?_, stored.decoded valid,
        stored.clock, recent, fun other decoded _ => (stored.last other decoded).2⟩
      simp [readings, temp, gravity]

/-! ## Frames -/

structure Follows (observer later : Observer.State) : Prop where
  uptime : observer.uptime ≤ later.uptime
  kept : ∀ other, .decoded other ∈ observer.log → .decoded other ∈ later.log
  new : ∀ other, .decoded other ∈ later.log →
    .decoded other ∈ observer.log ∨ observer.uptime ≤ other

theorem Follows.refl (observer : Observer.State) : Follows observer observer :=
  ⟨le_rfl, fun _ => id, fun _ => .inl⟩

theorem Follows.of_step {observer next : Observer.State} {observed : Observer.Action}
    (taken : Observer.step observer observed = some next) : Follows observer next := by
  have stepped := Observer.Step.of_step taken
  by_cases advert : ∃ tempCentiC gravityX1000, observed = .advert tempCentiC gravityX1000
  · rcases advert with ⟨tempCentiC, gravityX1000, rfl⟩
    cases stepped with
    | advert _ _ free =>
        refine ⟨le_rfl, fun other => List.mem_cons_of_mem _, ?_⟩
        intro other decoded
        rcases List.mem_cons.mp decoded with now | earlier
        · cases now
          exact .inr le_rfl
        · exact .inl earlier
  · have same := stepped.sameSample fun tempCentiC gravityX1000 equal =>
      advert ⟨tempCentiC, gravityX1000, equal⟩
    exact ⟨same.uptime, fun other => (same.decoded other).mpr,
      fun other decoded => .inl ((same.decoded other).mp decoded)⟩

/-! ## Reports -/

def Point.Writes : Point → Prop
  | .setInternal _ _ | .setGravity _ _ => True
  | _ => False

/-- The sample that the Matter thread is about to write, or has written. -/
def State.Writing (sample : Option Reading) (state : State) : Prop :=
  match state.point with
  | some (.setInternal written _) => written = sample
  | some (.setGravity written _) =>
      written = sample ∧ state.attributes.internal = sample.bind Reading.tempCentiC
  | _ =>
      state.attributes.internal = sample.bind Reading.tempCentiC ∧
        state.attributes.gravity = sample.bind Reading.gravityX1000

def State.Reported (sample : Option Reading) (state : State) : Prop :=
  match state.reportedMs with
  | none => sample = none
  | some atMs => atMs ≤ state.uptime ∧ Determined atMs state.observer.log sample

def State.Reporting (state : State) : Prop :=
  ∃ sample, state.Writing sample ∧ state.Reported sample

theorem State.Reported.grow {sample : Option Reading} (reported : state.Reported sample)
    (follows : Follows state.observer later.observer)
    (same : later.reportedMs = state.reportedMs) : later.Reported sample := by
  unfold State.Reported at reported ⊢
  rw [same]
  cases last : state.reportedMs with
  | none =>
      rw [last] at reported
      exact reported
  | some atMs =>
      rw [last] at reported
      refine ⟨reported.1.trans follows.uptime, reported.2.grow follows.kept ?_⟩
      exact fun other decoded => (follows.new other decoded).imp id reported.1.trans

theorem State.Reporting.aside (reporting : state.Reporting)
    (follows : Follows state.observer later.observer)
    (point : later.point = state.point) (attributes : later.attributes = state.attributes)
    (reportedMs : later.reportedMs = state.reportedMs) : later.Reporting := by
  rcases reporting with ⟨sample, writing, reported⟩
  refine ⟨sample, ?_, reported.grow follows reportedMs⟩
  unfold State.Writing
  rw [point, attributes]
  exact writing

theorem State.Reporting.goto (reporting : state.Reporting)
    (follows : Follows state.observer later.observer)
    (before : ∀ point ∈ state.point, ¬point.Writes)
    (after : ∀ point ∈ later.point, ¬point.Writes)
    (internal : later.attributes.internal = state.attributes.internal)
    (gravity : later.attributes.gravity = state.attributes.gravity)
    (reportedMs : later.reportedMs = state.reportedMs) : later.Reporting := by
  rcases reporting with ⟨sample, writing, reported⟩
  refine ⟨sample, ?_, reported.grow follows reportedMs⟩
  have written : state.attributes.internal = sample.bind Reading.tempCentiC ∧
      state.attributes.gravity = sample.bind Reading.gravityX1000 := by
    unfold State.Writing at writing
    split at writing
    · rename_i running
      exact (before _ running trivial).elim
    · rename_i running
      exact (before _ running trivial).elim
    · exact writing
  unfold State.Writing
  split
  · rename_i running
    exact (after _ running trivial).elim
  · rename_i running
    exact (after _ running trivial).elim
  · rw [internal, gravity]
    exact written

@[simp] theorem not_writes_point (task : Task) : ¬task.point.Writes := by
  cases task <;> exact not_false

theorem Step.reporting (taken : Step state action later) (stored : state.observer.Stored)
    (reporting : state.Reporting) : later.Reporting := by
  cases taken with
  | scheduleGate pending => exact reporting.aside (.refl _) rfl rfl rfl
  | startTimer pending => exact reporting.aside (.refl _) rfl rfl rfl
  | dispatch idle queued =>
      refine reporting.goto (.refl _) ?_ ?_ rfl rfl rfl
      · simp [idle]
      · simp
  | reportAmbient ambient running =>
      refine reporting.goto (.refl _) ?_ ?_ rfl rfl rfl
      · simp [running, Point.Writes]
      · simp [Point.Writes]
  | getTilt running =>
      exact ⟨state.sample, rfl, le_rfl, determined_sample stored⟩
  | @setInternal _ sample periodic running =>
      rcases reporting with ⟨written, writing, reported⟩
      simp only [State.Writing, running] at writing
      exact ⟨written, ⟨writing, by rw [writing]⟩, reported⟩
  | @setGravity _ sample periodic running =>
      rcases reporting with ⟨written, writing, reported⟩
      simp only [State.Writing, running] at writing
      refine ⟨written, ?_, reported⟩
      cases periodic <;> exact ⟨writing.2, by rw [writing.1]⟩
  | trigger running called =>
      refine reporting.goto (.of_step called) ?_ ?_ rfl rfl rfl
      · simp [running, Point.Writes]
      · simp [Point.Writes]
  | ignore running ignored =>
      refine reporting.goto (.refl _) ?_ ?_ rfl rfl rfl
      · simp [running, Point.Writes]
      · simp
  | setGate running call called =>
      refine reporting.goto (.of_step called) ?_ ?_ rfl rfl rfl
      · simp [running, Point.Writes]
      · simp [Point.Writes]
  | returned running free =>
      refine reporting.goto (.refl _) ?_ ?_ rfl rfl rfl
      · simp [running, Point.Writes]
      · simp
  | calling running called => exact reporting.aside (.of_step called) rfl rfl rfl
  | @observer action next own taken =>
      apply reporting.aside
      · rw [tiltSampleReady_observer]
        exact .of_step taken
      all_goals
        unfold State.tiltSampleReady
        split <;> rfl
  | timer running expired => exact reporting.aside (.refl _) rfl rfl rfl
  | post event => exact reporting.aside (.refl _) rfl rfl rfl
  | fabrics count => exact reporting.aside (.refl _) rfl rfl rfl
  | elapse ms before taken => exact reporting.aside (.of_step taken) rfl rfl rfl

theorem parsed_harmless : Harmless Observer.Parsed := by
  intro state action other
  cases action with
  | advert => exact absurd trivial other
  | _ => trivial

theorem reporting_of_reached {ready : Bool}
    (reached : Reaches step (Lifted Observer.Parsed) (initial ready) state) :
    state.Reporting := by
  induction reached with
  | start => exact ⟨none, ⟨rfl, rfl⟩, rfl⟩
  | next before permitted taken induction =>
      have stored := Observer.reached_stored (observer_reached parsed_harmless before)
      exact (Step.of_step taken).reporting stored induction

/-- Unless they are just being written, the Tilt attributes are both null, there having
been no frame in the ten minutes before the last report, or they are of one frame, the
last one before that report. -/
theorem tilt_attributes_show_newest_frame {ready : Bool}
    (reached : Reaches step (Lifted Observer.Parsed) (initial ready) state)
    (written : ∀ point ∈ state.point, ¬point.Writes) :
    (state.attributes.internal = none ∧ state.attributes.gravity = none ∧
      ∀ atMs ∈ state.reportedMs, ∀ decodedAt, .decoded decodedAt ∈ state.observer.log →
        decodedAt < atMs → decodedAt + sampleMaxAgeMs < atMs) ∨
    ∃ mfg : Payload, mfg.IsTiltBlack ∧
      state.attributes.internal = some mfg.outputs.tempCentiC.toInt ∧
      state.attributes.gravity = some mfg.outputs.gravityX1000.toNat ∧
      ∃ atMs ∈ state.reportedMs, ∃ decodedAt, Newest atMs decodedAt state.observer.log := by
  rcases reporting_of_reached reached with ⟨sample, writing, reported⟩
  have attributes : state.attributes.internal = sample.bind Reading.tempCentiC ∧
      state.attributes.gravity = sample.bind Reading.gravityX1000 := by
    unfold State.Writing at writing
    split at writing
    · rename_i running
      exact (written _ running trivial).elim
    · rename_i running
      exact (written _ running trivial).elim
    · exact writing
  rw [attributes.1, attributes.2]
  unfold State.Reported at reported
  cases sample with
  | none =>
      left
      refine ⟨rfl, rfl, ?_⟩
      intro atMs last
      rw [Option.mem_def.mp last] at reported
      exact reported.2
  | some reading =>
      right
      cases last : state.reportedMs with
      | none =>
          rw [last] at reported
          cases reported
      | some atMs =>
          rw [last] at reported
          rcases reported.2 with ⟨mfg, decodedAt, frame, rfl, newest⟩
          exact ⟨mfg, frame, rfl, rfl, atMs, rfl, decodedAt, newest⟩

/-! ## Bursts that capture a sample -/

/-- A report of the sample that was captured is ahead, or has been made. -/
def State.Answered (state : State) : Prop :=
  ∀ calledMs ∈ state.calledBackMs, calledMs ≤ state.uptime ∧
    (.reportTiltWork ∈ state.queue ∨ state.point = some (.getTilt none) ∨
      ∃ atMs ∈ state.reportedMs, calledMs ≤ atMs)

theorem State.Answered.of_same (answered : state.Answered)
    (uptime : state.uptime ≤ later.uptime)
    (called : later.calledBackMs = state.calledBackMs)
    (queue : .reportTiltWork ∈ state.queue →
      .reportTiltWork ∈ later.queue ∨ later.point = some (.getTilt none))
    (point : state.point = some (.getTilt none) → later.point = some (.getTilt none))
    (reportedMs : later.reportedMs = state.reportedMs) : later.Answered := by
  intro calledMs among
  rw [called] at among
  rcases answered calledMs among with ⟨before, queued | running | reported⟩
  · exact ⟨before.trans uptime, or_assoc.mp (.inl (queue queued))⟩
  · exact ⟨before.trans uptime, .inr (.inl (point running))⟩
  · rw [← reportedMs] at reported
    exact ⟨before.trans uptime, .inr (.inr reported)⟩

theorem Step.uptime_le (taken : Step state action later) : state.uptime ≤ later.uptime := by
  have permits : Harmless fun _ _ => True := fun _ _ _ => trivial
  have allowed : Lifted (fun _ _ => True) state action := by
    cases action <;> trivial
  rcases taken.observer_step permits allowed with same | ⟨observed, -, moved⟩
  · exact (congrArg Observer.State.uptime same).ge
  · exact (Follows.of_step moved).uptime

theorem Step.answered (taken : Step state action later) (answered : state.Answered) :
    later.Answered := by
  have uptime := taken.uptime_le
  cases taken with
  | dispatch idle queued =>
      refine answered.of_same uptime rfl ?_ (by simp [idle]) rfl
      intro among
      rw [queued] at among
      rcases List.mem_cons.mp among with first | rest
      · rw [← first]
        exact .inr rfl
      · exact .inl rest
  | reportAmbient ambient running =>
      exact answered.of_same uptime rfl .inl (by simp [running]) rfl
  | getTilt running =>
      intro calledMs among
      have before := (answered calledMs among).1
      exact ⟨before, .inr (.inr ⟨state.uptime, rfl, before⟩)⟩
  | setInternal running => exact answered.of_same uptime rfl .inl (by simp [running]) rfl
  | setGravity running => exact answered.of_same uptime rfl .inl (by simp [running]) rfl
  | trigger running called => exact answered.of_same uptime rfl .inl (by simp [running]) rfl
  | ignore running ignored => exact answered.of_same uptime rfl .inl (by simp [running]) rfl
  | setGate running call called =>
      exact answered.of_same uptime rfl .inl (by simp [running]) rfl
  | returned running free => exact answered.of_same uptime rfl .inl (by simp [running]) rfl
  | @observer action next own taken =>
      unfold State.tiltSampleReady at uptime ⊢
      split
      · rw [if_pos ‹_›] at uptime
        intro calledMs among
        cases among
        exact ⟨le_rfl, .inl (List.mem_append_right _ (List.mem_singleton_self _))⟩
      · rw [if_neg ‹_›] at uptime
        exact answered.of_same uptime rfl .inl (fun running => running) rfl
  | scheduleGate pending =>
      exact answered.of_same uptime rfl (fun among => .inl (List.mem_append_left _ among))
        (fun running => running) rfl
  | timer running expired =>
      exact answered.of_same uptime rfl (fun among => .inl (List.mem_append_left _ among))
        (fun running => running) rfl
  | post event =>
      exact answered.of_same uptime rfl (fun among => .inl (List.mem_append_left _ among))
        (fun running => running) rfl
  | startTimer | calling | fabrics | elapse =>
      exact answered.of_same uptime rfl .inl (fun running => running) rfl

def Freezing (observer : Observer.State) : Observer.Action → Prop
  | .advert tempCentiC gravityX1000 =>
      observer.scanning = true ∧ tempCentiC = -388 ∧ gravityX1000 = 1010
  | _ => True

instance (observer : Observer.State) :
    ∀ action, Decidable (Freezing observer action)
  | .advert _ _ => inferInstanceAs (Decidable (_ ∧ _ ∧ _))
  | .take | .handler _ | .observerEnable _ | .observerTrigger | .matter | .rx | .expire
  | .elapse _ => isTrue trivial

instance (permitted : Observer.State → Observer.Action → Prop)
    [∀ observer action, Decidable (permitted observer action)] (state : State) :
    ∀ action, Decidable (Lifted permitted state action)
  | .observer action => inferInstanceAs (Decidable (permitted state.observer action))
  | .init | .dispatch | .matter _ | .timer | .post _ | .fabrics _ | .elapse _ => isTrue trivial

theorem Freezing.parsed {observer : Observer.State} {action : Observer.Action}
    (freezing : Freezing observer action) : Observer.Parsed observer action := by
  cases action with
  | advert tempCentiC gravityX1000 =>
      rcases freezing with ⟨-, rfl, rfl⟩
      refine ⟨⟨Observer.btDataManufacturerData, Observer.freezingFrame⟩, ⟨0, 0⟩, ?_⟩
      rw [Observer.adParseCb_run, if_pos (by decide)]
      decide
  | _ => trivial

def roomTemperature : Bme680 := ⟨0, 0, ⟨20, 500000⟩⟩

def statements (count : Nat) : List Action :=
  List.replicate count (.matter roomTemperature)

def firstReport : List Action :=
  List.flatten [[.fabrics 1, .init, .init, .dispatch], statements 3,
    [.elapse 2000, .timer, .dispatch], statements 8]

def frameBurst : List Observer.Action :=
  List.flatten [[.take], Observer.statements 6 .success, [.advert (-388) 1010, .rx, .take],
    Observer.statements 7 .success]

def capturingBurst : List Action :=
  List.flatten [firstReport, frameBurst.map .observer, [.dispatch], statements 3]

theorem reached_of_freezing {ready : Bool}
    (reached : Reaches step (Lifted Freezing) (initial ready) state) :
    Reaches step (Lifted Observer.Parsed) (initial ready) state := by
  apply reached.weaken
  intro state action permitted
  cases action with
  | observer action => exact Freezing.parsed permitted
  | _ => trivial

theorem tilt_attributes_show_newest_frame_freezing : ∃ state,
    replay step (Lifted Freezing) (initial true) capturingBurst = some state ∧
      ∃ mfg : Payload, mfg.IsTiltBlack ∧
        state.attributes.internal = some mfg.outputs.tempCentiC.toInt ∧
        state.attributes.gravity = some mfg.outputs.gravityX1000.toNat := by
  have run : ∃ state, replay step (Lifted Freezing) (initial true) capturingBurst = some state ∧
      state.point = none ∧ state.attributes.internal = some (-388) :=
    exists_replay (by decide +kernel)
  rcases run with ⟨state, replayed, idle, internal⟩
  have reached := reached_of_freezing (Reaches.start.of_replay replayed)
  rcases tilt_attributes_show_newest_frame reached (by simp [idle]) with
    ⟨null, -⟩ | ⟨mfg, frame, temp, gravity, -⟩
  · simp [internal] at null
  · exact ⟨state, replayed, mfg, frame, temp, gravity⟩

end BuranBrew.Device

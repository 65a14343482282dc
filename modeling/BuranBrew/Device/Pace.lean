import BuranBrew.Device.Dormant

/-! # The pace of the reports

The report timer makes one report due in every period. Reports may be late, but none is
left out, so that the age of what the Tilt attributes show and the number of bursts are
bounded.
-/

namespace BuranBrew.Device

open Observer (Payload Delivered sampleMaxAgeMs)
open Transitions

variable {state later : State} {action : Action}

/-! ## Reports that are due -/

def Task.owes : Task → List Nat
  | .reportWork scheduledMs => [scheduledMs]
  | _ => []

def Point.owes : Point → List Nat
  | .reportAmbient scheduledMs | .getTilt (some scheduledMs) => [scheduledMs]
  | _ => []

def State.owed (state : State) : List Nat :=
  (state.point.elim [] Point.owes) ++ state.queue.flatMap Task.owes

def Point.commits : Point → Nat
  | .setInternal _ true | .setGravity _ true | .trigger => 1
  | _ => 0

def State.committed (state : State) : Nat :=
  state.triggers + state.point.elim 0 Point.commits

@[simp] theorem owes_point (task : Task) : task.point.owes = task.owes := by
  cases task <;> rfl

@[simp] theorem commits_point (task : Task) : task.point.commits = 0 := by
  cases task <;> rfl

/-- The first report that is due was scheduled at `first`, `count` reports are due, and
the timer expires a period after the last one. -/
structure State.Ticking (first count : Nat) (state : State) : Prop where
  started : state.init = none
  owed : state.owed = List.range' first count kReportPeriodMs
  timer : state.timer = some (first + kReportPeriodMs * count)
  punctual : state.uptime ≤ first + kReportPeriodMs * count
  ticked : 0 < count ∨ 0 < state.committed →
    first + kReportPeriodMs * count ≤ state.uptime + kReportPeriodMs
  regular : kReportPeriodMs * state.committed + 2000 ≤ first
  reported : 0 < state.committed →
    ∃ atMs ∈ state.reportedMs, first ≤ atMs + kReportPeriodMs

def State.Paced (state : State) : Prop :=
  state.timer = none ∧ state.owed = [] ∧ state.committed = 0 ∨
    ∃ first count, state.Ticking first count

theorem State.Ticking.of_same {first count : Nat} (ticking : state.Ticking first count)
    (init : later.init = state.init) (owed : later.owed = state.owed)
    (timer : later.timer = state.timer) (committed : later.committed = state.committed)
    (reportedMs : later.reportedMs = state.reportedMs)
    (uptime : state.uptime ≤ later.uptime)
    (punctual : later.uptime = state.uptime ∨ state.Before later.uptime) :
    later.Ticking first count where
  started := init.trans ticking.started
  owed := owed.trans ticking.owed
  timer := timer.trans ticking.timer
  punctual := by
    rcases punctual with same | before
    · exact same.trans_le ticking.punctual
    · exact before _ ticking.timer
  ticked := by
    rw [committed]
    exact fun some => (ticking.ticked some).trans (Nat.add_le_add_right uptime _)
  regular := by
    rw [committed]
    exact ticking.regular
  reported := by
    rw [committed, reportedMs]
    exact ticking.reported

theorem State.Paced.of_same (paced : state.Paced)
    (init : later.init = state.init) (owed : later.owed = state.owed)
    (timer : later.timer = state.timer) (committed : later.committed = state.committed)
    (reportedMs : later.reportedMs = state.reportedMs)
    (uptime : state.uptime ≤ later.uptime)
    (punctual : later.uptime = state.uptime ∨ state.Before later.uptime) : later.Paced := by
  rcases paced with ⟨stopped, none, zero⟩ | ⟨first, count, ticking⟩
  · exact .inl ⟨timer.trans stopped, owed.trans none, committed.trans zero⟩
  · exact .inr ⟨first, count,
      ticking.of_same init owed timer committed reportedMs uptime punctual⟩

theorem State.Ticking.report {first count scheduledMs : Nat}
    (ticking : state.Ticking first count)
    (running : state.point = some (.getTilt (some scheduledMs))) :
    scheduledMs = first ∧ ∃ left, count = left + 1 ∧
      { state with
        point := some (.setInternal state.sample true)
        reportedMs := some state.uptime }.Ticking (first + kReportPeriodMs) left := by
  have due : scheduledMs :: state.queue.flatMap Task.owes =
      List.range' first count kReportPeriodMs := by
    rw [← ticking.owed, State.owed, running]
    rfl
  cases count with
  | zero => cases due
  | succ left =>
      rw [List.range'_succ] at due
      have heads := List.cons.inj due
      have expiry : first + kReportPeriodMs * (left + 1) =
          first + kReportPeriodMs + kReportPeriodMs * left := by
        rw [Nat.mul_succ]
        omega
      have before : first ≤ state.uptime := by
        have ticked := ticking.ticked (.inl (Nat.succ_pos left))
        omega
      have committed : state.committed = state.triggers := by
        simp [State.committed, running, Point.commits]
      have regular := ticking.regular
      rw [committed] at regular
      refine ⟨heads.1, left, rfl, ticking.started, heads.2, ?_, ?_, ?_, ?_, ?_⟩
      · rw [← expiry]
        exact ticking.timer
      · rw [← expiry]
        exact ticking.punctual
      · rw [← expiry]
        exact fun _ => ticking.ticked (.inl (Nat.succ_pos left))
      · change kReportPeriodMs * (state.triggers + 1) + 2000 ≤ _
        rw [Nat.mul_succ]
        omega
      · exact fun _ => ⟨state.uptime, rfl, Nat.add_le_add_right before _⟩

theorem uptime_eq {observer next : Observer.State} {observed : Observer.Action}
    (taken : Observer.step observer observed = some next)
    (running : ∀ ms, observed ≠ .elapse ms) : next.uptime = observer.uptime := by
  cases Observer.Step.of_step taken with
  | @start point code running =>
      cases point <;> simp only [Observer.startStatement] <;> (try split) <;> rfl
  | @burstStop origin point code running =>
      cases point with
      | callback captured =>
          cases captured
          · rfl
          · simp only [Observer.stopStatement]
            split <;> rfl
      | checkActive =>
          simp only [Observer.stopStatement]
          split <;> rfl
      | _ => rfl
  | @matter point calling => cases point <;> rfl
  | elapse ms => exact absurd rfl (running ms)
  | _ => rfl

theorem Step.paced (taken : Step state action later) (paced : state.Paced) :
    later.Paced := by
  have uptime := taken.uptime_le
  cases taken with
  | scheduleGate pending =>
      rcases paced with ⟨stopped, none, zero⟩ | ⟨first, count, ticking⟩
      · refine .inl ⟨stopped, ?_, zero⟩
        simpa [State.owed, State.schedule, Task.owes] using none
      · simp [ticking.started] at pending
  | startTimer pending =>
      rcases paced with ⟨stopped, none, zero⟩ | ⟨first, count, ticking⟩
      · refine .inr ⟨state.uptime + 2000, 0, rfl, none, rfl, ?_, ?_, ?_, ?_⟩
        · exact Nat.le_add_right _ _
        · rintro (positive | positive)
          · exact absurd positive (lt_irrefl 0)
          · exact absurd zero positive.ne'
        · change kReportPeriodMs * state.committed + 2000 ≤ state.uptime + 2000
          rw [zero]
          omega
        · exact fun positive => absurd zero positive.ne'
      · simp [ticking.started] at pending
  | @dispatch task queue idle queued =>
      refine paced.of_same rfl ?_ rfl ?_ rfl uptime (.inl rfl)
      · simp [State.owed, idle, queued]
      · simp [State.committed, idle]
  | reportAmbient ambient running =>
      refine paced.of_same rfl ?_ rfl ?_ rfl uptime (.inl rfl)
      · simp [State.owed, running, Point.owes]
      · simp [State.committed, running, Point.commits]
  | @getTilt _ scheduledMs running =>
      cases scheduledMs with
      | some scheduledMs =>
          rcases paced with ⟨stopped, none, zero⟩ | ⟨first, count, ticking⟩
          · simp [State.owed, running, Point.owes] at none
          · rcases ticking.report running with ⟨-, left, -, next⟩
            exact .inr ⟨_, left, next⟩
      | none =>
          have owed : state.owed = state.queue.flatMap Task.owes := by
            simp [State.owed, running, Point.owes]
          have committed : state.committed = state.triggers := by
            simp [State.committed, running, Point.commits]
          rcases paced with ⟨stopped, none, zero⟩ | ⟨first, count, ticking⟩
          · exact .inl ⟨stopped, owed.symm.trans none, committed.symm.trans zero⟩
          · refine .inr ⟨first, count, ticking.started, owed.symm.trans ticking.owed,
              ticking.timer, ticking.punctual, ?_, ?_, ?_⟩
            · change 0 < count ∨ 0 < state.triggers → _
              rw [← committed]
              exact ticking.ticked
            · change kReportPeriodMs * state.triggers + 2000 ≤ first
              rw [← committed]
              exact ticking.regular
            · change 0 < state.triggers → _
              rw [← committed]
              intro positive
              have ticked := ticking.ticked (.inr positive)
              exact ⟨state.uptime, rfl, by omega⟩
  | @setInternal _ sample periodic running =>
      refine paced.of_same rfl ?_ rfl ?_ rfl uptime (.inl rfl)
      · simp [State.owed, running, Point.owes]
      · cases periodic <;> simp [State.committed, running, Point.commits]
  | @setGravity _ sample periodic running =>
      refine paced.of_same rfl ?_ rfl ?_ rfl uptime (.inl rfl)
      · cases periodic <;> simp [State.owed, running, Point.owes]
      · cases periodic <;> simp [State.committed, running, Point.commits]
  | trigger running called =>
      refine paced.of_same rfl ?_ rfl ?_ rfl uptime (.inl (uptime_eq called (by simp)))
      · simp [State.owed, running, Point.owes]
      · simp [State.committed, running, Point.commits]
  | ignore running ignored =>
      refine paced.of_same rfl ?_ rfl ?_ rfl uptime (.inl rfl)
      · simp [State.owed, running, Point.owes]
      · simp [State.committed, running, Point.commits]
  | setGate running call called =>
      refine paced.of_same rfl ?_ rfl ?_ rfl uptime (.inl (uptime_eq called (by simp)))
      · simp [State.owed, running, Point.owes]
      · simp [State.committed, running, Point.commits]
  | returned running free =>
      refine paced.of_same rfl ?_ rfl ?_ rfl uptime (.inl rfl)
      · simp [State.owed, running, Point.owes]
      · simp [State.committed, running, Point.commits]
  | calling running called =>
      exact paced.of_same rfl rfl rfl rfl rfl uptime (.inl (uptime_eq called (by simp)))
  | @observer action next own taken =>
      have still : next.uptime = state.observer.uptime := by
        apply uptime_eq taken
        rintro ms rfl
        exact own
      unfold State.tiltSampleReady at uptime ⊢
      split
      · rw [if_pos ‹_›] at uptime
        refine paced.of_same rfl ?_ rfl rfl rfl uptime (.inl still)
        simp [State.schedule, State.owed, Task.owes]
      · rw [if_neg ‹_›] at uptime
        exact paced.of_same rfl rfl rfl rfl rfl uptime (.inl still)
  | @timer due running expired =>
      rcases paced with ⟨stopped, -, -⟩ | ⟨first, count, ticking⟩
      · simp [stopped] at running
      · have same : due = first + kReportPeriodMs * count :=
          Option.some.inj (running.symm.trans ticking.timer)
        subst same
        have now : state.uptime = first + kReportPeriodMs * count :=
          le_antisymm ticking.punctual expired
        have expiry : first + kReportPeriodMs * (count + 1) =
            first + kReportPeriodMs * count + kReportPeriodMs := by
          rw [Nat.mul_succ]
          omega
        refine .inr ⟨first, count + 1, ticking.started, ?_, ?_, ?_, ?_, ticking.regular,
          ticking.reported⟩
        · rw [List.range'_concat, ← ticking.owed, ← now]
          simp [State.owed, State.schedule, Task.owes]
        · rw [expiry]
        · rw [expiry]
          exact ticking.punctual.trans (Nat.le_add_right _ _)
        · rw [expiry, ← now]
          exact fun _ => le_rfl
  | post event =>
      refine paced.of_same rfl ?_ rfl rfl rfl uptime (.inl rfl)
      simp [State.owed, State.schedule, Task.owes]
  | fabrics count => exact paced.of_same rfl rfl rfl rfl rfl uptime (.inl rfl)
  | @elapse next ms before taken =>
      have same : next.uptime = state.uptime + ms := by
        cases Observer.Step.of_step taken
        rfl
      refine paced.of_same rfl rfl rfl rfl rfl uptime (.inr ?_)
      change state.Before next.uptime
      rw [same]
      exact before

theorem paced_of_reached {allowed : State → Action → Prop} {ready : Bool}
    (reached : Reaches step allowed (initial ready) state) : state.Paced := by
  apply reached.invariant
  · exact .inl ⟨rfl, rfl, rfl⟩
  · intro state action later paced _ taken
    exact (Step.of_step taken).paced paced

/-! ## Age -/

theorem State.Ticking.uptime_le {first count latencyMs : Nat}
    (ticking : state.Ticking first count)
    (prompt : ∀ scheduledMs ∈ state.owed, state.uptime ≤ scheduledMs + latencyMs) :
    state.uptime ≤ first + latencyMs := by
  cases count with
  | zero =>
      have punctual := ticking.punctual
      omega
  | succ left =>
      apply prompt
      rw [ticking.owed, List.range'_succ]
      exact List.mem_cons_self

theorem Freezing.delivered {observer : Observer.State} {action : Observer.Action}
    (freezing : Freezing observer action) : Delivered observer action := by
  cases action with
  | advert tempCentiC gravityX1000 => exact freezing.1
  | _ => trivial

/-- What the Tilt attributes show expires: unless they are just being written, and while no
report waits for longer than `latencyMs`, they are null, or they are of a frame that was
decoded at most eleven minutes and `latencyMs` ago. -/
theorem tilt_attributes_expire {ready : Bool}
    (reached : Reaches step
      (Lifted fun observer action => Observer.Parsed observer action ∧
        Delivered observer action) (initial ready) state)
    (written : ∀ point ∈ state.point, ¬point.Writes) (latencyMs : Nat)
    (prompt : ∀ scheduledMs ∈ state.owed, state.uptime ≤ scheduledMs + latencyMs) :
    (state.attributes.internal = none ∧ state.attributes.gravity = none) ∨
    ∃ mfg : Payload, mfg.IsTiltBlack ∧
      state.attributes.internal = some mfg.outputs.tempCentiC.toInt ∧
      state.attributes.gravity = some mfg.outputs.gravityX1000.toNat ∧
      ∃ decodedAt, .decoded decodedAt ∈ state.observer.log ∧
        state.uptime ≤ decodedAt + sampleMaxAgeMs + kReportPeriodMs + latencyMs := by
  have parsed : Reaches step (Lifted Observer.Parsed) (initial ready) state := by
    apply reached.weaken
    intro state action permitted
    cases action with
    | observer action => exact permitted.1
    | _ => trivial
  have delivered : Reaches step (Lifted Delivered) (initial ready) state := by
    apply reached.weaken
    intro state action permitted
    cases action with
    | observer action => exact permitted.2
    | _ => trivial
  rcases Nat.eq_zero_or_pos state.triggers with untriggered | triggered
  · have dormant := dormant_of_reached delivered untriggered
    exact .inl ⟨dormant.internal, dormant.gravity⟩
  · have committed : 0 < state.committed := Nat.add_pos_left triggered _
    rcases paced_of_reached reached with ⟨-, -, zero⟩ | ⟨first, count, ticking⟩
    · exact absurd zero committed.ne'
    rcases tilt_attributes_show_newest_frame parsed written with
      ⟨internal, gravity, -⟩ | ⟨mfg, frame, internal, gravity, atMs, last, decodedAt, newest⟩
    · exact .inl ⟨internal, gravity⟩
    · refine .inr ⟨mfg, frame, internal, gravity, decodedAt, newest.decoded, ?_⟩
      rcases ticking.reported committed with ⟨lastMs, among, after⟩
      rw [Option.mem_unique among last] at after
      have uptime := ticking.uptime_le prompt
      have recent := newest.recent
      omega

theorem tilt_attributes_expire_freezing : ∃ state,
    replay step (Lifted Freezing) (initial true) capturingBurst = some state ∧
      state.attributes.internal = some (-388) ∧ ∃ decodedAt,
        .decoded decodedAt ∈ state.observer.log ∧
          state.uptime ≤ decodedAt + sampleMaxAgeMs + kReportPeriodMs := by
  have run : ∃ state, replay step (Lifted Freezing) (initial true) capturingBurst = some state ∧
      state.point = none ∧ state.owed = [] ∧ state.attributes.internal = some (-388) :=
    exists_replay (by decide +kernel)
  rcases run with ⟨state, replayed, idle, none, internal⟩
  have reached : Reaches step
      (Lifted fun observer action => Observer.Parsed observer action ∧
        Delivered observer action) (initial true) state := by
    apply (Reaches.start.of_replay replayed).weaken
    intro state action permitted
    cases action with
    | observer action => exact ⟨Freezing.parsed permitted, Freezing.delivered permitted⟩
    | _ => trivial
  rcases tilt_attributes_expire reached (by simp [idle]) 0 (by simp [none]) with
    ⟨null, -⟩ | ⟨-, -, -, -, decodedAt, decoded, recent⟩
  · simp [internal] at null
  · exact ⟨state, replayed, internal, decodedAt, decoded, recent⟩

end BuranBrew.Device

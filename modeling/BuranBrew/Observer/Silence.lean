import BuranBrew.Observer.Lifecycle

/-! # Failed stops

A controller that has failed to stop scanning is not stopped again: the flag is down, so
no later teardown gets to `bt_le_scan_stop`, and no later start is accepted.
-/

namespace BuranBrew.Observer

open History Transitions

variable {state later : State} {action : Action}

/-- The controller rejects a start while it is scanning. -/
def Rejecting (state : State) (action : Action) : Prop :=
  action = .handler .success → state.handler = some (.start .scanStart) →
    state.scanning = false

instance : Decidable (Rejecting state action) :=
  inferInstanceAs (Decidable (_ → _ → _))

def lastEnable : List Event → Option Bool
  | [] => none
  | .enable enable :: _ => some enable
  | _ :: log => lastEnable log

def sinceEnable : List Event → List Event
  | [] => []
  | .enable _ :: _ => []
  | event :: log => event :: sinceEnable log

def beforeEnable : List Event → List Event
  | [] => []
  | .enable _ :: log => log
  | _ :: log => beforeEnable log

theorem stop_mem_iff {code : Code} (log : List Event) :
    .scanStop code ∈ log ↔
      .scanStop code ∈ sinceEnable log ∨ .scanStop code ∈ beforeEnable log := by
  induction log with
  | nil => simp [sinceEnable, beforeEnable]
  | cons event log induction =>
      cases event with
      | enable enable => simp [sinceEnable, beforeEnable]
      | _ => simp [sinceEnable, beforeEnable, induction, or_assoc]

theorem startStatement_lastEnable (code : Code) (state : State) (point : StartPoint) :
    lastEnable (startStatement code state point).log = lastEnable state.log := by
  rw [startStatement_log]
  cases point <;> rfl

theorem stopStatement_lastEnable (code : Code) (origin : Origin) (state : State)
    (point : StopPoint) :
    lastEnable (stopStatement code origin state point).log = lastEnable state.log := by
  rw [stopStatement_log]
  cases point with
  | callback captured =>
      dsimp only
      split
      · rfl
      · rfl
  | _ => rfl

/-! ## Whether the controller is scanning -/

namespace State

/-- The running handler is inside `bt_le_scan_stop`, which is to return `code`. -/
def Stopping (state : State) (code : Code) : Prop :=
  ∃ origin, state.handler = some (.burstStop origin (.stopping code))

/-- After a failed stop the controller scans for ever; before it scans from a successful
start until the next stop returns. -/
structure ScanningKnown (state : State) : Prop where
  failed : .scanStop .failure ∈ state.log →
    state.scanning = true ∧ burstOpen state.log = false
  scanning : .scanStop .failure ∉ state.log →
    (state.scanning = true ↔ burstOpen state.log = true ∨ ∃ code, state.Stopping code)
  stopping : ∀ code, state.Stopping code → (code = .failure ↔ .scanStop .failure ∈ state.log)

theorem ScanningKnown.of_same (known : state.ScanningKnown)
    (scanning : later.scanning = state.scanning)
    (failed : .scanStop .failure ∈ later.log ↔ .scanStop .failure ∈ state.log)
    (opened : burstOpen later.log = burstOpen state.log)
    (stopping : ∀ code, later.Stopping code ↔ state.Stopping code) :
    later.ScanningKnown := by
  constructor
  · rw [failed, scanning, opened]
    exact known.failed
  · simp only [failed, scanning, opened, stopping]
    exact known.scanning
  · simp only [failed, stopping]
    exact known.stopping

end State

theorem not_stopping_startStatement (code stopped : Code) (state : State)
    (point : StartPoint) : ¬(startStatement code state point).Stopping stopped := by
  intro stops
  rcases stops with ⟨origin, running⟩
  revert running
  cases point <;> simp only [startStatement] <;> (try split) <;> simp

theorem scanningKnown_scanStart (running : state.handler = some (.start .scanStart))
    (known : state.ScanningKnown) (permitted : Rejecting state (.handler .success)) :
    (startStatement .success state .scanStart).ScanningKnown := by
  have silent : state.scanning = false := permitted rfl running
  have unfailed : .scanStop .failure ∉ state.log := by
    intro failed
    simpa [silent] using (known.failed failed).1
  constructor
  · intro failed
    simp [startStatement_log, unfailed] at failed
  · intro _
    simp [startStatement, burstOpen]
  · intro stopped stopping
    exact absurd stopping (not_stopping_startStatement _ _ _ _)

theorem scanningKnown_startStatement {point : StartPoint} {code : Code}
    (running : state.handler = some (.start point)) (known : state.ScanningKnown)
    (permitted : Rejecting state (.handler code)) :
    (startStatement code state point).ScanningKnown := by
  by_cases started : point = .scanStart ∧ code = .success
  · rcases started with ⟨rfl, rfl⟩
    exact scanningKnown_scanStart running known permitted
  · have apart : ∀ stopped, ¬state.Stopping stopped := by
      simp [State.Stopping, running]
    apply known.of_same
    · cases point with
      | scanStart => simp_all [startStatement]
      | _ =>
          simp only [startStatement]
          try split
          all_goals simp
    · rw [startStatement_log]
      cases point <;> simp
    · rw [startStatement_log]
      cases point with
      | scanStart => exact burstOpen_rejected _ fun success => started ⟨rfl, success⟩
      | _ => rfl
    · exact fun stopped =>
        iff_of_false (not_stopping_startStatement code stopped state point) (apart stopped)

theorem scanningKnown_scanStop {origin : Origin} {code : Code}
    (opened : burstOpen state.log = true) (known : state.ScanningKnown) :
    (stopStatement code origin state .scanStop).ScanningKnown := by
  have unfailed : .scanStop .failure ∉ state.log := by
    intro failed
    simpa [opened] using (known.failed failed).2
  have scanning : state.scanning = true := (known.scanning unfailed).mpr (.inl opened)
  constructor
  · intro _
    exact ⟨scanning, rfl⟩
  · intro _
    exact iff_of_true scanning (.inr ⟨code, origin, rfl⟩)
  · intro stopped stops
    rcases stops with ⟨other, running⟩
    simp [stopStatement] at running
    simp [stopStatement_log, unfailed, running.2, eq_comm]

theorem scanningKnown_stopping {origin : Origin} {code returned : Code}
    (running : state.handler = some (.burstStop origin (.stopping returned)))
    (closed : burstOpen state.log = false) (known : state.ScanningKnown) :
    (stopStatement code origin state (.stopping returned)).ScanningKnown := by
  have failure := known.stopping returned ⟨origin, running⟩
  constructor
  · intro failed
    have scanning := (known.failed failed).1
    simp [stopStatement, scanning, failure.mpr failed, closed]
  · intro unfailed
    have stopped : returned ≠ .failure := fun fails => unfailed (failure.mp fails)
    simp [stopStatement, State.Stopping, stopped, closed]
  · intro stopped stops
    rcases stops with ⟨other, stopping⟩
    simp [stopStatement] at stopping

theorem scanningKnown_stopStatement {origin : Origin} {point : StopPoint} {code : Code}
    (running : state.handler = some (.burstStop origin point)) (row : state.RowHolds)
    (known : state.ScanningKnown) :
    (stopStatement code origin state point).ScanningKnown := by
  unfold State.RowHolds at row
  rw [running] at row
  cases point with
  | checkActive =>
      apply known.of_same
      · simp only [stopStatement]
        split <;> rfl
      · rw [stopStatement_log]
      · rw [stopStatement_log]
      · simp only [stopStatement, State.Stopping, running]
        split <;> simp
  | clearActive =>
      refine known.of_same rfl ?_ ?_ ?_
      · simp [stopStatement_log]
      · rfl
      · simp [stopStatement, State.Stopping, running]
  | cancelTimeout =>
      refine known.of_same rfl ?_ ?_ ?_
      · rw [stopStatement_log]
      · rfl
      · simp [stopStatement, State.Stopping, running]
  | scanStop => exact scanningKnown_scanStop row.2.1 known
  | stopping returned => exact scanningKnown_stopping running row.2.1 known
  | capture =>
      refine known.of_same rfl ?_ ?_ ?_
      · simp [stopStatement_log]
      · rfl
      · simp [stopStatement, State.Stopping, running]
  | callback captured =>
      apply known.of_same
      · simp only [stopStatement]
        split <;> rfl
      · simp only [stopStatement_log]
        split <;> simp
      · simp only [stopStatement_log]
        split <;> rfl
      · simp only [stopStatement, State.Stopping, running]
        split <;> simp

theorem scanningKnown_step (row : state.RowHolds) (known : state.ScanningKnown)
    (permitted : Rejecting state action) (taken : Step state action later) :
    later.ScanningKnown := by
  cases taken with
  | @take work queue idle queued =>
      refine known.of_same rfl (Iff.refl _) rfl ?_
      cases work <;> simp [State.Stopping, Work.handler, idle]
  | start code running => exact scanningKnown_startStatement running known permitted
  | burstStop code running => exact scanningKnown_stopStatement running row known
  | observerEnable enable free =>
      exact known.of_same rfl (by simp) rfl fun _ => Iff.rfl
  | observerTrigger free => exact known.of_same rfl (Iff.refl _) rfl fun _ => Iff.rfl
  | @matter point calling =>
      cases point <;> exact known.of_same rfl (Iff.refl _) rfl fun _ => Iff.rfl
  | advert tempCentiC gravityX1000 free =>
      exact known.of_same rfl (by simp) rfl fun _ => Iff.rfl
  | rx pending => exact known.of_same rfl (Iff.refl _) rfl fun _ => Iff.rfl
  | expire scheduled due => exact known.of_same rfl (Iff.refl _) rfl fun _ => Iff.rfl
  | elapse ms => exact known.of_same rfl (Iff.refl _) rfl fun _ => Iff.rfl

/-! ## A disabled observer with a drained queue -/

namespace State

/-- The handler that is running, if any, is about to return because no burst is active or
the observer is disabled. -/
def Returning (state : State) : Prop :=
  state.handler = none ∨ state.handler = some (.start .checkEnabled) ∨
    ∃ origin, state.handler = some (.burstStop origin .checkActive)

/-- Nothing has been queued when the last handler returned, with no call in progress. -/
def Drains (state : State) : Prop :=
  state.handler = none ∧ state.queue = [] ∧ state.enabling = false

structure Quiet (state : State) : Prop where
  calling : ∀ enable, state.matter = some (.setEnabled enable) →
    lastEnable state.log = some enable
  latest : ∀ enable, lastEnable state.log = some enable →
    state.matter ≠ some (.setEnabled enable) → state.enabled = enable
  returned : state.drained = true → state.enabling = false
  idle : state.drained = true → lastEnable state.log = some false →
    state.scanActive = false ∧ state.Returning

theorem Quiet.disabled (quiet : state.Quiet) (drained : state.drained = true)
    (latest : lastEnable state.log = some false) : state.enabled = false := by
  apply quiet.latest false latest
  intro calling
  simpa [enabling, calling] using quiet.returned drained

theorem Drains.idle (drains : state.Drains) (lifecycle : state.Lifecycle)
    (disabled : state.enabled = false) : state.scanActive = false ∧ state.Returning := by
  rcases drains with ⟨idle, empty, returned⟩
  constructor
  · by_contra active
    have called : state.matter ≠ some .submitStop := by
      intro calling
      simp [enabling, calling] at returned
    simpa [empty] using
      lifecycle.stops disabled called (.inr ⟨.inl idle, by simpa using active⟩)
  · exact .inl idle

end State

theorem finish_drained : state.finish.drained = true ↔
    state.drained = true ∨ state.finish.Drains := by
  simp [State.Drains, State.enabling]

theorem startStatement_drained (code : Code) (state : State) (point : StartPoint)
    (drained : (startStatement code state point).drained = true) :
    state.drained = true ∨ (startStatement code state point).Drains := by
  revert drained
  cases point with
  | setActive => exact .inl
  | setBurstStart => exact .inl
  | checkEnabled =>
      simp only [startStatement]
      split
      · exact finish_drained.mp
      · exact .inl
  | checkActive =>
      simp only [startStatement]
      split
      · exact finish_drained.mp
      · exact .inl
  | scanStart =>
      simp only [startStatement]
      split
      · exact .inl
      · exact finish_drained.mp
  | schedule =>
      simp only [startStatement]
      split
      · exact finish_drained.mp
      · exact finish_drained.mp

theorem stopStatement_drained (code : Code) (origin : Origin) (state : State)
    (point : StopPoint) (drained : (stopStatement code origin state point).drained = true) :
    state.drained = true ∨ (stopStatement code origin state point).Drains := by
  revert drained
  cases point with
  | checkActive =>
      simp only [stopStatement]
      split
      · exact finish_drained.mp
      · exact .inl
  | callback captured =>
      simp only [stopStatement]
      split
      · exact finish_drained.mp
      · exact finish_drained.mp
  | _ => exact .inl

theorem State.Quiet.of_handler (quiet : state.Quiet) (lifecycle : later.Lifecycle)
    (enabled : later.enabled = state.enabled) (matter : later.matter = state.matter)
    (latest : lastEnable later.log = lastEnable state.log)
    (drained : later.drained = true → state.drained = true ∨ later.Drains)
    (idle : state.enabled = false → state.scanActive = false → state.Returning →
      later.scanActive = false ∧ later.Returning) : later.Quiet := by
  have returned : later.drained = true → state.enabling = false := by
    intro now
    rcases drained now with before | drains
    · exact quiet.returned before
    · simpa [State.enabling, matter] using drains.2.2
  constructor
  · rw [matter, latest]
    exact quiet.calling
  · rw [matter, latest, enabled]
    exact quiet.latest
  · intro now
    simpa [State.enabling, matter] using returned now
  · rw [latest]
    intro now disabling
    rcases drained now with before | drains
    · rcases quiet.idle before disabling with ⟨inactive, returning⟩
      exact idle (quiet.disabled before disabling) inactive returning
    · apply drains.idle lifecycle
      rw [enabled]
      apply quiet.latest false disabling
      intro calling
      simpa [State.enabling, calling] using returned now

theorem quiet_startStatement {point : StartPoint} {code : Code}
    (running : state.handler = some (.start point)) (quiet : state.Quiet)
    (lifecycle : (startStatement code state point).Lifecycle) :
    (startStatement code state point).Quiet := by
  rcases startStatement_keeps code state point with ⟨enabled, matter, -⟩
  apply quiet.of_handler lifecycle enabled matter
  · exact startStatement_lastEnable code state point
  · exact startStatement_drained code state point
  · intro disabled inactive returning
    have first : point = .checkEnabled := by
      simpa [State.Returning, running] using returning
    subst first
    simp [startStatement, disabled, inactive, State.Returning]

theorem quiet_stopStatement {origin : Origin} {point : StopPoint} {code : Code}
    (running : state.handler = some (.burstStop origin point)) (quiet : state.Quiet)
    (lifecycle : (stopStatement code origin state point).Lifecycle) :
    (stopStatement code origin state point).Quiet := by
  rcases stopStatement_keeps code origin state point with ⟨enabled, matter⟩
  apply quiet.of_handler lifecycle enabled matter
  · exact stopStatement_lastEnable code origin state point
  · exact stopStatement_drained code origin state point
  · intro disabled inactive returning
    have first : point = .checkActive := by
      simpa [State.Returning, running] using returning
    subst first
    simp [stopStatement, inactive, State.Returning]

theorem quiet_take {work : Work} {queue : List Work} (quiet : state.Quiet) :
    State.Quiet { state with queue, handler := some (work.handler (state.origin work)) } := by
  constructor
  · exact quiet.calling
  · exact quiet.latest
  · exact quiet.returned
  · intro drained disabling
    constructor
    · exact (quiet.idle drained disabling).1
    · cases work with
      | start => exact .inr (.inl rfl)
      | stop => exact .inr (.inr ⟨_, rfl⟩)
      | timeout => exact .inr (.inr ⟨_, rfl⟩)

theorem State.Quiet.of_matter (quiet : state.Quiet)
    (calling : ∀ enable, state.matter ≠ some (.setEnabled enable))
    (returned : later.enabling = false) (enabled : later.enabled = state.enabled)
    (log : later.log = state.log) (drained : later.drained = state.drained)
    (active : later.scanActive = state.scanActive)
    (handler : later.handler = state.handler) : later.Quiet := by
  constructor
  · intro enable called
    simp [State.enabling, called] at returned
  · intro enable latest _
    rw [log] at latest
    rw [enabled]
    exact quiet.latest enable latest (calling enable)
  · exact fun _ => returned
  · rw [drained, log, active]
    unfold State.Returning
    rw [handler]
    exact quiet.idle

theorem quiet_matterStatement {point : MatterPoint} (calling : state.matter = some point)
    (quiet : state.Quiet) : (matterStatement state point).Quiet := by
  cases point with
  | setEnabled enable =>
      have undrained : state.drained ≠ true := by
        intro drained
        simpa [State.enabling, calling] using quiet.returned drained
      have called := quiet.calling enable calling
      constructor
      · intro other again
        cases enable <;> simp [matterStatement] at again
      · intro other latest _
        simpa [matterStatement, called] using latest
      · exact fun drained => absurd drained undrained
      · exact fun drained => absurd drained undrained
  | submitStop => exact quiet.of_matter (by simp [calling]) rfl rfl rfl rfl rfl rfl
  | checkEnabled =>
      refine quiet.of_matter (by simp [calling]) ?_ rfl rfl rfl rfl rfl
      cases enabled : state.enabled <;> simp [matterStatement, State.enabling, enabled]
  | submitStart => exact quiet.of_matter (by simp [calling]) rfl rfl rfl rfl rfl rfl

theorem quiet_observerEnable (enable : Bool) :
    State.Quiet ({ state with matter := some (.setEnabled enable), drained := false }.logged
      (.enable enable)) := by
  constructor
  · intro other called
    simpa [lastEnable] using called
  · intro other latest free
    simp [lastEnable] at latest
    simp [latest] at free
  · exact nofun
  · exact nofun

theorem quiet_step (quiet : state.Quiet) (lifecycle : later.Lifecycle)
    (taken : Step state action later) : later.Quiet := by
  cases taken with
  | take idle queued => exact quiet_take quiet
  | start code running => exact quiet_startStatement running quiet lifecycle
  | burstStop code running => exact quiet_stopStatement running quiet lifecycle
  | observerEnable enable free => exact quiet_observerEnable enable
  | observerTrigger free => exact quiet.of_matter (by simp [free]) rfl rfl rfl rfl rfl rfl
  | matter calling => exact quiet_matterStatement calling quiet
  | advert tempCentiC gravityX1000 free =>
      exact ⟨quiet.calling, quiet.latest, quiet.returned, quiet.idle⟩
  | rx pending => exact ⟨quiet.calling, quiet.latest, quiet.returned, quiet.idle⟩
  | expire scheduled due => exact ⟨quiet.calling, quiet.latest, quiet.returned, quiet.idle⟩
  | elapse ms => exact ⟨quiet.calling, quiet.latest, quiet.returned, quiet.idle⟩

theorem quiet_of_reaches {sampleCb : Bool} {allowed : State → Action → Prop}
    (reached : Reaches step allowed (initial sampleCb) state) : state.Quiet := by
  induction reached with
  | start =>
      constructor
      · exact nofun
      · exact nofun
      · exact nofun
      · exact nofun
  | next before permitted taken induction =>
      exact quiet_step induction (lifecycle_of_reaches (before.next permitted taken))
        (.of_step taken)

theorem scanningKnown_of_reaches {sampleCb : Bool}
    (reached : Reaches step Rejecting (initial sampleCb) state) : state.ScanningKnown := by
  induction reached with
  | start =>
      constructor
      · exact nofun
      · intro _
        simp [initial, burstOpen, State.Stopping]
      · intro code stops
        rcases stops with ⟨origin, running⟩
        cases running
  | next before permitted taken induction =>
      exact scanningKnown_step (lifecycle_of_reaches before).row induction permitted
        (.of_step taken)

/-! ## Disabling -/

/-- The observer has been disabled, the queue has drained since, and no stop since has failed. -/
def State.Disabled (state : State) : Prop :=
  lastEnable state.log = some false ∧ state.drained = true ∧
    .scanStop .failure ∉ sinceEnable state.log

instance : Decidable state.Disabled :=
  inferInstanceAs (Decidable (_ ∧ _ ∧ _))

/-- Disabling silences the controller exactly if no stop had failed before. -/
theorem disabling_silences_iff {sampleCb : Bool}
    (reached : Reaches step Rejecting (initial sampleCb) state) (disabled : state.Disabled) :
    state.scanning = false ↔ .scanStop .failure ∉ beforeEnable state.log := by
  rcases disabled with ⟨latest, drained, stopped⟩
  have known := scanningKnown_of_reaches reached
  rcases (quiet_of_reaches reached).idle drained latest with ⟨inactive, returning⟩
  have apart : ∀ code, ¬state.Stopping code := by
    intro code stops
    rcases stops with ⟨origin, running⟩
    simp [State.Returning, running] at returning
  have closed : burstOpen state.log = false := by
    have row := (lifecycle_of_reaches reached).row
    unfold State.RowHolds at row
    rcases returning with idle | first | ⟨origin, first⟩
    · rw [idle] at row
      exact row.1.trans inactive
    · rw [first] at row
      exact row.1.trans inactive
    · rw [first] at row
      exact row.1.trans inactive
  have before : .scanStop .failure ∈ state.log ↔
      .scanStop .failure ∈ beforeEnable state.log := by
    simp [stop_mem_iff state.log, stopped]
  rw [← before]
  constructor
  · intro silent failed
    simpa [silent] using (known.failed failed).1
  · intro unfailed
    simpa [closed, apart] using known.scanning unfailed

def timedOutBurst (code : Code) : List Action :=
  List.flatten [startBurst, [.elapse 5000, .expire, .take], statements 7 code,
    [.observerEnable false, .matter, .matter, .take, .handler .success]]

theorem disabling_silences_timed_out : ∃ state,
    replay step Rejecting (initial true) (timedOutBurst .success) = some state ∧
      state.Disabled ∧ state.scanning = false := by
  have run : ∃ state,
      replay step Rejecting (initial true) (timedOutBurst .success) = some state ∧
        state.Disabled ∧ .scanStop .failure ∉ beforeEnable state.log :=
    exists_replay (by decide +kernel)
  rcases run with ⟨state, replayed, disabled, unfailed⟩
  have silenced := disabling_silences_iff (Reaches.start.of_replay replayed) disabled
  exact ⟨state, replayed, disabled, silenced.mpr unfailed⟩

/-- After one failed stop, the controller of a disabled observer is still scanning. -/
theorem failed_stop_defeats_disabling : ∃ state,
    Reaches step Rejecting (initial true) state ∧ state.Disabled ∧ state.scanning = true := by
  have run : ∃ state,
      replay step Rejecting (initial true) (timedOutBurst .failure) = some state ∧
        state.Disabled ∧ state.scanning = true :=
    exists_replay (by decide +kernel)
  rcases run with ⟨state, replayed, disabled, scanning⟩
  exact ⟨state, Reaches.start.of_replay replayed, disabled, scanning⟩

end BuranBrew.Observer

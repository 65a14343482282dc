import BuranBrew.Foundation.History
import BuranBrew.Observer.Steps

/-! # The lifecycle of a scan

One invariant says, at each statement of the handlers, how the flag, the calls of the
stack and the timeout item stand to each other; another that a disabled observer with
an active scan has a stop queued.
-/

namespace BuranBrew.Observer

open History Transitions

variable {state later : State} {action : Action}

/-- The last scan call of a history is a successful start. -/
def burstOpen : List Event → Bool
  | [] => false
  | .scanStart .success :: _ => true
  | .scanStop _ :: _ => false
  | _ :: log => burstOpen log

/-- A successful start follows no other, and a stop follows one. -/
def Alternates (event : Event) (earlier : List Event) : Prop :=
  (event = .scanStart .success → burstOpen earlier = false) ∧
    ((∃ code, event = .scanStop code) → burstOpen earlier = true)

theorem burstOpen_rejected {code : Code} (log : List Event) (rejected : code ≠ .success) :
    burstOpen (.scanStart code :: log) = burstOpen log := by
  cases code with
  | success => exact absurd rfl rejected
  | already => rfl
  | failure => rfl

/-- What the next statement of the workqueue thread says of the flag `s_scan_active`,
of the burst that is open for the stack, and of the timeout item. -/
def Row (active opened : Bool) (armed : Prop) : Option Handler → Prop
  | none | some (.start .checkEnabled) | some (.start .checkActive) =>
      opened = active ∧ (active = true ↔ armed)
  | some (.start .scanStart) => active = false ∧ opened = false ∧ ¬armed
  | some (.start .setActive) => opened = true
  | some (.start .setBurstStart) | some (.start .schedule) => active = true ∧ opened = true
  -- The timeout item may be the one that is running.
  | some (.burstStop _ .checkActive) => opened = active ∧ (armed → active = true)
  | some (.burstStop _ .clearActive) => active = true ∧ opened = true
  | some (.burstStop _ .cancelTimeout) => active = false ∧ opened = true
  | some (.burstStop _ .scanStop) => active = false ∧ opened = true ∧ ¬armed
  | some (.burstStop _ _) => active = false ∧ opened = false ∧ ¬armed

namespace State

def RowHolds (state : State) : Prop :=
  Row state.scanActive (burstOpen state.log) state.Armed state.handler

/-- The start handler is past its check of `s_enabled`. -/
def Starting (state : State) : Prop :=
  ∃ point, state.handler = some (.start point) ∧ point ≠ .checkEnabled

/-- A stop is queued if the scan of a disabled observer is, or is about to be, active. -/
def StopsWhenDisabled (state : State) : Prop :=
  state.enabled = false → state.matter ≠ some .submitStop →
    (state.Starting ∨ (state.handler = none ∨ state.handler = some (.start .checkEnabled)) ∧
      state.scanActive = true) →
    .stop ∈ state.queue

end State

theorem rowHolds_startStatement {point : StartPoint} {code : Code}
    (running : state.handler = some (.start point)) (row : state.RowHolds) :
    (startStatement code state point).RowHolds := by
  unfold State.RowHolds at row ⊢
  rw [running] at row
  cases point with
  | checkEnabled =>
      simp only [startStatement]
      split
      · simpa [Row] using row
      · simpa [Row] using row
  | checkActive =>
      simp only [startStatement]
      split
      · simpa [Row] using row
      · rename_i inactive
        rcases row with ⟨same, armed⟩
        simp only [Bool.not_eq_true] at inactive
        simp [Row, same, ← armed, inactive]
  | scanStart =>
      simp only [startStatement]
      split
      · rename_i success
        simp [Row, success, burstOpen]
      · rename_i rejected
        rcases row with ⟨inactive, closed, disarmed⟩
        simp [Row, burstOpen_rejected, rejected, inactive, closed, disarmed]
  | setActive => simpa [startStatement, Row] using row
  | setBurstStart => simpa [startStatement, Row, burstOpen] using row
  | schedule =>
      rcases row with ⟨active, opened⟩
      simp only [startStatement]
      split
      · rename_i armed
        simp [Row, active, opened, armed]
      · simp [Row, active, opened, State.Armed]

theorem rowHolds_stopStatement {origin : Origin} {point : StopPoint} {code : Code}
    (running : state.handler = some (.burstStop origin point)) (row : state.RowHolds) :
    (stopStatement code origin state point).RowHolds := by
  unfold State.RowHolds at row ⊢
  rw [running] at row
  cases point with
  | checkActive =>
      rcases row with ⟨same, armed⟩
      simp only [stopStatement]
      split
      · rename_i inactive
        simp only [Bool.not_eq_true'] at inactive
        have disarmed : ¬state.Armed := fun still => by simp [inactive] at armed; exact armed still
        simp [Row, same, inactive, disarmed]
      · rename_i active
        simp only [Bool.not_eq_true', Bool.not_eq_false] at active
        simp [Row, same, active]
  | clearActive => simpa [stopStatement, Row, burstOpen] using row.2
  | cancelTimeout => simpa [stopStatement, Row, State.Armed] using row
  | scanStop => simpa [stopStatement, Row, burstOpen] using ⟨row.1, row.2.2⟩
  | stopping code => simpa [stopStatement, Row, State.Armed] using row
  | capture => simpa [stopStatement, Row, burstOpen] using row
  | callback captured =>
      rcases row with ⟨inactive, closed, disarmed⟩
      simp only [stopStatement]
      split
      · simp [Row, burstOpen, inactive, closed, disarmed]
      · simp [Row, burstOpen, inactive, closed, disarmed]

theorem rowHolds_take {work : Work} {queue : List Work} (idle : state.handler = none)
    (queued : state.queue = work :: queue) (row : state.RowHolds) :
    State.RowHolds
      { state with queue, handler := some (work.handler (state.origin work)) } := by
  unfold State.RowHolds at row ⊢
  rw [idle] at row
  rcases row with ⟨same, armed⟩
  have still : state.deadline.isSome ∨ .timeout ∈ queue → state.Armed := by
    intro pending
    rcases pending with scheduled | waiting
    · exact .inl scheduled
    · rw [State.Armed, queued]
      exact .inr (List.mem_cons_of_mem _ waiting)
  cases work with
  | start =>
      rw [State.armed_of_queued queued (by decide)] at armed
      exact ⟨same, armed⟩
  | stop => exact ⟨same, fun waiting => armed.mpr (still waiting)⟩
  | timeout => exact ⟨same, fun waiting => armed.mpr (still waiting)⟩

theorem rowHolds_submit {work : Work} (origin : Origin) (other : work ≠ .timeout)
    (row : state.RowHolds) : (state.submit work origin).RowHolds := by
  unfold State.RowHolds at row ⊢
  rw [propext (State.armed_submit origin other)]
  exact row

theorem rowHolds_expire {deadline : Nat} (scheduled : state.deadline = some deadline)
    (row : state.RowHolds) :
    State.RowHolds
      { state with deadline := none, queue := Workqueue.submit .timeout state.queue } := by
  unfold State.RowHolds at row ⊢
  have armed : state.Armed := State.armed_of_scheduled scheduled
  have queued : State.Armed
      { state with deadline := none, queue := Workqueue.submit .timeout state.queue } := by
    simp [State.Armed]
  rw [propext (iff_of_true queued armed)]
  exact row

theorem rowHolds_step (row : state.RowHolds) (taken : Step state action later) :
    later.RowHolds := by
  cases taken with
  | take idle queued => exact rowHolds_take idle queued row
  | start code running => exact rowHolds_startStatement running row
  | burstStop code running => exact rowHolds_stopStatement running row
  | observerEnable enable free => exact row
  | observerTrigger free => exact row
  | @matter point calling =>
      cases point with
      | setEnabled enable => exact row
      | submitStop => exact rowHolds_submit .disable (by decide) row
      | checkEnabled => exact row
      | submitStart => exact rowHolds_submit .trigger (by decide) row
  | advert tempCentiC gravityX1000 free => exact row
  | @rx burst pending => exact rowHolds_submit (.advert burst) (by decide) row
  | expire scheduled due => exact rowHolds_expire scheduled row
  | elapse ms => exact row

theorem alternates_step (row : state.RowHolds) (alternates : Throughout Alternates state.log)
    (taken : Step state action later) : Throughout Alternates later.log := by
  unfold State.RowHolds at row
  cases taken with
  | take idle queued => exact alternates
  | @start point code running =>
      rw [running] at row
      rw [startStatement_log]
      cases point with
      | checkEnabled => exact alternates
      | checkActive => exact alternates
      | scanStart =>
          rw [throughout_cons]
          exact ⟨⟨fun _ => row.2.1, by simp⟩, alternates⟩
      | setActive => exact alternates
      | setBurstStart => simp [Alternates, alternates]
      | schedule => exact alternates
  | @burstStop origin point code running =>
      rw [running] at row
      rw [stopStatement_log]
      cases point with
      | checkActive => exact alternates
      | clearActive => simp [Alternates, alternates]
      | cancelTimeout => exact alternates
      | scanStop =>
          rw [throughout_cons]
          exact ⟨⟨by simp, fun _ => row.2.1⟩, alternates⟩
      | stopping code => exact alternates
      | capture => simp [Alternates, alternates]
      | callback captured =>
          dsimp only
          split
          · simp [Alternates, alternates]
          · simp [Alternates, alternates]
  | observerEnable enable free => simp [Alternates, alternates]
  | observerTrigger free => exact alternates
  | @matter point calling =>
      cases point with
      | setEnabled enable => exact alternates
      | submitStop => exact alternates
      | checkEnabled => exact alternates
      | submitStart => exact alternates
  | advert tempCentiC gravityX1000 free => simp [Alternates, alternates]
  | rx pending => exact alternates
  | expire scheduled due => exact alternates
  | elapse ms => exact alternates

theorem State.StopsWhenDisabled.of_queue (stops : state.StopsWhenDisabled)
    (enabled : later.enabled = state.enabled) (handler : later.handler = state.handler)
    (active : later.scanActive = state.scanActive)
    (calling : later.matter ≠ some .submitStop → state.matter ≠ some .submitStop)
    (kept : .stop ∈ state.queue → .stop ∈ later.queue) : later.StopsWhenDisabled := by
  intro disabled called risky
  unfold State.Starting at risky
  rw [handler, active] at risky
  exact kept (stops (enabled ▸ disabled) (calling called) risky)

theorem stopsWhenDisabled_take {work : Work} {queue : List Work}
    (idle : state.handler = none) (queued : state.queue = work :: queue)
    (stops : state.StopsWhenDisabled) :
    State.StopsWhenDisabled
      { state with queue, handler := some (work.handler (state.origin work)) } := by
  intro disabled called risky
  cases work with
  | start =>
      have active : state.scanActive = true := by
        rcases risky with ⟨point, running, late⟩ | ⟨_, active⟩
        · simp only [Work.handler, Option.some.injEq, Handler.start.injEq] at running
          exact absurd running.symm late
        · exact active
      have waiting := stops disabled called (.inr ⟨.inl idle, active⟩)
      rw [queued] at waiting
      simpa using waiting
  | stop => simp [State.Starting, Work.handler] at risky
  | timeout => simp [State.Starting, Work.handler] at risky

theorem stopsWhenDisabled_startStatement {point : StartPoint} {code : Code}
    (running : state.handler = some (.start point)) (stops : state.StopsWhenDisabled) :
    (startStatement code state point).StopsWhenDisabled := by
  intro disabled called risky
  rcases startStatement_keeps code state point with ⟨enabled, matter, queue⟩
  rw [enabled] at disabled
  rw [matter] at called
  rw [queue]
  apply stops disabled called
  by_cases first : point = .checkEnabled
  · -- The handler of a disabled observer returns at once.
    subst first
    simp [startStatement, disabled, State.Starting] at risky
    exact .inr ⟨.inr running, risky⟩
  · exact .inl ⟨point, running, first⟩

theorem stopsWhenDisabled_stopStatement {origin : Origin} {point : StopPoint} {code : Code}
    (running : state.handler = some (.burstStop origin point)) (row : state.RowHolds) :
    (stopStatement code origin state point).StopsWhenDisabled := by
  intro disabled called risky
  unfold State.RowHolds at row
  rw [running] at row
  cases point with
  | checkActive =>
      cases active : state.scanActive with
      | false => simp [stopStatement, active, State.Starting] at risky
      | true => simp [stopStatement, active, State.Starting] at risky
  | callback captured =>
      have inactive : state.scanActive = false := row.1
      simp only [stopStatement] at risky
      split at risky
      · simp [inactive, State.Starting] at risky
      · simp [inactive, State.Starting] at risky
  | clearActive => simp [stopStatement, State.Starting] at risky
  | cancelTimeout => simp [stopStatement, State.Starting] at risky
  | scanStop => simp [stopStatement, State.Starting] at risky
  | stopping code => simp [stopStatement, State.Starting] at risky
  | capture => simp [stopStatement, State.Starting] at risky

theorem stopsWhenDisabled_matterStatement {point : MatterPoint}
    (calling : state.matter = some point) (stops : state.StopsWhenDisabled) :
    (matterStatement state point).StopsWhenDisabled := by
  cases point with
  | setEnabled enable =>
      intro disabled called
      cases enable with
      | false => exact absurd rfl called
      | true => cases disabled
  | submitStop =>
      intro disabled called risky
      simp [matterStatement]
  | checkEnabled =>
      refine stops.of_queue rfl rfl rfl ?_ ?_
      · simp [calling]
      · exact id
  | submitStart =>
      refine stops.of_queue rfl rfl rfl ?_ ?_
      · simp [calling]
      · intro waiting
        simp [matterStatement, waiting]

theorem stopsWhenDisabled_step (row : state.RowHolds) (stops : state.StopsWhenDisabled)
    (taken : Step state action later) : later.StopsWhenDisabled := by
  cases taken with
  | take idle queued => exact stopsWhenDisabled_take idle queued stops
  | start code running => exact stopsWhenDisabled_startStatement running stops
  | burstStop code running => exact stopsWhenDisabled_stopStatement running row
  | observerEnable enable free =>
      refine stops.of_queue rfl rfl rfl ?_ ?_
      · simp [free]
      · exact id
  | observerTrigger free =>
      refine stops.of_queue rfl rfl rfl ?_ ?_
      · simp [free]
      · exact id
  | matter calling => exact stopsWhenDisabled_matterStatement calling stops
  | advert tempCentiC gravityX1000 free => exact stops.of_queue rfl rfl rfl id id
  | rx pending =>
      refine stops.of_queue rfl rfl rfl id ?_
      intro waiting
      simp
  | expire scheduled due =>
      refine stops.of_queue rfl rfl rfl id ?_
      intro waiting
      simp [waiting]
  | elapse ms => exact stops.of_queue rfl rfl rfl id id

structure State.Lifecycle (state : State) : Prop where
  row : state.RowHolds
  alternates : Throughout Alternates state.log
  stops : state.StopsWhenDisabled

theorem lifecycle_of_reaches {sampleCb : Bool} {allowed : State → Action → Prop}
    (reached : Reaches step allowed (initial sampleCb) state) : state.Lifecycle := by
  apply reached.invariant
  · constructor
    · simp [State.RowHolds, Row, initial, burstOpen, State.Armed]
    · exact throughout_nil
    · intro disabled called risky
      simp [initial, State.Starting] at risky
  · intro state action later lifecycle _ taken
    have taken := Step.of_step taken
    constructor
    · exact rowHolds_step lifecycle.row taken
    · exact alternates_step lifecycle.row lifecycle.alternates taken
    · exact stopsWhenDisabled_step lifecycle.row lifecycle.stops taken

/-- Bursts do not overlap, an active burst always has its timeout pending, and a disabled
observer stops scanning as soon as the queue drains. -/
theorem scan_lifecycle {sampleCb : Bool}
    (reached : Reaches step Unrestricted (initial sampleCb) state) :
    Throughout Alternates state.log ∧
      (state.scanActive = true → state.handler = none → state.Armed) ∧
      (state.enabled = false → state.enabling = false → state.handler = none →
        state.scanActive = true → .stop ∈ state.queue) := by
  have lifecycle := lifecycle_of_reaches reached
  constructor
  · exact lifecycle.alternates
  constructor
  · intro active idle
    have row := lifecycle.row
    unfold State.RowHolds at row
    rw [idle] at row
    exact row.2.mp active
  · intro disabled returned idle active
    have called : state.matter ≠ some .submitStop := by
      intro calling
      simp [State.enabling, calling] at returned
    exact lifecycle.stops disabled called (.inr ⟨.inl idle, active⟩)

def statements (count : Nat) (code : Code) : List Action :=
  List.replicate count (.handler code)

def startBurst : List Action :=
  List.append [.observerEnable true, .matter, .observerTrigger, .matter, .matter, .take]
    (statements 6 .success)

def advertBurst : List Action :=
  List.flatten [startBurst, [.advert 2000 1010, .rx, .take], statements 7 .success]

def disabledBurst : List Action :=
  startBurst ++ [.observerEnable false, .matter, .matter]

theorem scan_lifecycle_disabled : ∃ state,
    replay step Unrestricted (initial true) disabledBurst = some state ∧
      state.scanActive = true ∧ Throughout Alternates state.log ∧ state.Armed ∧
      .stop ∈ state.queue := by
  have run : ∃ state,
      replay step Unrestricted (initial true) disabledBurst = some state ∧
        state.scanActive = true ∧ state.handler = none ∧ state.enabled = false ∧
        state.enabling = false :=
    exists_replay (by decide +kernel)
  rcases run with ⟨state, replayed, active, idle, disabled, returned⟩
  rcases scan_lifecycle (Reaches.start.of_replay replayed) with ⟨alternates, armed, stops⟩
  exact ⟨state, replayed, active, alternates, armed active idle,
    stops disabled returned idle active⟩

end BuranBrew.Observer

import BuranBrew.Observer.Lifecycle

/-! # Stale stops

A stop item carries no burst. It ends whatever burst is active when it is taken, so it
has to be taken, or coalesced, before the next burst starts.
-/

namespace BuranBrew.Observer

open History Transitions

variable {state later : State} {action : Action}

namespace State

/-- A burst is running from its start until `burst_stop` clears `s_scan_active`. -/
def Running (state : State) : Prop :=
  state.scanActive = true ∨ state.handler = some (.start .setActive)

instance : Decidable state.Running :=
  inferInstanceAs (Decidable (_ ∨ _))

def tearing (state : State) : Option Origin :=
  match state.handler with
  | some (.burstStop origin _) => some origin
  | _ => none

def Ending (state : State) : Prop :=
  state.tearing.isSome ∨ .stop ∈ state.queue ∨ .timeout ∈ state.queue

instance : Decidable state.Ending :=
  inferInstanceAs (Decidable (_ ∨ _ ∨ _))

def nextStop (state : State) : Option Work :=
  state.queue.find? (· ≠ .start)

end State

def StaysEnabled (action : Action) : Prop :=
  action ≠ .observerEnable false

instance : Decidable (StaysEnabled action) :=
  inferInstanceAs (Decidable (_ ≠ _))

/-- No stop is queued when a burst starts, and a stop for an advert of an earlier burst is
not submitted during a later one, unless that is being ended anyway. -/
def Punctual (state : State) : Action → Prop
  | .handler code => code = .success → state.handler = some (.start .scanStart) →
      .stop ∉ state.queue
  | .rx => state.Running → state.rx = some state.bursts ∨ state.Ending
  | _ => True

instance : Decidable (Punctual state action) :=
  match action with
  | .handler _ => inferInstanceAs (Decidable (_ → _ → _))
  | .rx => inferInstanceAs (Decidable (_ → _))
  | .take | .observerEnable _ | .observerTrigger | .matter | .advert _ _ | .expire
  | .elapse _ => isTrue trivial

/-- The burst's own timeout, or an advert decoded during the burst. -/
def Own (burst : Nat) (origin : Origin) : Prop :=
  origin = .timeout burst ∨ origin = .advert burst

structure State.Owned (state : State) : Prop where
  timeout : state.Armed → state.origin .timeout = .timeout state.bursts
  tearing : state.Running → ∀ origin ∈ state.tearing, Own state.bursts origin
  next : state.Running → state.tearing = none →
    ∀ work ∈ state.nextStop, Own state.bursts (state.origin work)
  calling : state.matter ≠ some (.setEnabled false) ∧ state.matter ≠ some .submitStop
  ended : ∀ burst origin, .ended burst origin ∈ state.log → Own burst origin

theorem nextStop_eq_none : state.nextStop = none ↔
    .stop ∉ state.queue ∧ .timeout ∉ state.queue := by
  simp only [State.nextStop, List.find?_eq_none]
  constructor
  · intro none
    exact ⟨fun queued => by simpa using none _ queued,
      fun queued => by simpa using none _ queued⟩
  · rintro ⟨stop, timeout⟩ work queued
    cases work with
    | start => simp
    | stop => exact absurd queued stop
    | timeout => exact absurd queued timeout

theorem nextStop_submit {work next : Work}
    (queue : later.queue = Workqueue.submit work state.queue)
    (first : next ∈ later.nextStop) :
    next ∈ state.nextStop ∨ next = work ∧ state.nextStop = none ∧ work ≠ .start := by
  unfold State.nextStop at first ⊢
  rw [queue, Workqueue.find?_submit] at first
  cases waiting : state.queue.find? (· ≠ .start) with
  | some other =>
      rw [waiting] at first
      exact .inl first
  | none =>
      rw [waiting] at first
      right
      split at first
      · simp at first
      · have found : [work].find? (· ≠ .start) = some next := first
        have same : next = work := List.mem_singleton.mp (List.mem_of_find?_eq_some found)
        subst same
        exact ⟨rfl, rfl, by simpa using List.find?_some found⟩

theorem State.Owned.of_same (owned : state.Owned)
    (running : later.Running → state.Running) (tearing : later.tearing = state.tearing)
    (armed : later.Armed → state.Armed) (queue : later.queue = state.queue)
    (origin : later.origin = state.origin) (bursts : later.bursts = state.bursts)
    (matter : later.matter = state.matter)
    (ended : ∀ burst origin, .ended burst origin ∈ later.log →
      .ended burst origin ∈ state.log) : later.Owned := by
  constructor
  · rw [origin, bursts]
    exact fun now => owned.timeout (armed now)
  · rw [tearing, bursts]
    exact fun now => owned.tearing (running now)
  · unfold State.nextStop
    rw [tearing, queue, origin, bursts]
    exact fun now => owned.next (running now)
  · rw [matter]
    exact owned.calling
  · exact fun burst origin among => owned.ended burst origin (ended burst origin among)

theorem State.Owned.of_ended (owned : state.Owned) (stopped : ¬later.Running)
    (armed : later.Armed → state.Armed) (origin : later.origin = state.origin)
    (bursts : later.bursts = state.bursts) (matter : later.matter = state.matter)
    (ended : ∀ burst origin, .ended burst origin ∈ later.log → Own burst origin) :
    later.Owned := by
  constructor
  · rw [origin, bursts]
    exact fun now => owned.timeout (armed now)
  · exact fun running => absurd running stopped
  · exact fun running => absurd running stopped
  · rw [matter]
    exact owned.calling
  · exact ended

theorem owned_take {work : Work} {queue : List Work} (idle : state.handler = none)
    (queued : state.queue = work :: queue) (owned : state.Owned) :
    State.Owned { state with queue, handler := some (work.handler (state.origin work)) } := by
  have running : State.Running
      { state with queue, handler := some (work.handler (state.origin work)) } →
      state.Running := by
    intro running
    rcases running with active | setting
    · exact .inl active
    · cases work <;> simp [Work.handler] at setting
  have apart : state.tearing = none := by
    simp [State.tearing, idle]
  constructor
  · intro armed
    apply owned.timeout
    rcases armed with scheduled | waiting
    · exact .inl scheduled
    · rw [State.Armed, queued]
      exact .inr (List.mem_cons_of_mem _ waiting)
  · intro now origin serving
    have head : work ∈ state.nextStop ∧ origin = state.origin work := by
      cases work <;> simp_all [State.tearing, Work.handler, State.nextStop]
    rw [head.2]
    exact owned.next (running now) apart work head.1
  · intro now serving
    have start : work = .start := by
      cases work with
      | start => rfl
      | stop => cases serving
      | timeout => cases serving
    have same : state.nextStop = queue.find? (· ≠ .start) := by
      simp [State.nextStop, queued, start]
    have waiting := owned.next (running now) apart
    rw [same] at waiting
    exact waiting
  · exact owned.calling
  · exact owned.ended

theorem owned_scanStart (running : state.handler = some (.start .scanStart))
    (row : state.RowHolds) (unqueued : .stop ∉ state.queue) (owned : state.Owned) :
    (startStatement .success state .scanStart).Owned := by
  unfold State.RowHolds at row
  rw [running] at row
  have disarmed : ¬state.Armed := row.2.2
  have none : state.nextStop = none :=
    nextStop_eq_none.mpr ⟨unqueued, fun queued => disarmed (.inr queued)⟩
  constructor
  · exact fun armed => absurd armed disarmed
  · exact fun _ => nofun
  · intro _ _ work next
    have next : work ∈ state.nextStop := next
    simp [none] at next
  · exact owned.calling
  · intro burst origin among
    apply owned.ended
    simpa [startStatement] using among

theorem owned_schedule {code : Code} (running : state.handler = some (.start .schedule))
    (owned : state.Owned) : (startStatement code state .schedule).Owned := by
  simp only [startStatement]
  have apart : state.tearing = none := by
    simp [State.tearing, running]
  have still : state.finish.Running → state.Running := by
    intro running
    rcases running with active | setting
    · exact .inl active
    · cases setting
  split
  · exact owned.of_same still apart.symm id rfl rfl rfl rfl fun _ _ => id
  · rename_i disarmed
    constructor
    · intro _
      simp
    · intro _ origin tearing
      cases tearing
    · intro now _ work next
      have next : work ∈ state.nextStop := next
      have other : work ≠ .timeout := by
        intro same
        subst same
        exact disarmed (.inr (List.mem_of_find?_eq_some next))
      simpa [other] using owned.next (still now) apart work next
    · exact owned.calling
    · exact owned.ended

theorem owned_startStatement {point : StartPoint} {code : Code}
    (running : state.handler = some (.start point)) (row : state.RowHolds)
    (owned : state.Owned) (permitted : Punctual state (.handler code)) :
    (startStatement code state point).Owned := by
  have apart : none = state.tearing := by
    simp [State.tearing, running]
  have active {handler : Option Handler} (other : handler ≠ some (.start .setActive)) :
      State.Running { state with handler } → state.Running := by
    intro running
    rcases running with active | setting
    · exact .inl active
    · exact absurd setting other
  cases point with
  | checkEnabled =>
      simp only [startStatement]
      split
      · exact owned.of_same (active (by simp)) apart id rfl rfl rfl rfl fun _ _ => id
      · exact owned.of_same (active (by simp)) apart id rfl rfl rfl rfl fun _ _ => id
  | checkActive =>
      simp only [startStatement]
      split
      · exact owned.of_same (active (by simp)) apart id rfl rfl rfl rfl fun _ _ => id
      · exact owned.of_same (active (by simp)) apart id rfl rfl rfl rfl fun _ _ => id
  | scanStart =>
      by_cases success : code = .success
      · subst success
        exact owned_scanStart running row (permitted rfl running) owned
      · simp only [startStatement, success, ↓reduceIte]
        refine owned.of_same (active (by simp)) apart id rfl rfl rfl rfl ?_
        simp
  | setActive =>
      exact owned.of_same (fun _ => .inr running) apart id rfl rfl rfl rfl fun _ _ => id
  | setBurstStart =>
      refine owned.of_same (active ?_) apart id rfl rfl rfl rfl ?_
      · simp [startStatement]
      · simp [startStatement]
  | schedule => exact owned_schedule running owned

theorem owned_stopStatement {origin : Origin} {point : StopPoint} {code : Code}
    (running : state.handler = some (.burstStop origin point)) (row : state.RowHolds)
    (owned : state.Owned) : (stopStatement code origin state point).Owned := by
  have serving : state.tearing = some origin := by
    simp [State.tearing, running]
  unfold State.RowHolds at row
  rw [running] at row
  cases point with
  | checkActive =>
      simp only [stopStatement]
      split
      · rename_i inactive
        refine owned.of_ended ?_ id rfl rfl rfl owned.ended
        simpa [State.Running] using inactive
      · refine owned.of_same ?_ serving.symm id rfl rfl rfl rfl fun _ _ => id
        intro running
        rcases running with active | setting
        · exact .inl active
        · cases setting
  | clearActive =>
      have own : Own state.bursts origin := owned.tearing (.inl row.1) origin serving
      refine owned.of_ended ?_ id rfl rfl rfl ?_
      · simp [State.Running, stopStatement]
      · intro burst other among
        simp only [stopStatement, State.goto_log, State.logged_log, List.mem_cons,
          Event.ended.injEq] at among
        rcases among with ⟨rfl, rfl⟩ | among
        · exact own
        · exact owned.ended burst other among
  | cancelTimeout =>
      refine owned.of_ended ?_ ?_ rfl rfl rfl owned.ended
      · simpa [State.Running, stopStatement] using row.1
      · simp [State.Armed, stopStatement]
  | scanStop =>
      refine owned.of_ended ?_ id rfl rfl rfl ?_
      · simpa [State.Running, stopStatement] using row.1
      · simpa [stopStatement] using owned.ended
  | stopping code =>
      refine owned.of_ended ?_ id rfl rfl rfl owned.ended
      simpa [State.Running, stopStatement] using row.1
  | capture =>
      refine owned.of_ended ?_ id rfl rfl rfl ?_
      · simpa [State.Running, stopStatement] using row.1
      · simpa [stopStatement] using owned.ended
  | callback captured =>
      have inactive : state.scanActive = false := row.1
      simp only [stopStatement]
      split
      · refine owned.of_ended ?_ id rfl rfl rfl ?_
        · simp [State.Running, inactive]
        · simpa using owned.ended
      · refine owned.of_ended ?_ id rfl rfl rfl ?_
        · simp [State.Running, inactive]
        · simpa using owned.ended

theorem State.Owned.of_submit {work : Work} (owned : state.Owned)
    (handler : later.handler = state.handler) (active : later.scanActive = state.scanActive)
    (queue : later.queue = Workqueue.submit work state.queue)
    (origin : ∀ other ∈ state.queue, later.origin other = state.origin other)
    (bursts : later.bursts = state.bursts) (log : later.log = state.log)
    (timeout : later.Armed → later.origin .timeout = .timeout state.bursts)
    (calling : later.matter ≠ some (.setEnabled false) ∧ later.matter ≠ some .submitStop)
    (own : state.Running → state.tearing = none → state.nextStop = none → work ≠ .start →
      Own state.bursts (later.origin work)) : later.Owned := by
  have running : later.Running ↔ state.Running := by
    simp [State.Running, handler, active]
  have tearing : later.tearing = state.tearing := by
    simp [State.tearing, handler]
  constructor
  · rw [bursts]
    exact timeout
  · rw [running, tearing, bursts]
    exact owned.tearing
  · rw [running, tearing, bursts]
    intro now apart next first
    rcases nextStop_submit queue first with waiting | ⟨rfl, none, stop⟩
    · rw [origin next (List.mem_of_find?_eq_some waiting)]
      exact owned.next now apart next waiting
    · exact own now apart none stop
  · exact calling
  · rw [log]
    exact owned.ended

theorem owned_rx {burst : Nat} (pending : state.rx = some burst) (owned : state.Owned)
    (permitted : Punctual state .rx) :
    State.Owned { state.submit .stop (.advert burst) with rx := none } := by
  refine owned.of_submit rfl rfl rfl ?_ rfl rfl ?_ owned.calling ?_
  · exact fun other queued => State.submit_origin_of_queued queued
  · intro armed
    have before : state.Armed := (State.armed_submit (.advert burst) (by decide)).mp armed
    exact (State.submit_origin_of_ne (by decide)).trans (owned.timeout before)
  · intro running apart none _
    rcases nextStop_eq_none.mp none with ⟨stop, timeout⟩
    have same : burst = state.bursts := by
      simpa [pending, State.Ending, apart, stop, timeout] using permitted running
    right
    rw [← same]
    exact State.submit_origin_self stop

theorem owned_submitStart (owned : state.Owned) :
    (matterStatement state .submitStart).Owned := by
  refine owned.of_submit rfl rfl rfl ?_ rfl rfl ?_ (by simp [matterStatement]) ?_
  · exact fun other queued => State.submit_origin_of_queued queued
  · intro armed
    have before : state.Armed := (State.armed_submit .trigger (by decide)).mp armed
    exact (State.submit_origin_of_ne (by decide)).trans (owned.timeout before)
  · exact fun _ _ _ other => absurd rfl other

theorem owned_expire {deadline : Nat} (scheduled : state.deadline = some deadline)
    (owned : state.Owned) :
    State.Owned
      { state with deadline := none, queue := Workqueue.submit .timeout state.queue } := by
  have timeout := owned.timeout (State.armed_of_scheduled scheduled)
  refine owned.of_submit rfl rfl rfl (fun _ _ => rfl) rfl rfl ?_ owned.calling ?_
  · exact fun _ => timeout
  · exact fun _ _ _ _ => .inl timeout

theorem owned_with_matter {enabled : Bool} {matter : Option MatterPoint} (owned : state.Owned)
    (calling : matter ≠ some (.setEnabled false) ∧ matter ≠ some .submitStop) :
    State.Owned { state with enabled, matter } :=
  ⟨owned.timeout, owned.tearing, owned.next, calling, owned.ended⟩

theorem owned_matterStatement {point : MatterPoint} (calling : state.matter = some point)
    (owned : state.Owned) : (matterStatement state point).Owned := by
  cases point with
  | setEnabled enable =>
      cases enable with
      | false => exact absurd calling owned.calling.1
      | true =>
          apply owned_with_matter owned
          simp
  | submitStop => exact absurd calling owned.calling.2
  | checkEnabled =>
      apply owned_with_matter owned
      split
      · simp
      · simp
  | submitStart => exact owned_submitStart owned

theorem owned_step (row : state.RowHolds) (owned : state.Owned)
    (permitted : StaysEnabled action ∧ Punctual state action)
    (taken : Step state action later) : later.Owned := by
  cases taken with
  | take idle queued => exact owned_take idle queued owned
  | start code running => exact owned_startStatement running row owned permitted.2
  | burstStop code running => exact owned_stopStatement running row owned
  | observerEnable enable free =>
      have stays : enable = true := by
        simpa [StaysEnabled] using permitted.1
      constructor
      · exact owned.timeout
      · exact owned.tearing
      · exact owned.next
      · simp [stays]
      · simpa using owned.ended
  | observerTrigger free => exact owned_with_matter owned (by simp)
  | matter calling => exact owned_matterStatement calling owned
  | advert tempCentiC gravityX1000 free =>
      constructor
      · exact owned.timeout
      · exact owned.tearing
      · exact owned.next
      · exact owned.calling
      · simpa using owned.ended
  | rx pending => exact owned_rx pending owned permitted.2
  | expire scheduled due => exact owned_expire scheduled owned
  | elapse ms =>
      exact ⟨owned.timeout, owned.tearing, owned.next, owned.calling, owned.ended⟩

/-- While the observer stays enabled and every stop is punctual, each burst is ended by its
own timeout or by one of its own adverts. -/
theorem no_stale_stops {sampleCb : Bool} {burst : Nat} {origin : Origin}
    (reached : Reaches step (fun state action => StaysEnabled action ∧ Punctual state action)
      (initial sampleCb) state)
    (ended : .ended burst origin ∈ state.log) :
    origin = .timeout burst ∨ origin = .advert burst := by
  have owned : state.Owned := by
    clear ended
    induction reached with
    | start =>
        constructor
        · simp [initial, State.Armed]
        · simp [initial, State.Running]
        · simp [initial, State.Running]
        · simp [initial]
        · simp [initial]
    | next before permitted taken induction =>
        exact owned_step (lifecycle_of_reaches before).row induction permitted
          (.of_step taken)
  exact owned.ended burst origin ended

theorem no_stale_stops_advert : ∃ state origin,
    replay step (fun state action => StaysEnabled action ∧ Punctual state action)
        (initial true) advertBurst = some state ∧
      .ended 1 origin ∈ state.log ∧ (origin = .timeout 1 ∨ origin = .advert 1) := by
  have run : ∃ state,
      replay step (fun state action => StaysEnabled action ∧ Punctual state action)
          (initial true) advertBurst = some state ∧
        .ended 1 (.advert 1) ∈ state.log :=
    exists_replay (by decide +kernel)
  rcases run with ⟨state, replayed, ended⟩
  exact ⟨state, .advert 1, replayed, ended,
    no_stale_stops (Reaches.start.of_replay replayed) ended⟩

/-- While `bt_le_scan_stop` is ending the first burst, a trigger queues a start and an advert
queues a stop behind it. -/
def staleStop : List Action :=
  List.flatten [startBurst, [.elapse 5000, .expire, .take], statements 4 .success,
    [.observerTrigger, .matter, .matter, .advert 2000 1010, .rx], statements 3 .success,
    [.take], statements 6 .success, [.take], statements 2 .success]

theorem advert_stops_later_burst : ∃ state,
    Reaches step (fun state action => StaysEnabled action ∧ Delivered state action)
        (initial true) state ∧
      .ended 2 (.advert 1) ∈ state.log := by
  have run : ∃ state,
      replay step (fun state action => StaysEnabled action ∧ Delivered state action)
          (initial true) staleStop = some state ∧
        .ended 2 (.advert 1) ∈ state.log :=
    exists_replay (by decide +kernel)
  rcases run with ⟨state, replayed, ended⟩
  exact ⟨state, Reaches.start.of_replay replayed, ended⟩

end BuranBrew.Observer

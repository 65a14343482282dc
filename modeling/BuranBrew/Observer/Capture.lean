import BuranBrew.Observer.Lifecycle

/-! # Captured samples

`burst_stop` takes a sample for the burst's own if its timestamp is not before
`s_burst_start_ms`, which is set a few statements after the scan has started.
-/

namespace BuranBrew.Observer

open History Transitions

variable {state later : State} {action : Action} {log earlier : List Event}

/-! ## Bursts in a history -/

/-- The events since the last stop call, and those before it. -/
def sinceStop : List Event → List Event
  | [] => []
  | .scanStop _ :: _ => []
  | event :: log => event :: sinceStop log

def beforeStop : List Event → List Event
  | [] => []
  | .scanStop _ :: log => log
  | _ :: log => beforeStop log

def beforeCheck : List Event → List Event
  | [] => []
  | .checked :: log => log
  | _ :: log => beforeCheck log

/-- An advert has been decoded since the last successful start. -/
def heardSinceStart : List Event → Bool
  | [] => false
  | .scanStart .success :: _ => false
  | .decoded _ :: _ => true
  | _ :: log => heardSinceStart log

def lastDecoded : List Event → Option Nat
  | [] => none
  | .decoded uptime :: _ => some uptime
  | _ :: log => lastDecoded log

def lastBurstStart : List Event → Nat
  | [] => 0
  | .burstStart uptime :: _ => uptime
  | _ :: log => lastBurstStart log

/-- An advert was decoded between the start and the stop call of the burst torn down last. -/
def heard (log : List Event) : Bool :=
  heardSinceStart (beforeStop log)

def DecodedInStop (log : List Event) : Prop :=
  ∃ uptime, .decoded uptime ∈ sinceStop (beforeCheck log)

def callbacks (log : List Event) : Nat :=
  (sinceStop log).count .sampleCb

/-- One callback for a burst that has heard an advert, none for one that has not. -/
def SampledOnce (log : List Event) : Prop :=
  callbacks log = if heard log then 1 else 0

instance : Decidable (SampledOnce log) :=
  inferInstanceAs (Decidable (_ = _))

/-- The last advert was not decoded before the millisecond of `s_burst_start_ms`. -/
def Fresh (log : List Event) : Prop :=
  ∃ uptime, lastDecoded log = some uptime ∧ lastBurstStart log ≤ uptime

/-- If the burst has heard an advert, the last one before the check is fresh. If it has heard
none, none was decoded during the stop, and the last one of the bursts before came before
the millisecond of `s_burst_start_ms`. -/
def Timely (log : List Event) : Prop :=
  if heard log then Fresh (beforeCheck log)
  else ¬DecodedInStop log ∧ ∀ uptime, lastDecoded (beforeCheck log) = some uptime →
    uptime < lastBurstStart (beforeCheck log)

/-- What a teardown has done when it is over. -/
def Checks (event : Event) (earlier : List Event) : Prop :=
  event = .tornDown →
    (callbacks earlier = 1 ∧ Fresh (beforeCheck earlier) ∨
      callbacks earlier = 0 ∧ ¬Fresh (beforeCheck earlier)) ∧
    (DecodedInStop earlier → Fresh (beforeCheck earlier))

theorem Checks.of_ne {event : Event} (other : event ≠ .tornDown) : Checks event earlier :=
  fun last => absurd last other

theorem Checks.sampledOnce_iff (checks : Checks .tornDown earlier) :
    SampledOnce earlier ↔ Timely earlier := by
  rcases checks rfl with ⟨called, during⟩
  unfold SampledOnce Timely
  cases heard earlier with
  | true =>
      simp only [if_true]
      rcases called with ⟨called, fresh⟩ | ⟨called, stale⟩
      · exact iff_of_true called fresh
      · exact iff_of_false (by omega) stale
  | false =>
      simp only [Bool.false_eq_true, if_false]
      rcases called with ⟨called, fresh⟩ | ⟨called, stale⟩
      · apply iff_of_false (by omega)
        rcases fresh with ⟨uptime, last, from_start⟩
        intro early
        rcases early with ⟨_, before⟩
        exact absurd (before uptime last) (by omega)
      · apply iff_of_true called
        constructor
        · exact fun decoded => stale (during decoded)
        · intro uptime last
          by_contra late
          exact stale ⟨uptime, last, by omega⟩

/-! ## Along a run -/

def Seen (state : State) : Option Handler → Prop
  | some (.burstStop _ (.stopping _)) | some (.burstStop _ .capture) =>
      callbacks state.log = 0 ∧
        ((∃ uptime, .decoded uptime ∈ sinceStop state.log) →
          state.tilt.valid = true ∧ state.burstStartMs ≤ state.tilt.timestampMs)
  | some (.burstStop _ (.callback captured)) =>
      callbacks state.log = 0 ∧ (captured = true ↔ Fresh (beforeCheck state.log)) ∧
        (DecodedInStop state.log → Fresh (beforeCheck state.log))
  | _ => True

structure State.Sampled (state : State) : Prop where
  sampleCb : state.sampleCb = true
  tilt : lastDecoded state.log =
    if state.tilt.valid then some state.tilt.timestampMs else none
  burstStart : lastBurstStart state.log = state.burstStartMs
  clock : state.burstStartMs ≤ state.uptime
  seen : Seen state state.handler
  checks : Throughout Checks state.log

theorem fresh_iff (tilt : lastDecoded state.log =
      if state.tilt.valid then some state.tilt.timestampMs else none)
    (burstStart : lastBurstStart state.log = state.burstStartMs) :
    Fresh state.log ↔
      state.tilt.valid = true ∧ state.burstStartMs ≤ state.tilt.timestampMs := by
  unfold Fresh
  rw [tilt, burstStart]
  cases valid : state.tilt.valid with
  | false => simp
  | true => simp

theorem State.Sampled.of_same (sampled : state.Sampled)
    (sampleCb : later.sampleCb = state.sampleCb) (tilt : later.tilt = state.tilt)
    (burstStart : later.burstStartMs = state.burstStartMs) (log : later.log = state.log)
    (uptime : state.uptime ≤ later.uptime) (seen : Seen later later.handler) :
    later.Sampled := by
  constructor
  · rw [sampleCb]
    exact sampled.sampleCb
  · rw [tilt, log]
    exact sampled.tilt
  · rw [burstStart, log]
    exact sampled.burstStart
  · rw [burstStart]
    exact sampled.clock.trans uptime
  · exact seen
  · rw [log]
    exact sampled.checks

theorem State.Sampled.of_event {event : Event} (sampled : state.Sampled)
    (sampleCb : later.sampleCb = state.sampleCb) (tilt : later.tilt = state.tilt)
    (burstStart : later.burstStartMs = state.burstStartMs)
    (log : later.log = event :: state.log) (uptime : state.uptime ≤ later.uptime)
    (decoded : lastDecoded (event :: state.log) = lastDecoded state.log)
    (started : lastBurstStart (event :: state.log) = lastBurstStart state.log)
    (ended : event ≠ .tornDown) (seen : Seen later later.handler) : later.Sampled := by
  constructor
  · rw [sampleCb]
    exact sampled.sampleCb
  · rw [tilt, log, decoded]
    exact sampled.tilt
  · rw [burstStart, log, started]
    exact sampled.burstStart
  · rw [burstStart]
    exact sampled.clock.trans uptime
  · exact seen
  · rw [log, throughout_cons]
    exact ⟨.of_ne ended, sampled.checks⟩

theorem seen_startStatement (code : Code) (state other : State) (point : StartPoint) :
    Seen other (startStatement code state point).handler := by
  cases point <;> simp only [startStatement] <;> (try split) <;> trivial

theorem sampled_startStatement {point : StartPoint} {code : Code} (sampled : state.Sampled) :
    (startStatement code state point).Sampled := by
  have seen := seen_startStatement code state (startStatement code state point) point
  revert seen
  cases point with
  | checkEnabled =>
      simp only [startStatement]
      split
      · exact sampled.of_same rfl rfl rfl rfl le_rfl
      · exact sampled.of_same rfl rfl rfl rfl le_rfl
  | checkActive =>
      simp only [startStatement]
      split
      · exact sampled.of_same rfl rfl rfl rfl le_rfl
      · exact sampled.of_same rfl rfl rfl rfl le_rfl
  | scanStart =>
      simp only [startStatement]
      split
      · exact sampled.of_event rfl rfl rfl rfl le_rfl rfl rfl (by simp)
      · exact sampled.of_event rfl rfl rfl rfl le_rfl rfl rfl (by simp)
  | setActive => exact sampled.of_same rfl rfl rfl rfl le_rfl
  | setBurstStart =>
      intro seen
      constructor
      · exact sampled.sampleCb
      · exact sampled.tilt
      · rfl
      · exact le_rfl
      · exact seen
      · simp [startStatement, Checks, sampled.checks]
  | schedule =>
      simp only [startStatement]
      split
      · exact sampled.of_same rfl rfl rfl rfl le_rfl
      · exact sampled.of_same rfl rfl rfl rfl le_rfl

theorem sampled_callback {origin : Origin} {captured : Bool} {code : Code}
    (running : state.handler = some (.burstStop origin (.callback captured)))
    (sampled : state.Sampled) :
    (stopStatement code origin state (.callback captured)).Sampled := by
  have seen := sampled.seen
  rw [running] at seen
  rcases seen with ⟨uncalled, fresh, during⟩
  have sampleCb : state.sampleCb = true := sampled.sampleCb
  cases captured with
  | true =>
      simp only [stopStatement, sampleCb, Bool.and_self, if_true]
      constructor
      · exact sampleCb
      · exact sampled.tilt
      · exact sampled.burstStart
      · exact sampled.clock
      · trivial
      · have called : callbacks (.sampleCb :: state.log) = 1 := by
          simpa [callbacks, sinceStop] using uncalled
        have checks : Checks .tornDown (.sampleCb :: state.log) :=
          fun _ => ⟨.inl ⟨called, fresh.mp rfl⟩, during⟩
        simp only [State.finish_log, State.logged_log, throughout_cons]
        exact ⟨checks, .of_ne (by simp), sampled.checks⟩
  | false =>
      have stale : ¬Fresh (beforeCheck state.log) := fun now => by simpa using fresh.mpr now
      simp only [stopStatement, Bool.false_and, Bool.false_eq_true, if_false]
      constructor
      · exact sampleCb
      · exact sampled.tilt
      · exact sampled.burstStart
      · exact sampled.clock
      · trivial
      · have checks : Checks .tornDown state.log := fun _ => ⟨.inr ⟨uncalled, stale⟩, during⟩
        simp only [State.finish_log, State.logged_log, throughout_cons]
        exact ⟨checks, sampled.checks⟩

theorem sampled_stopStatement {origin : Origin} {point : StopPoint} {code : Code}
    (running : state.handler = some (.burstStop origin point)) (sampled : state.Sampled) :
    (stopStatement code origin state point).Sampled := by
  have seen := sampled.seen
  rw [running] at seen
  cases point with
  | checkActive =>
      simp only [stopStatement]
      split
      · exact sampled.of_same rfl rfl rfl rfl le_rfl trivial
      · exact sampled.of_same rfl rfl rfl rfl le_rfl trivial
  | clearActive => exact sampled.of_event rfl rfl rfl rfl le_rfl rfl rfl (by simp) trivial
  | cancelTimeout => exact sampled.of_same rfl rfl rfl rfl le_rfl trivial
  | scanStop =>
      refine sampled.of_event rfl rfl rfl rfl le_rfl rfl rfl (by simp) ?_
      simp [stopStatement, Seen, callbacks, sinceStop]
  | stopping returned => exact sampled.of_same rfl rfl rfl rfl le_rfl seen
  | capture =>
      refine sampled.of_event rfl rfl rfl rfl le_rfl rfl rfl (by simp) ?_
      have fresh := fresh_iff sampled.tilt sampled.burstStart
      constructor
      · simpa [stopStatement, callbacks, sinceStop] using seen.1
      constructor
      · simp [stopStatement, beforeCheck, fresh]
      · intro during
        exact fresh.mpr (seen.2 during)
  | callback captured => exact sampled_callback running sampled

theorem seen_with_handler {handler : Option Handler} (same : later.log = state.log)
    (tilt : later.tilt = state.tilt) (burstStart : later.burstStartMs = state.burstStartMs)
    (seen : Seen state handler) : Seen later handler := by
  unfold Seen at seen ⊢
  rw [same, tilt, burstStart]
  exact seen

theorem State.Sampled.of_foreign (sampled : state.Sampled)
    (sampleCb : later.sampleCb = state.sampleCb) (tilt : later.tilt = state.tilt)
    (burstStart : later.burstStartMs = state.burstStartMs) (log : later.log = state.log)
    (uptime : state.uptime ≤ later.uptime) (handler : later.handler = state.handler) :
    later.Sampled := by
  apply sampled.of_same sampleCb tilt burstStart log uptime
  rw [handler]
  exact seen_with_handler log tilt burstStart sampled.seen

theorem sampled_observerEnable (enable : Bool) (sampled : state.Sampled) :
    State.Sampled ({ state with matter := some (.setEnabled enable), drained := false }.logged
      (.enable enable)) := by
  refine sampled.of_event rfl rfl rfl rfl le_rfl rfl rfl nofun ?_
  have seen := sampled.seen
  revert seen
  simp only [State.logged_handler]
  rcases state.handler with _ | ⟨point⟩ | ⟨origin, point⟩
  · exact id
  · exact id
  · cases point with
    | checkActive => exact id
    | clearActive => exact id
    | cancelTimeout => exact id
    | scanStop => exact id
    | stopping code => simp [Seen, callbacks, sinceStop]
    | capture => simp [Seen, callbacks, sinceStop]
    | callback captured => simp [Seen, callbacks, sinceStop, DecodedInStop, beforeCheck]

/-- An advert decoded during the stop is fresh, and one decoded after the check is too late. -/
theorem sampled_advert (tempCentiC : Int) (gravityX1000 : Nat) (sampled : state.Sampled) :
    State.Sampled ({ state with
      tilt := ⟨tempCentiC, gravityX1000, state.uptime, true⟩
      rx := some state.bursts }.logged (.decoded state.uptime)) := by
  constructor
  · exact sampled.sampleCb
  · rfl
  · exact sampled.burstStart
  · exact sampled.clock
  · have seen := sampled.seen
    have clock := sampled.clock
    revert seen
    simp only [State.logged_handler]
    rcases state.handler with _ | ⟨point⟩ | ⟨origin, point⟩
    · exact id
    · exact id
    · cases point with
      | checkActive => exact id
      | clearActive => exact id
      | cancelTimeout => exact id
      | scanStop => exact id
      | stopping code => simp +contextual [Seen, callbacks, sinceStop, clock]
      | capture => simp +contextual [Seen, callbacks, sinceStop, clock]
      | callback captured => simp [Seen, callbacks, sinceStop, DecodedInStop, beforeCheck]
  · simp [Checks, sampled.checks]

theorem sampled_step (sampled : state.Sampled) (taken : Step state action later) :
    later.Sampled := by
  cases taken with
  | @take work queue idle queued =>
      refine sampled.of_same rfl rfl rfl rfl le_rfl ?_
      cases work <;> trivial
  | start code running => exact sampled_startStatement sampled
  | burstStop code running => exact sampled_stopStatement running sampled
  | observerEnable enable free => exact sampled_observerEnable enable sampled
  | observerTrigger free => exact sampled.of_foreign rfl rfl rfl rfl le_rfl rfl
  | @matter point calling =>
      cases point <;> exact sampled.of_foreign rfl rfl rfl rfl le_rfl rfl
  | advert tempCentiC gravityX1000 free => exact sampled_advert tempCentiC gravityX1000 sampled
  | rx pending => exact sampled.of_foreign rfl rfl rfl rfl le_rfl rfl
  | expire scheduled due => exact sampled.of_foreign rfl rfl rfl rfl le_rfl rfl
  | elapse ms => exact sampled.of_foreign rfl rfl rfl rfl (Nat.le_add_right _ _) rfl

/-- The callback is invoked exactly once for a burst that has heard an advert, and not for
one that has not, if and only if the burst is timely. -/
theorem sampled_once_iff {allowed : State → Action → Prop}
    (reached : Reaches step allowed (initial true) state)
    (ended : .tornDown :: earlier <:+ state.log) :
    SampledOnce earlier ↔ Timely earlier := by
  have sampled : state.Sampled := by
    apply reached.invariant
    · constructor
      · rfl
      · rfl
      · rfl
      · exact le_rfl
      · trivial
      · exact throughout_nil
    · intro state action later sampled _ taken
      exact sampled_step sampled (.of_step taken)
  exact (sampled.checks .tornDown earlier ended).sampledOnce_iff

theorem sampled_once_heard : ∃ state earlier,
    replay step Delivered (initial true) advertBurst = some state ∧
      .tornDown :: earlier <:+ state.log ∧ Timely earlier := by
  have run : ∃ state,
      replay step Delivered (initial true) advertBurst = some state ∧
        .tornDown :: state.log.tail <:+ state.log ∧ SampledOnce state.log.tail :=
    exists_replay (by decide +kernel)
  rcases run with ⟨state, replayed, ended, once⟩
  exact ⟨state, state.log.tail, replayed, ended,
    (sampled_once_iff (Reaches.start.of_replay replayed) ended).mp once⟩

/-- An advert is decoded before `s_burst_start_ms` is set, in the millisecond before it. -/
def earlyAdvert : List Action :=
  List.flatten [[.observerEnable true, .matter, .observerTrigger, .matter, .matter, .take],
    statements 3 .success, [.advert 2000 1010, .elapse 1], statements 3 .success,
    [.rx, .take], statements 7 .success]

/-- An advert is decoded while `bt_le_scan_stop` is ending a burst that has heard none. -/
def lateAdvert : List Action :=
  List.flatten [startBurst, [.elapse 5000, .expire, .take], statements 4 .success,
    [.advert 2000 1010, .rx], statements 3 .success]

theorem burst_sampled_wrongly :
    (∃ state earlier, Reaches step Delivered (initial true) state ∧
      .tornDown :: earlier <:+ state.log ∧ heard earlier = true ∧ callbacks earlier = 0) ∧
    ∃ state earlier, Reaches step Delivered (initial true) state ∧
      .tornDown :: earlier <:+ state.log ∧ heard earlier = false ∧ callbacks earlier = 1 := by
  constructor
  · have run : ∃ state,
        replay step Delivered (initial true) earlyAdvert = some state ∧
          .tornDown :: state.log.tail <:+ state.log ∧ heard state.log.tail = true ∧
          callbacks state.log.tail = 0 :=
      exists_replay (by decide +kernel)
    rcases run with ⟨state, replayed, missed⟩
    exact ⟨state, state.log.tail, Reaches.start.of_replay replayed, missed⟩
  · have run : ∃ state,
        replay step Delivered (initial true) lateAdvert = some state ∧
          .tornDown :: state.log.tail <:+ state.log ∧ heard state.log.tail = false ∧
          callbacks state.log.tail = 1 :=
      exists_replay (by decide +kernel)
    rcases run with ⟨state, replayed, reported⟩
    exact ⟨state, state.log.tail, Reaches.start.of_replay replayed, reported⟩

end BuranBrew.Observer

import BuranBrew.Telemetry.Moves

/-! # Several archivers are exactly-once in effect

The row of an entry depends on the entry alone, so that it does not matter which process
inserts it, how often, or what the others do meanwhile.
-/

namespace BuranBrew.Telemetry

open Delivery

variable {consumer : String} {store later : SharedStore} {phase next : Phase}

/-- A move keeps the servers sound, lets them grow, and leaves its process with messages
that it may rely on. -/
theorem Moved.sound (moved : Moved consumer store phase later next) (sound : store.Sound)
    (valid : phase.Valid consumer store) :
    later.Sound ∧ store.Grows later ∧ next.Valid consumer later := by
  cases moved with
  | started => exact ⟨sound, .refl _, .idle (by simp)⟩
  | @created stream rest outcome =>
      refine ⟨?_, ?_, ?_⟩
      · exact CallOutcome.apply_induction sound
          (sound.updateStream (sound stream).createGroup)
      · exact CallOutcome.apply_induction (.refl _) (.updateStream .createGroup)
      · apply Phase.Valid.idle
        cases outcome with
        | done => exact Phase.queue_create rest
        | failed tookEffect => rfl
  | noGroup => exact ⟨sound, .refl _, .idle rfl⟩
  | @read cursor outcome count =>
      refine ⟨?_, ?_, ?_⟩
      · exact CallOutcome.apply_induction sound sound.deliver
      · exact CallOutcome.apply_induction (.refl _) .deliver
      · cases outcome with
        | done => exact .proceed fun m among => sound.heldBy_reply among
        | failed tookEffect => exact .idle rfl
  | @dropped cursor n m rest malformed =>
      refine ⟨sound, .refl _, valid.held, ?_⟩
      intro _ _ _ _ same
      cases same
      exact (valid.held m List.mem_cons_self).done_of_malformed sound malformed
  | @inserted cursor n m rest outcome wellFormed =>
      have held := valid.held m List.mem_cons_self
      have grows : store.Grows (store.insert (rowFor m.stream m.entry)) := .insert _
      refine ⟨?_, ?_, ?_⟩
      · exact CallOutcome.apply_induction sound (sound.insert (held.known wellFormed))
      · exact CallOutcome.apply_induction (.refl _) grows
      · cases outcome with
        | done =>
            constructor
            · exact fun other among => (valid.held other among).grow grows
            · intro _ _ _ _ same
              cases same
              exact held.done_of_insert sound wellFormed
        | failed tookEffect => exact .idle rfl
  | @acked cursor n m rest outcome =>
      have done := valid.done cursor n m rest rfl
      have grows : store.Grows (store.updateStream m.stream (.xAck m.entry.id.text)) :=
        .updateStream .xAck
      refine ⟨?_, ?_, ?_⟩
      · exact CallOutcome.apply_induction sound
          (sound.updateStream ((sound m.stream).xAck done))
      · exact CallOutcome.apply_induction (.refl _) grows
      · cases outcome with
        | done =>
            apply Phase.Valid.proceed
            exact fun other among =>
              (valid.held other (List.mem_cons_of_mem _ among)).grow grows
        | failed tookEffect => exact .idle rfl
  | woke => exact ⟨sound, .refl _, .idle rfl⟩
  | exited => exact ⟨sound, .refl _, .idle rfl⟩

theorem SharedStore.Sound.produce (sound : store.Sound) (production : Production)
    (count : Nat) : (store.produce production count).Sound :=
  sound.updateStream (sound production.stream).xAdd

theorem SharedStore.Grows.produce (production : Production) (count : Nat) :
    store.Grows (store.produce production count) :=
  .updateStream .xAdd

namespace Fleet

variable {π : Type} {consumers : π → String} {fleet last : Fleet π} {action : Action π}

structure Sound (consumers : π → String) (fleet : Fleet π) : Prop where
  store : fleet.store.Sound
  phases : ∀ process, (fleet.phases process).Valid (consumers process) fleet.store

theorem Sound.initial : Sound consumers {} where
  store stream := .empty stream
  phases _ := .idle rfl

variable [DecidableEq π]

theorem step_cases (taken : step consumers fleet action = some last) :
    (∃ production count, last.store = fleet.store.produce production count ∧
      last.phases = fleet.phases) ∨
    ∃ process made next, action = .move process made ∧
      Moved (consumers process) fleet.store (fleet.phases process) last.store next ∧
      last.phases = Function.update fleet.phases process next := by
  cases action with
  | produce production count =>
      cases taken
      exact .inl ⟨production, count, rfl, rfl⟩
  | move process made =>
      rcases Option.map_eq_some_iff.mp taken with ⟨⟨store, next⟩, moved, rfl⟩
      exact .inr ⟨process, made, next, rfl, .of_move moved, rfl⟩

theorem Sound.step (sound : Sound consumers fleet)
    (taken : step consumers fleet action = some last) :
    Sound consumers last ∧ fleet.store.Grows last.store := by
  rcases step_cases taken with ⟨production, count, store, phases⟩ |
    ⟨process, made, next, -, moved, phases⟩
  · have produced := sound.store.produce production count
    have grows : fleet.store.Grows (fleet.store.produce production count) :=
      .produce production count
    rw [← store] at produced grows
    refine ⟨⟨produced, ?_⟩, grows⟩
    intro process
    rw [phases]
    exact (sound.phases process).grow produced grows
  · rcases moved.sound sound.store (sound.phases process) with ⟨moves, grows, valid⟩
    refine ⟨⟨moves, ?_⟩, grows⟩
    intro other
    rw [phases]
    by_cases same : other = process
    · subst same
      rw [Function.update_self]
      exact valid
    · rw [Function.update_of_ne same]
      exact (sound.phases other).grow moves grows

theorem Reached.sound (reached : Reached consumers fleet) : Sound consumers fleet :=
  Transitions.Reaches.invariant .initial
    (fun _ _ _ sound _ taken => (sound.step taken).1) reached

end Fleet

/-! ## Rows -/

def SharedStore.rowsOf (stream : StreamName) (entry : Entry EntryId Fields)
    (store : SharedStore) : List (Row stream) :=
  (store.tables stream).filter fun row => row.eventId = entry.id.text

/-- Every row comes from one entry, no entry has two, and what is acknowledged without a
row was malformed or trimmed. -/
structure SharedStore.ExactlyOnce (stream : StreamName) (store : SharedStore) : Prop where
  archived : ∀ row ∈ store.tables stream,
    ∃ entry ∈ (store.streams stream).log.appended, row = rowFor stream entry
  atMostOne : ∀ entry ∈ (store.streams stream).log.appended,
    store.rowsOf stream entry = [] ∨ store.rowsOf stream entry = [rowFor stream entry]
  acknowledged : ∀ entry ∈ (store.streams stream).log.appended,
    (store.streams stream).Acknowledged entry.id →
      store.rowsOf stream entry = [rowFor stream entry] ∨ Malformed stream entry ∨
        entry ∈ (store.streams stream).log.gone

variable {stream : StreamName} {entry : Entry EntryId Fields}

theorem SharedStore.Sound.eq_rowFor (sound : store.Sound)
    (known : entry ∈ (store.streams stream).log.appended) {row : Row stream}
    (among : row ∈ store.rowsOf stream entry) : row = rowFor stream entry := by
  rcases List.mem_filter.mp among with ⟨among, same⟩
  rcases (sound stream).rows row among with ⟨other, otherKnown, rfl⟩
  simp only [rowFor_eventId, decide_eq_true_eq] at same
  rw [(sound stream).eq_of_id_eq otherKnown known (EntryId.text_injective same)]

theorem SharedStore.Sound.rowsOf_cases (sound : store.Sound)
    (known : entry ∈ (store.streams stream).log.appended) :
    store.rowsOf stream entry = [] ∨ store.rowsOf stream entry = [rowFor stream entry] := by
  have same (row : Row stream) (among : row ∈ store.rowsOf stream entry) :=
    sound.eq_rowFor known among
  have distinct := (sound stream).distinct.filter fun row => row.eventId = entry.id.text
  change (store.rowsOf stream entry).Pairwise _ at distinct
  rcases shape : store.rowsOf stream entry with _ | ⟨first, _ | ⟨second, rest⟩⟩
  · exact .inl rfl
  · right
    rw [same first (by simp [shape])]
  · rw [shape] at same distinct
    have conflict := (List.pairwise_cons.mp distinct).1 second (by simp)
    rw [same first (by simp), same second (by simp)] at conflict
    exact absurd ⟨rfl, rfl⟩ conflict

theorem SharedStore.Sound.rowsOf_of_mem (sound : store.Sound)
    (known : entry ∈ (store.streams stream).log.appended)
    (archived : rowFor stream entry ∈ store.tables stream) :
    store.rowsOf stream entry = [rowFor stream entry] := by
  rcases sound.rowsOf_cases known with none | one
  · have among : rowFor stream entry ∈ store.rowsOf stream entry :=
      List.mem_filter.mpr ⟨archived, by simp⟩
    simp [none] at among
  · exact one

theorem SharedStore.Sound.exactlyOnce (sound : store.Sound) (stream : StreamName) :
    store.ExactlyOnce stream where
  archived := (sound stream).rows
  atMostOne _ known := sound.rowsOf_cases known
  acknowledged entry known acknowledged := by
    rcases (sound stream).settled entry known acknowledged with (malformed | row) | gone
    · exact .inr (.inl malformed)
    · exact .inl (sound.rowsOf_of_mem known row)
    · exact .inr (.inr gone)

theorem archivers_are_exactly_once {π : Type} [DecidableEq π] (consumers : π → String)
    (fleet : Fleet π) (reached : fleet.Reached consumers) (stream : StreamName) :
    fleet.store.ExactlyOnce stream :=
  reached.sound.store.exactlyOnce stream

/-- A reading that two archivers of one name archive, the first of which dies before it
acknowledges the entry. -/
def handover : List (Fleet.Action Bool) :=
  [.produce ⟨.sensor, 1, [("metric", "gravity"), ("value", "1.05")]⟩ 0,
    .move true .start, .move true (.createGroup .done), .move true (.createGroup .done),
    .move false .start, .move false (.createGroup .done), .move false (.createGroup .done),
    .move true (.read .done fun _ => 1), .move true (.read .done fun _ => 1),
    .move false (.read .done fun _ => 1), .move true (.insert .done), .move true .exit,
    .move false (.insert (.failed true)), .move false .wake,
    .move false (.read .done fun _ => 1), .move false (.insert .done),
    .move false (.ack .done)]

theorem archivers_are_exactly_once_handover :
    ∃ fleet : Fleet Bool, fleet.Reached (fun _ => "host") ∧
      (fleet.store.tables .sensor).length = 1 ∧ fleet.store.ExactlyOnce .sensor := by
  have run : ∃ fleet, Transitions.replay (Fleet.step fun _ => "host")
      Transitions.Unrestricted {} handover = some fleet ∧
      (fleet.store.tables .sensor).length = 1 :=
    Transitions.exists_replay (by decide +kernel)
  rcases run with ⟨fleet, replayed, archived⟩
  have reached : fleet.Reached fun _ => "host" := .of_replay .start replayed
  exact ⟨fleet, reached, archived, archivers_are_exactly_once _ fleet reached .sensor⟩

/-! ## Trimming -/

def SharedStream.Undelivered (id : EntryId) (stream : SharedStream) : Prop :=
  ∀ group ∈ stream.group, group.lastDelivered < id

/-- What has neither a row nor a future is malformed or has been trimmed. -/
theorem SharedStore.Sound.whereabouts (sound : store.Sound)
    (known : entry ∈ (store.streams stream).log.appended)
    (kept : entry ∉ (store.streams stream).log.gone) (wellFormed : ¬Malformed stream entry) :
    store.rowsOf stream entry = [rowFor stream entry] ∨
      entry ∈ (store.streams stream).log.retained ∧
        ((∃ name, (store.streams stream).Owned name entry.id) ∨
          (store.streams stream).Undelivered entry.id) := by
  have retained : entry ∈ (store.streams stream).log.retained :=
    (TrimmedLog.gone_or_retained known).resolve_left kept
  cases grouped : (store.streams stream).group with
  | none =>
      right
      refine ⟨retained, .inr ?_⟩
      simp [SharedStream.Undelivered, grouped]
  | some group =>
      have accounts := (sound stream).accounts group grouped
      rcases le_or_gt entry.id group.lastDelivered with delivered | undelivered
      · have held := (accounts.accounted entry known delivered).resolve_right kept
        rcases held with ⟨name, pending⟩ | acknowledged
        · exact .inr ⟨retained, .inl ⟨name, group, grouped, pending⟩⟩
        · left
          rcases (sound stream).settled entry known ⟨group, grouped, acknowledged⟩ with
            (malformed | row) | gone
          · exact absurd malformed wellFormed
          · exact sound.rowsOf_of_mem known row
          · exact absurd gone kept
      · right
        refine ⟨retained, .inr ?_⟩
        intro other otherGrouped
        rw [grouped] at otherGrouped
        cases otherGrouped
        exact undelivered

/-- Nothing well-formed is lost before the stream has taken `STREAM_MAXLEN` later entries:
it has its row, or the stream still has it for a consumer or for the next reader. -/
theorem recent_entries_are_not_lost {π : Type} [DecidableEq π] (consumers : π → String)
    (fleet : Fleet π) (reached : fleet.Reached consumers) (stream : StreamName)
    (entry : Entry EntryId Fields)
    (known : entry ∈ (fleet.store.streams stream).log.appended)
    (wellFormed : ¬Malformed stream entry)
    (recent : ((fleet.store.streams stream).log.after entry).length < streamMaxLen) :
    fleet.store.rowsOf stream entry = [rowFor stream entry] ∨
      entry ∈ (fleet.store.streams stream).log.retained ∧
        ((∃ name, (fleet.store.streams stream).Owned name entry.id) ∨
          (fleet.store.streams stream).Undelivered entry.id) := by
  have sound := reached.sound.store
  have kept : entry ∉ (fleet.store.streams stream).log.gone := by
    intro gone
    have followed := (sound stream).keeps.le_after (sound stream).ordered.increasing gone
    exact absurd recent followed.not_gt
  exact sound.whereabouts known kept wellFormed

theorem recent_entries_are_not_lost_handover :
    ∃ fleet : Fleet Bool, fleet.Reached (fun _ => "host") ∧
      (fleet.store.rowsOf .sensor ⟨⟨1, 0⟩, [("metric", "gravity"), ("value", "1.05")]⟩ =
          [rowFor .sensor ⟨⟨1, 0⟩, [("metric", "gravity"), ("value", "1.05")]⟩] ∨
        ⟨⟨1, 0⟩, [("metric", "gravity"), ("value", "1.05")]⟩ ∈
            (fleet.store.streams .sensor).log.retained ∧
          ((∃ name, (fleet.store.streams .sensor).Owned name ⟨1, 0⟩) ∨
            (fleet.store.streams .sensor).Undelivered ⟨1, 0⟩)) := by
  have run : ∃ fleet, Transitions.replay (Fleet.step fun _ => "host")
      Transitions.Unrestricted {} handover = some fleet ∧
      (fleet.store.streams .sensor).log.appended =
        [⟨⟨1, 0⟩, [("metric", "gravity"), ("value", "1.05")]⟩] :=
    Transitions.exists_replay (by decide +kernel)
  rcases run with ⟨fleet, replayed, appended⟩
  have reached : fleet.Reached fun _ => "host" := .of_replay .start replayed
  refine ⟨fleet, reached, recent_entries_are_not_lost _ fleet reached .sensor _ ?_ ?_ ?_⟩
  · rw [appended]
    exact List.mem_cons_self
  · decide +kernel
  · rw [TrimmedLog.after, appended]
    exact (List.length_filter_le _ _).trans_lt (by decide)

end BuranBrew.Telemetry

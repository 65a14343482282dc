import BuranBrew.Telemetry.ManyArchivers

/-! # Whose entry it is

An entry that was handed out is the business of one name. An archiver that follows new
entries has nothing else to do, and what is pending for a name that no process uses any
more is never archived.
-/

namespace BuranBrew.Telemetry

open Delivery

variable {consumer owner : String} {store later : SharedStore} {phase next : Phase}
  {cursor : Cursor} {n : Nat} {m : Handed} {rest : List Handed} {count : StreamName → Nat}
  {stream other : StreamName} {entry : Entry EntryId Fields} {id : EntryId}

namespace SharedStore

def Owned (consumer : String) (stream : StreamName) (id : EntryId) (store : SharedStore) :
    Prop :=
  (store.streams stream).Owned consumer id

instance : Decidable (store.Owned consumer stream id) :=
  inferInstanceAs (Decidable (∃ _ ∈ _, _))

theorem owned_createGroup :
    (store.updateStream other .createGroup).Owned consumer stream id ↔
      store.Owned consumer stream id := by
  unfold Owned
  by_cases same : stream = other
  · subst same
    rw [updateStream_streams_same, SharedStream.owned_createGroup]
  · rw [updateStream_streams_other same]

theorem owned_xAck {text : String} :
    (store.updateStream other (.xAck text)).Owned consumer stream id ↔
      store.Owned consumer stream id ∧ ¬(stream = other ∧ id.text = text) := by
  unfold Owned
  by_cases same : stream = other
  · subst same
    rw [updateStream_streams_same, SharedStream.owned_xAck]
    simp
  · rw [updateStream_streams_other same]
    simp [same]

theorem owned_produce {production : Production} {trimmed : Nat} :
    (store.produce production trimmed).Owned consumer stream id ↔
      store.Owned consumer stream id := by
  unfold Owned produce
  by_cases same : stream = production.stream
  · subst same
    rw [updateStream_streams_same]
    exact Iff.rfl
  · rw [updateStream_streams_other same]

theorem owned_deliver :
    (store.deliver .live consumer count).Owned owner stream id ↔
      store.Owned owner stream id ∨
        (∃ m ∈ store.reply .live consumer count, m.stream = stream ∧ m.entry.id = id) ∧
          owner = consumer := by
  unfold Owned
  rw [deliver, SharedStream.owned_deliver]
  apply or_congr_right
  apply and_congr_left'
  constructor
  · rintro ⟨entry, handed, same⟩
    exact ⟨⟨stream, entry⟩, mem_reply.mpr handed, rfl, same⟩
  · rintro ⟨m, among, rfl, same⟩
    exact ⟨m.entry, mem_reply.mp among, same⟩

theorem not_owned_of_reply_eq_nil (empty : store.reply .pending consumer count = []) :
    ¬store.Owned consumer stream id := by
  rintro ⟨group, grouped, pending⟩
  have nothing : store.batch .pending consumer count stream = [] := by
    simpa using List.flatMap_eq_nil_iff.mp empty stream (StreamName.mem_all stream)
  change SharedStream.history _ _ _ = [] at nothing
  rw [SharedStream.history, Option.mem_def.mp grouped] at nothing
  simp only [List.map_eq_nil_iff, List.take_eq_nil_iff, SharedGroup.replay,
    List.filter_eq_nil_iff, decide_eq_true_eq] at nothing
  rcases nothing with none | absent
  · exact absurd none (by decide)
  · exact absent (id, consumer) pending rfl

end SharedStore

/-! ## Following new entries -/

/-- The process has drained what was pending and not failed since. -/
def Phase.Live : Phase → Prop
  | .polling cursor | .inserting cursor _ _ _ | .acknowledging cursor _ _ _ => cursor = .live
  | _ => False

instance decidableLive : (phase : Phase) → Decidable phase.Live
  | .polling cursor | .inserting cursor _ _ _ | .acknowledging cursor _ _ _ =>
      inferInstanceAs (Decidable (cursor = .live))
  | .down | .creating _ _ | .sleeping => isFalse not_false

/-- Whatever is pending for the process is in its hands. -/
def Phase.Covers (consumer : String) (store : SharedStore) (phase : Phase) : Prop :=
  phase.Live → ∀ stream id, store.Owned consumer stream id →
    ∃ m ∈ phase.queue, m.stream = stream ∧ m.entry.id = id

theorem Phase.not_live_create (streams : List StreamName) :
    ¬(Phase.create streams).Live := by
  cases streams with
  | nil => exact fun live => Cursor.noConfusion live
  | cons stream rest => exact not_false

theorem Phase.Covers.of_not_live (idle : ¬phase.Live) : phase.Covers consumer store :=
  fun live => absurd live idle

theorem Phase.Covers.fewer (covers : phase.Covers consumer store)
    (fewer : ∀ stream id, later.Owned consumer stream id → store.Owned consumer stream id) :
    phase.Covers consumer later :=
  fun live stream id owned => covers live stream id (fewer stream id owned)

theorem Phase.Covers.proceed
    (covered : cursor = .live → ∀ stream id, store.Owned consumer stream id →
      ∃ m ∈ rest, m.stream = stream ∧ m.entry.id = id)
    (drained : n = 0 → cursor = .pending → rest = [] →
      ∀ stream id, ¬store.Owned consumer stream id) :
    (Phase.proceed cursor n rest).Covers consumer store := by
  intro live stream id owned
  rw [Phase.queue_proceed]
  cases rest with
  | cons m rest => exact covered live stream id owned
  | nil =>
      by_cases switched : n = 0 ∧ cursor = .pending
      · exact absurd owned (drained switched.1 switched.2 rfl stream id)
      · rw [Phase.proceed, if_neg switched] at live
        exact covered live stream id owned

theorem Moved.covers (moved : Moved consumer store phase later next)
    (covers : phase.Covers consumer store) : next.Covers consumer later := by
  cases moved with
  | started => exact .of_not_live (Phase.not_live_create _)
  | @created stream rest outcome =>
      apply Phase.Covers.of_not_live
      cases outcome with
      | done => exact Phase.not_live_create rest
      | failed tookEffect => exact not_false
  | noGroup => exact .of_not_live not_false
  | @read cursor outcome count =>
      cases outcome with
      | failed tookEffect => exact .of_not_live not_false
      | done =>
          apply Phase.Covers.proceed
          · rintro rfl stream id owned
            rcases SharedStore.owned_deliver.mp owned with before | ⟨handed, -⟩
            · rcases covers rfl stream id before with ⟨m, among, -⟩
              simp [Phase.queue] at among
            · exact handed
          · rintro - rfl empty stream id
            exact SharedStore.not_owned_of_reply_eq_nil empty
  | dropped => exact covers
  | inserted outcome _ =>
      cases outcome with
      | failed tookEffect => exact .of_not_live not_false
      | done => exact covers
  | @acked cursor n m rest outcome =>
      cases outcome with
      | failed tookEffect => exact .of_not_live not_false
      | done =>
          apply Phase.Covers.proceed
          · rintro live stream id owned
            rcases SharedStore.owned_xAck.mp owned with ⟨before, others⟩
            rcases covers live stream id before with ⟨held, among, sameStream, sameId⟩
            rcases List.mem_cons.mp among with first | later
            · rw [first] at sameStream sameId
              exact absurd ⟨sameStream.symm, congrArg EntryId.text sameId.symm⟩ others
            · exact ⟨held, later, sameStream, sameId⟩
          · intro none
            exact absurd none (Nat.succ_ne_zero n)
  | woke => exact .of_not_live fun live => Cursor.noConfusion live
  | exited => exact .of_not_live not_false

theorem Moved.owned_other (moved : Moved consumer store phase later next)
    (different : owner ≠ consumer) (owned : later.Owned owner stream id) :
    store.Owned owner stream id := by
  cases moved with
  | started | noGroup | dropped | woke | exited => exact owned
  | created outcome =>
      unfold CallOutcome.apply at owned
      split at owned
      · exact SharedStore.owned_createGroup.mp owned
      · exact owned
  | @read cursor outcome count =>
      unfold CallOutcome.apply at owned
      split at owned
      · cases cursor with
        | pending => exact owned
        | live =>
            rcases SharedStore.owned_deliver.mp owned with before | ⟨-, same⟩
            · exact before
            · exact absurd same different
      · exact owned
  | inserted outcome wellFormed =>
      unfold CallOutcome.apply at owned
      split at owned <;> exact owned
  | acked outcome =>
      unfold CallOutcome.apply at owned
      split at owned
      · exact (SharedStore.owned_xAck.mp owned).1
      · exact owned

namespace Fleet

variable {π : Type} {consumers : π → String} {fleet last : Fleet π} {process : π}
  {action : Action π}

/-- Every process that follows new entries has what is pending for it in its hands. -/
def Covered (consumers : π → String) (fleet : Fleet π) : Prop :=
  ∀ process, (fleet.phases process).Covers (consumers process) fleet.store

theorem Covered.initial : Covered consumers {} := fun _ => .of_not_live not_false

variable [DecidableEq π]

theorem Covered.step (covered : Covered consumers fleet)
    (distinct : Function.Injective consumers)
    (taken : step consumers fleet action = some last) : Covered consumers last := by
  intro other
  rcases step_cases taken with ⟨production, trimmed, stored, phases⟩ |
    ⟨process, made, next, -, moved, phases⟩
  · rw [phases, stored]
    exact (covered other).fewer fun _ _ => SharedStore.owned_produce.mp
  · rw [phases]
    by_cases same : other = process
    · subst same
      rw [Function.update_self]
      exact moved.covers (covered other)
    · rw [Function.update_of_ne same]
      exact (covered other).fewer fun _ _ => moved.owned_other (distinct.ne same)

end Fleet

/-- Among archivers of different names, one that follows new entries has left nothing
behind that was ever handed to its name. -/
theorem live_archivers_hold_what_is_pending {π : Type} [DecidableEq π]
    (consumers : π → String) (distinct : Function.Injective consumers) (fleet : Fleet π)
    (reached : fleet.Reached consumers) (process : π) (live : (fleet.phases process).Live)
    (stream : StreamName) (id : EntryId)
    (owned : fleet.store.Owned (consumers process) stream id) :
    ∃ m ∈ (fleet.phases process).queue, m.stream = stream ∧ m.entry.id = id := by
  have covered : fleet.Covered consumers :=
    Transitions.Reaches.invariant .initial
      (fun _ _ _ covered _ taken => covered.step distinct taken) reached
  exact covered process live stream id owned

def byHost (host : String) : String := host

def handed : List (Fleet.Action String) :=
  [.produce ⟨.sensor, 1, [("metric", "gravity"), ("value", "1.05")]⟩ 0,
    .move "old" .start, .move "old" (.createGroup .done), .move "old" (.createGroup .done),
    .move "old" (.read .done fun _ => 1), .move "old" (.read .done fun _ => 1)]

theorem live_archivers_hold_what_is_pending_handed :
    ∃ fleet : Fleet String, fleet.Reached byHost ∧
      fleet.store.Owned "old" .sensor ⟨1, 0⟩ ∧
        ∃ m ∈ (fleet.phases "old").queue, m.stream = .sensor ∧ m.entry.id = ⟨1, 0⟩ := by
  have run : ∃ fleet,
      Transitions.replay (Fleet.step byHost) Transitions.Unrestricted {} handed = some fleet ∧
      (fleet.phases "old").Live ∧ fleet.store.Owned "old" .sensor ⟨1, 0⟩ :=
    Transitions.exists_replay (by decide +kernel)
  rcases run with ⟨fleet, replayed, live, owned⟩
  have reached : fleet.Reached byHost := .of_replay .start replayed
  exact ⟨fleet, reached, owned, live_archivers_hold_what_is_pending byHost
    (fun _ _ same => same) fleet reached "old" live .sensor ⟨1, 0⟩ owned⟩

/-! ## Names that are not used any more -/

theorem Handed.HeldBy.ne_of_owned (held : m.HeldBy consumer store) (sound : store.Sound)
    (different : consumer ≠ owner) (owned : store.Owned owner stream id) :
    ¬(stream = m.stream ∧ id = m.entry.id) := by
  rintro ⟨rfl, rfl⟩
  rcases held.held with mine | acknowledged
  · exact different ((sound m.stream).owner_unique mine owned)
  · exact (sound m.stream).not_owned_of_acknowledged acknowledged owned

theorem SharedStore.rowsOf_insert (others : ¬(stream = m.stream ∧ entry.id = m.entry.id)) :
    (store.insert (rowFor m.stream m.entry)).rowsOf stream entry =
      store.rowsOf stream entry := by
  unfold rowsOf
  by_cases same : stream = m.stream
  · subst same
    have unlike : ¬m.entry.id.text = entry.id.text :=
      fun equal => others ⟨rfl, (EntryId.text_injective equal).symm⟩
    rw [insert_tables_same, inserted]
    split
    · rfl
    · rw [List.filter_append]
      simp [unlike]
  · rw [insert_tables_other _ same]

theorem Moved.owned_stays (moved : Moved consumer store phase later next)
    (sound : store.Sound) (valid : phase.Valid consumer store) (different : consumer ≠ owner)
    (owned : store.Owned owner stream entry.id) :
    later.Owned owner stream entry.id ∧
      later.rowsOf stream entry = store.rowsOf stream entry := by
  cases moved with
  | started | noGroup | dropped | woke | exited => exact ⟨owned, rfl⟩
  | created outcome =>
      unfold CallOutcome.apply
      split
      · exact ⟨SharedStore.owned_createGroup.mpr owned, rfl⟩
      · exact ⟨owned, rfl⟩
  | @read cursor outcome count =>
      unfold CallOutcome.apply
      split
      · cases cursor with
        | pending => exact ⟨owned, rfl⟩
        | live => exact ⟨SharedStore.owned_deliver.mpr (.inl owned), rfl⟩
      · exact ⟨owned, rfl⟩
  | @inserted cursor n m rest outcome wellFormed =>
      have others := (valid.held m List.mem_cons_self).ne_of_owned sound different owned
      unfold CallOutcome.apply
      split
      · exact ⟨owned, SharedStore.rowsOf_insert others⟩
      · exact ⟨owned, rfl⟩
  | @acked cursor n m rest outcome =>
      have others := (valid.held m List.mem_cons_self).ne_of_owned sound different owned
      unfold CallOutcome.apply
      split
      · refine ⟨SharedStore.owned_xAck.mpr ⟨owned, ?_⟩, rfl⟩
        rintro ⟨sameStream, sameText⟩
        exact others ⟨sameStream, EntryId.text_injective sameText⟩
      · exact ⟨owned, rfl⟩

namespace Fleet

variable {π : Type} [DecidableEq π] {consumers : π → String} {fleet last : Fleet π}
  {action : Action π}

/-- Every process may act except those of a name. -/
def Without (consumers : π → String) (name : String) (_ : Fleet π) : Action π → Prop
  | .produce _ _ => True
  | .move process _ => consumers process ≠ name

omit [DecidableEq π] in
instance decidableWithout (name : String) :
    ∀ (fleet : Fleet π) (action : Action π), Decidable (Without consumers name fleet action)
  | _, .produce _ _ => isTrue trivial
  | _, .move process _ => inferInstanceAs (Decidable (consumers process ≠ name))

/-- Sound servers that keep something pending, with the rows there were. -/
structure Strands (consumers : π → String) (name : String) (stream : StreamName)
    (entry : Entry EntryId Fields) (rows : List (Row stream)) (fleet : Fleet π) : Prop where
  sound : Sound consumers fleet
  owned : fleet.store.Owned name stream entry.id
  rows : fleet.store.rowsOf stream entry = rows

theorem Strands.step {name : String} {rows : List (Row stream)}
    (strands : Strands consumers name stream entry rows fleet)
    (without : Without consumers name fleet action)
    (taken : step consumers fleet action = some last) :
    Strands consumers name stream entry rows last := by
  suffices last.store.Owned name stream entry.id ∧
      last.store.rowsOf stream entry = rows from
    ⟨(strands.sound.step taken).1, this.1, this.2⟩
  rcases step_cases taken with ⟨production, trimmed, stored, -⟩ |
    ⟨process, made, next, rfl, moved, -⟩
  · rw [stored]
    exact ⟨SharedStore.owned_produce.mpr strands.owned, strands.rows⟩
  · rcases moved.owned_stays strands.sound.store (strands.sound.phases process) without
      strands.owned with ⟨owned, rows⟩
    exact ⟨owned, rows.trans strands.rows⟩

end Fleet

/-- As long as no process of its name runs, whatever is pending for a name stays pending
and gets no row, however many other archivers there are. -/
theorem pending_entries_are_stranded {π : Type} [DecidableEq π] (consumers : π → String)
    (name : String) (fleet last : Fleet π) (reached : fleet.Reached consumers)
    (stream : StreamName) (entry : Entry EntryId Fields)
    (owned : fleet.store.Owned name stream entry.id)
    (continued : Transitions.Reaches (Fleet.step consumers) (Fleet.Without consumers name)
      fleet last) :
    last.store.Owned name stream entry.id ∧
      last.store.rowsOf stream entry = fleet.store.rowsOf stream entry := by
  have strands : last.Strands consumers name stream entry
      (fleet.store.rowsOf stream entry) :=
    Transitions.Reaches.invariant ⟨reached.sound, owned, rfl⟩
      (fun _ _ _ strands without taken => strands.step without taken) continued
  exact ⟨strands.owned, strands.rows⟩

def replaced : List (Fleet.Action String) :=
  [.move "new" .start, .move "new" (.createGroup .done), .move "new" (.createGroup .done),
    .move "new" (.read .done fun _ => 1), .move "new" (.read .done fun _ => 1)]

theorem pending_entries_are_stranded_replaced :
    ∃ fleet last : Fleet String, fleet.Reached byHost ∧ (last.phases "new").Live ∧
      last.store.Owned "old" .sensor ⟨1, 0⟩ := by
  have run : ∃ fleet,
      Transitions.replay (Fleet.step byHost) Transitions.Unrestricted {} handed = some fleet ∧
      fleet.store.Owned "old" .sensor ⟨1, 0⟩ ∧
      ∃ last ∈ Transitions.replay (Fleet.step byHost) (Fleet.Without byHost "old") fleet
        replaced, (last.phases "new").Live :=
    Transitions.exists_replay (by decide +kernel)
  rcases run with ⟨fleet, replayed, owned, last, continued, live⟩
  have reached : fleet.Reached byHost := .of_replay .start replayed
  have stranded := pending_entries_are_stranded byHost "old" fleet last reached .sensor
    ⟨⟨1, 0⟩, []⟩ owned (.of_replay .start continued)
  exact ⟨fleet, last, reached, live, stranded.1⟩

end BuranBrew.Telemetry

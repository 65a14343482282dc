import BuranBrew.Telemetry.SharedStreams

/-! # The moves of an archiver

What a move requires and what it may do to the servers. Whatever the other processes do
in between, the messages in the hands of a process stay entries of their streams that are
pending for it, or acknowledged.
-/

namespace BuranBrew.Telemetry

open Delivery

/-! ## Inversion -/

inductive Moved (consumer : String) (store : SharedStore) :
    Phase → SharedStore → Phase → Prop
  | started : Moved consumer store .down store (.create StreamName.all)
  | created {stream : StreamName} {rest : List StreamName} (outcome : CallOutcome) :
      Moved consumer store (.creating stream rest)
        (outcome.apply (.updateStream stream .createGroup) store)
        (outcome.next (.create rest) .down)
  | noGroup {cursor : Cursor} : Moved consumer store (.polling cursor) store .sleeping
  | read {cursor : Cursor} (outcome : CallOutcome) (count : StreamName → Nat) :
      Moved consumer store (.polling cursor)
        (outcome.apply (.deliver cursor consumer count) store)
        (outcome.next (.proceed cursor 0 (store.reply cursor consumer count)) .sleeping)
  | dropped {cursor : Cursor} {n : Nat} {m : Handed} {rest : List Handed}
      (malformed : Malformed m.stream m.entry) :
      Moved consumer store (.inserting cursor n m rest) store
        (.acknowledging cursor n m rest)
  | inserted {cursor : Cursor} {n : Nat} {m : Handed} {rest : List Handed}
      (outcome : CallOutcome) (wellFormed : ¬Malformed m.stream m.entry) :
      Moved consumer store (.inserting cursor n m rest)
        (outcome.apply (.insert (rowFor m.stream m.entry)) store)
        (outcome.next (.acknowledging cursor n m rest) .sleeping)
  | acked {cursor : Cursor} {n : Nat} {m : Handed} {rest : List Handed}
      (outcome : CallOutcome) :
      Moved consumer store (.acknowledging cursor n m rest)
        (outcome.apply (.updateStream m.stream (.xAck m.entry.id.text)) store)
        (outcome.next (.proceed cursor (n + 1) rest) .sleeping)
  | woke : Moved consumer store .sleeping store (.polling .pending)
  | exited {phase : Phase} : Moved consumer store phase store .down

variable {consumer owner : String} {store later : SharedStore} {phase next : Phase}
  {cursor : Cursor} {n : Nat} {m : Handed} {rest : List Handed} {count : StreamName → Nat}
  {stream : StreamName} {entry : Entry EntryId Fields}

theorem Moved.of_move {made : Move}
    (moved : move consumer store phase made = some (later, next)) :
    Moved consumer store phase later next := by
  cases made with
  | start =>
      cases phase <;> cases moved
      exact .started
  | createGroup outcome =>
      cases phase <;> cases moved
      exact .created outcome
  | read outcome count =>
      cases phase with
      | polling cursor =>
          simp only [move] at moved
          split at moved
          · cases moved
            exact .noGroup
          · cases moved
            exact .read outcome count
      | _ => cases moved
  | insert outcome =>
      cases phase with
      | inserting cursor n m rest =>
          simp only [move] at moved
          split at moved
          · cases moved
            exact .dropped ‹_›
          · cases moved
            exact .inserted outcome ‹_›
      | _ => cases moved
  | ack outcome =>
      cases phase <;> cases moved
      exact .acked outcome
  | wake =>
      cases phase <;> cases moved
      exact .woke
  | exit =>
      cases moved
      exact .exited

theorem CallOutcome.apply_induction {outcome : CallOutcome}
    {effect : SharedStore → SharedStore} {property : SharedStore → Prop}
    (ineffective : property store) (effective : property (effect store)) :
    property (outcome.apply effect store) := by
  unfold CallOutcome.apply
  split
  · exact effective
  · exact ineffective

theorem Moved.appended (moved : Moved consumer store phase later next) (stream : StreamName) :
    (later.streams stream).log.appended = (store.streams stream).log.appended := by
  have applied (outcome : CallOutcome) (effect : SharedStore → SharedStore)
      (same : ((effect store).streams stream).log.appended =
        (store.streams stream).log.appended) :
      ((outcome.apply effect store).streams stream).log.appended =
        (store.streams stream).log.appended := by
    unfold CallOutcome.apply
    split
    · exact same
    · rfl
  have updated (name : StreamName) (update : SharedStream → SharedStream)
      (same : ∀ state, (update state).log = state.log) :
      ((store.updateStream name update).streams stream).log.appended =
        (store.streams stream).log.appended := by
    change (Function.update store.streams name _ stream).log.appended = _
    rw [Function.update_apply]
    split
    · rw [same, ‹stream = name›]
    · rfl
  cases moved with
  | created outcome => exact applied _ _ (updated _ _ fun _ => SharedStream.createGroup_log)
  | @read cursor outcome count =>
      apply applied
      cases cursor <;> rfl
  | inserted outcome wellFormed => exact applied _ _ rfl
  | acked outcome => exact applied _ _ (updated _ _ fun _ => SharedStream.xAck_log)
  | _ => rfl

/-! ## Messages -/

@[simp] theorem Phase.queue_create (streams : List StreamName) :
    (Phase.create streams).queue = [] := by
  cases streams <;> rfl

@[simp] theorem Phase.queue_proceed : (Phase.proceed cursor n rest).queue = rest := by
  cases rest <;> rfl

theorem SharedStore.mem_reply :
    m ∈ store.reply cursor consumer count ↔
      m.entry ∈ store.batch cursor consumer count m.stream := by
  cases m
  simp [reply, StreamName.mem_all]

namespace SharedStream

variable {state : SharedStream} {limit : Nat}

theorem fresh_subset (handed : entry ∈ state.fresh limit) :
    entry ∈ state.log.retained ∧ ∃ group ∈ state.group, group.lastDelivered < entry.id := by
  unfold fresh at handed
  split at handed
  · simp at handed
  · rename_i group grouped
    have undelivered := SharedGroup.mem_undelivered.mp (List.mem_of_mem_take handed)
    exact ⟨undelivered.1, group, grouped, undelivered.2⟩

theorem of_mem_history (table : List (Row stream)) (sound : state.Sound stream table)
    (handed : entry ∈ state.history consumer limit) :
    state.Shows entry ∧ state.Owned consumer entry.id := by
  unfold history at handed
  split at handed
  · simp at handed
  · rename_i group grouped
    rcases List.mem_map.mp handed with ⟨seen, taken, rfl⟩
    rcases SharedGroup.mem_replay (List.mem_of_mem_take taken) with ⟨pending, whole | empty⟩
    · rcases whole with ⟨original, retained, rfl⟩
      have known := TrimmedLog.mem_of_retained retained
      exact ⟨⟨original, known, .inl rfl⟩, group, grouped, pending⟩
    · refine ⟨?_, group, grouped, pending⟩
      rcases (sound.accounts group grouped).known seen.id (.inl ⟨consumer, pending⟩) with
        ⟨original, known, same⟩
      refine ⟨original, known, .inr ⟨?_, ?_⟩⟩
      · rw [shown, empty.1, same]
        rfl
      · rcases TrimmedLog.gone_or_retained known with gone | retained
        · exact gone
        · exact absurd same (empty.2 original retained)

end SharedStream

namespace SharedStore

structure Grows (store later : SharedStore) : Prop where
  streams : ∀ stream, (store.streams stream).Grows (later.streams stream)
  tables : ∀ stream, store.tables stream ⊆ later.tables stream

def Sound (store : SharedStore) : Prop :=
  ∀ stream, (store.streams stream).Sound stream (store.tables stream)

@[simp] theorem updateStream_streams_same (update : SharedStream → SharedStream) :
    (store.updateStream stream update).streams stream = update (store.streams stream) :=
  Function.update_self _ _ _

@[simp] theorem updateStream_streams_other {update : SharedStream → SharedStream}
    {other : StreamName} (different : other ≠ stream) :
    (store.updateStream stream update).streams other = store.streams other :=
  Function.update_of_ne different _ _

@[simp] theorem insert_tables_same (row : Row stream) :
    (store.insert row).tables stream = inserted row (store.tables stream) :=
  Function.update_self _ _ _

@[simp] theorem insert_tables_other (row : Row stream) {other : StreamName}
    (different : other ≠ stream) : (store.insert row).tables other = store.tables other :=
  Function.update_of_ne different _ _

theorem Grows.refl (store : SharedStore) : store.Grows store where
  streams _ := .refl _
  tables _ := List.Subset.refl _

theorem Grows.updateStream {update : SharedStream → SharedStream}
    (grows : (store.streams stream).Grows (update (store.streams stream))) :
    store.Grows (store.updateStream stream update) where
  streams other := by
    by_cases same : other = stream
    · subst same
      rw [updateStream_streams_same]
      exact grows
    · rw [updateStream_streams_other same]
      exact .refl _
  tables _ := List.Subset.refl _

theorem Grows.insert (row : Row stream) : store.Grows (store.insert row) where
  streams _ := .refl _
  tables other := by
    by_cases same : other = stream
    · subst same
      rw [insert_tables_same]
      exact subset_inserted _ _
    · rw [insert_tables_other row same]
      exact List.Subset.refl _

theorem Grows.deliver : store.Grows (store.deliver cursor consumer count) := by
  cases cursor with
  | pending => exact .refl _
  | live => exact ⟨fun _ => .deliver, fun _ => List.Subset.refl _⟩

theorem Sound.updateStream (sound : store.Sound) {update : SharedStream → SharedStream}
    (keeps : (update (store.streams stream)).Sound stream (store.tables stream)) :
    (store.updateStream stream update).Sound := by
  intro other
  by_cases same : other = stream
  · subst same
    rw [updateStream_streams_same]
    exact keeps
  · rw [updateStream_streams_other same]
    exact sound other

theorem Sound.insert (sound : store.Sound)
    (known : entry ∈ (store.streams stream).log.appended) :
    (store.insert (rowFor stream entry)).Sound := by
  intro other
  by_cases same : other = stream
  · subst same
    rw [insert_tables_same]
    exact (sound other).insert known
  · rw [insert_tables_other _ same]
    exact sound other

theorem Sound.deliver (sound : store.Sound) :
    (store.deliver cursor consumer count).Sound := by
  cases cursor with
  | pending => exact sound
  | live => exact fun stream => (sound stream).deliver

end SharedStore

/-- The message shows an entry that is pending for the consumer, or was until someone
acknowledged it. -/
structure Handed.HeldBy (consumer : String) (store : SharedStore) (m : Handed) : Prop where
  shows : (store.streams m.stream).Shows m.entry
  held : (store.streams m.stream).Owned consumer m.entry.id ∨
    (store.streams m.stream).Acknowledged m.entry.id

def Handed.Done (store : SharedStore) (m : Handed) : Prop :=
  ∀ entry ∈ (store.streams m.stream).log.appended, entry.id = m.entry.id →
    (store.streams m.stream).Done m.stream entry (store.tables m.stream)

theorem Handed.HeldBy.grow (held : m.HeldBy consumer store) (grows : store.Grows later) :
    m.HeldBy consumer later where
  shows := held.shows.grow (grows.streams _)
  held := by
    rcases held.held with owned | acknowledged
    · exact (grows.streams _).owned _ _ owned
    · exact .inr ((grows.streams _).acknowledged _ acknowledged)

theorem Handed.Done.grow (done : m.Done store) (sound : later.Sound)
    (held : m.HeldBy consumer store) (grows : store.Grows later) : m.Done later := by
  intro entry among same
  rcases held.shows with ⟨original, known, shows⟩
  have original_id : original.id = m.entry.id := by
    rcases shows with whole | ⟨empty, -⟩
    · rw [whole]
    · rw [empty]
  have unique : entry = original :=
    (sound m.stream).eq_of_id_eq among ((grows.streams _).appended.subset known)
      (same.trans original_id.symm)
  rw [unique]
  exact (done original known original_id).grow (grows.streams _) (grows.tables _)

/-- What a process knows about the messages in its hands. -/
structure Phase.Valid (consumer : String) (store : SharedStore) (phase : Phase) : Prop where
  held : ∀ m ∈ phase.queue, m.HeldBy consumer store
  done : ∀ cursor n m rest, phase = .acknowledging cursor n m rest → m.Done store

namespace Phase.Valid

/-- A process is not disturbed by what the servers do for others. -/
theorem grow (valid : phase.Valid consumer store) (sound : later.Sound)
    (grows : store.Grows later) : phase.Valid consumer later where
  held m among := (valid.held m among).grow grows
  done cursor n m rest same := by
    have held : m.HeldBy consumer store := by
      apply valid.held
      rw [same]
      exact List.mem_cons_self
    exact (valid.done cursor n m rest same).grow sound held grows

theorem idle (empty : phase.queue = []) : phase.Valid consumer store where
  held := by simp [empty]
  done cursor n m rest same := by
    rw [same] at empty
    cases empty

theorem proceed (held : ∀ m ∈ rest, m.HeldBy consumer store) :
    (Phase.proceed cursor n rest).Valid consumer store where
  held := by simpa using held
  done cursor n m rest same := by
    unfold Phase.proceed at same
    split at same <;> cases same

end Phase.Valid

theorem SharedStore.Sound.heldBy_reply (sound : store.Sound)
    (among : m ∈ store.reply cursor consumer count) :
    m.HeldBy consumer (store.deliver cursor consumer count) := by
  rw [SharedStore.mem_reply] at among
  cases cursor with
  | pending =>
      rcases SharedStream.of_mem_history _ (sound m.stream) among with ⟨shows, owned⟩
      exact ⟨shows, .inl owned⟩
  | live =>
      have known := TrimmedLog.mem_of_retained (SharedStream.fresh_subset among).1
      exact ⟨⟨m.entry, known, .inl rfl⟩,
        .inl (SharedStream.owned_deliver.mpr (.inr ⟨⟨m.entry, among, rfl⟩, rfl⟩))⟩

theorem Handed.HeldBy.known (held : m.HeldBy consumer store)
    (wellFormed : ¬Malformed m.stream m.entry) :
    m.entry ∈ (store.streams m.stream).log.appended := by
  rcases held.shows with ⟨original, known, whole | ⟨empty, -⟩⟩
  · rw [whole]
    exact known
  · rw [empty] at wellFormed
    exact absurd (SharedStream.malformed_of_empty _ _) wellFormed

theorem Handed.HeldBy.done_of_malformed (held : m.HeldBy consumer store)
    (sound : store.Sound) (malformed : Malformed m.stream m.entry) : m.Done store := by
  intro entry among same
  rcases held.shows with ⟨original, known, whole | ⟨empty, gone⟩⟩
  · rw [whole] at same malformed
    rw [(sound m.stream).eq_of_id_eq among known same]
    exact .inl (.inl malformed)
  · rw [empty] at same
    rw [(sound m.stream).eq_of_id_eq among known same]
    exact .inr gone

theorem Handed.HeldBy.done_of_insert (held : m.HeldBy consumer store) (sound : store.Sound)
    (wellFormed : ¬Malformed m.stream m.entry) :
    m.Done (store.insert (rowFor m.stream m.entry)) := by
  intro entry among same
  have known := held.known wellFormed
  rw [(sound m.stream).eq_of_id_eq among known same]
  left
  right
  rw [SharedStore.insert_tables_same]
  exact (sound m.stream).rowFor_mem_inserted known

end BuranBrew.Telemetry

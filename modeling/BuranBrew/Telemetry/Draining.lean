import BuranBrew.Telemetry.DrainLoop

/-! # Draining a backlog

Every call is answered and PostgreSQL rejects the rows that do not fit their columns.
An entry whose row is rejected stays pending and sends the loop back to the start of
the replay, so the backlog is drained unless there is such an entry in it.
-/

namespace BuranBrew.Telemetry

open Delivery Execution

/-! ## Columns -/

/-- `integer`. -/
def FitsInteger (value : Int) : Prop := -2 ^ 31 ≤ value ∧ value < 2 ^ 31

/-- `timestamptz`: from 4713 BC to 294276 AD. -/
def FitsTimestamptz (ts : Time) : Prop :=
  -210866803200000000000 ≤ ts ∧ ts < 9224318016000000000000

/-- `text` holds no NUL, and neither does a string in `jsonb`. -/
def FitsText (text : String) : Prop := Char.ofNat 0 ∉ text.toList

def Row.Fits {stream : StreamName} : Row stream → Prop
  | .sensor ts nodeId metric _ eventId =>
      FitsTimestamptz ts ∧ FitsInteger nodeId ∧ FitsText metric ∧ FitsText eventId
  | .control ts action diffCenti detail eventId =>
      FitsTimestamptz ts ∧ FitsText action ∧ (∀ diff ∈ diffCenti, FitsInteger diff) ∧
        (∀ pair ∈ detail, FitsText pair.1 ∧ FitsText pair.2) ∧ FitsText eventId

instance (value : Int) : Decidable (FitsInteger value) :=
  inferInstanceAs (Decidable (_ ∧ _))

instance (ts : Time) : Decidable (FitsTimestamptz ts) :=
  inferInstanceAs (Decidable (_ ∧ _))

instance (text : String) : Decidable (FitsText text) :=
  inferInstanceAs (Decidable (_ ∉ _))

instance {stream : StreamName} : (row : Row stream) → Decidable row.Fits
  | .sensor .. => inferInstanceAs (Decidable (_ ∧ _))
  | .control .. => inferInstanceAs (Decidable (_ ∧ _))

/-- The entry is dropped, or it can be inserted. -/
def Acceptable (stream : StreamName) (entry : Entry EntryId Fields) : Prop :=
  Malformed stream entry ∨ (rowFor stream entry).Fits

instance (stream : StreamName) (entry : Entry EntryId Fields) :
    Decidable (Acceptable stream entry) :=
  inferInstanceAs (Decidable (_ ∨ _))

/-- Redis answers every call, PostgreSQL rejects a row if and only if it does not fit,
and nothing else happens. -/
structure Environment.Answering (environment : Environment) : Prop where
  quiet : ∀ world, environment.produces world = []
  alive : ∀ world, environment.crashes world = false
  running : ∀ world, environment.canceled world = false
  opens : ∀ world, environment.sqlOpenFails world = false
  creates : ∀ world stream, environment.createGroup world stream = .done
  reads : ∀ world cursor, environment.readGroup world cursor = .done
  replies : ∀ world stream, 0 < environment.available world stream
  inserts : ∀ world stream (row : Row stream),
    environment.execInsert world stream row = if row.Fits then .done else .failed false
  acks : ∀ world stream id, environment.ack world stream id = .done

/-! ## What is left to do -/

def StreamState.unfinished (stream : StreamState) : List (Entry EntryId Fields) :=
  match stream.group with
  | none => stream.entries
  | some group => stream.entries.filter fun entry =>
      entry.id ∈ group.pending ∨ group.lastDelivered < entry.id

theorem StreamState.mem_unfinished {stream : StreamState} {entry : Entry EntryId Fields} :
    entry ∈ stream.unfinished ↔
      entry ∈ stream.entries ∧ (stream.Pending entry ∨ ¬stream.Delivered entry) := by
  cases grouped : stream.group with
  | none => simp [unfinished, Pending, Delivered, grouped]
  | some group => simp [unfinished, Pending, Delivered, grouped]

namespace Store

def unfinished (stream : StreamName) (store : Store) : List (Entry EntryId Fields) :=
  (store.redis stream).unfinished

/-- Streams that Redis can hold, and tables that PostgreSQL can hold in which the key
of an entry is on no other row than its own. -/
structure Backlog (store : Store) : Prop where
  consistent : ∀ stream, (store.redis stream).Consistent
  fits : ∀ stream, ∀ row ∈ store.tables stream, row.Fits
  keys : ∀ stream, ∀ entry ∈ store.entries stream, ∀ row ∈ store.tables stream,
    (rowFor stream entry).Conflicts row → row = rowFor stream entry

/-- Later stores have no more left to do, and what is no longer left is settled. -/
structure Settles (store later : Store) : Prop where
  entries : ∀ stream, later.entries stream = store.entries stream
  groups : ∀ stream, (store.redis stream).group.isSome → (later.redis stream).group.isSome
  unfinished : ∀ stream, ∀ entry ∈ later.unfinished stream, entry ∈ store.unfinished stream
  settled : ∀ stream, ∀ entry ∈ store.unfinished stream,
    entry ∈ later.unfinished stream ∨ Settled stream entry (later.tables stream)
  tables : ∀ stream, store.tables stream ⊆ later.tables stream

variable {store later last : Store}

theorem Settles.refl (store : Store) : store.Settles store where
  entries _ := rfl
  groups _ := id
  unfinished _ _ := id
  settled _ _ := .inl
  tables _ := List.Subset.refl _

theorem Settles.trans (first : store.Settles later) (second : later.Settles last) :
    store.Settles last where
  entries stream := (second.entries stream).trans (first.entries stream)
  groups stream grouped := second.groups stream (first.groups stream grouped)
  unfinished stream entry among :=
    first.unfinished stream entry (second.unfinished stream entry among)
  settled := by
    intro stream entry among
    rcases first.settled stream entry among with left | malformed | archived
    · exact second.settled stream entry left
    · exact .inr (.inl malformed)
    · exact .inr (.inr (second.tables stream archived))
  tables stream := List.Subset.trans (first.tables stream) (second.tables stream)

variable {stream : StreamName}

theorem Settles.updateStream {update : StreamState → StreamState}
    (entries : (update (store.redis stream)).entries = store.entries stream)
    (groups : (store.redis stream).group.isSome →
      (update (store.redis stream)).group.isSome)
    (unfinished : ∀ entry ∈ (update (store.redis stream)).unfinished,
      entry ∈ store.unfinished stream)
    (settled : ∀ entry ∈ store.unfinished stream,
      entry ∈ (update (store.redis stream)).unfinished ∨
        Settled stream entry (store.tables stream)) :
    store.Settles (store.updateStream stream update) where
  entries := by
    intro other
    by_cases same : other = stream
    · subst same
      rw [Store.entries, updateStream_redis_same, entries]
    · rw [Store.entries, updateStream_redis_other same]
      rfl
  groups := by
    intro other
    by_cases same : other = stream
    · subst same
      rw [updateStream_redis_same]
      exact groups
    · rw [updateStream_redis_other same]
      exact id
  unfinished := by
    intro other
    by_cases same : other = stream
    · subst same
      rw [Store.unfinished, updateStream_redis_same]
      exact unfinished
    · rw [Store.unfinished, updateStream_redis_other same]
      exact fun _ => id
  settled := by
    intro other
    by_cases same : other = stream
    · subst same
      rw [Store.unfinished, Store.unfinished, updateStream_redis_same]
      exact settled
    · rw [Store.unfinished, Store.unfinished, updateStream_redis_other same]
      exact fun _ => .inl
  tables _ := List.Subset.refl _

theorem Backlog.updateStream (backlog : store.Backlog) {update : StreamState → StreamState}
    (entries : (update (store.redis stream)).entries = store.entries stream)
    (consistent : (update (store.redis stream)).Consistent) :
    (store.updateStream stream update).Backlog where
  consistent := by
    intro other
    by_cases same : other = stream
    · subst same
      rw [updateStream_redis_same]
      exact consistent
    · rw [updateStream_redis_other same]
      exact backlog.consistent other
  fits := backlog.fits
  keys := by
    intro other entry known
    apply backlog.keys other
    by_cases same : other = stream
    · subst same
      rw [Store.entries, updateStream_redis_same, entries] at known
      exact known
    · rw [Store.entries, updateStream_redis_other same] at known
      exact known

def left (store : Store) : Nat :=
  (StreamName.all.map fun stream => (store.unfinished stream).length).sum

theorem Backlog.nodup_unfinished (backlog : store.Backlog) (stream : StreamName) :
    (store.unfinished stream).Nodup := by
  have distinct : (store.entries stream).Nodup :=
    (backlog.consistent stream).ordered.increasing.imp fun before => by
      rintro rfl
      exact lt_irrefl _ before
  unfold unfinished StreamState.unfinished
  split
  · exact distinct
  · exact distinct.filter _

theorem Settles.length_le (settles : store.Settles later) (backlog : later.Backlog)
    (stream : StreamName) :
    (later.unfinished stream).length ≤ (store.unfinished stream).length :=
  (List.subperm_of_subset (backlog.nodup_unfinished stream)
    (settles.unfinished stream)).length_le

theorem Settles.left_le (settles : store.Settles later) (backlog : later.Backlog) :
    later.left ≤ store.left := by
  have sensor := settles.length_le backlog .sensor
  have control := settles.length_le backlog .control
  simp only [left, StreamName.all, List.map_cons, List.map_nil, List.sum_cons, List.sum_nil]
  omega

theorem Settles.left_lt (settles : store.Settles later) (backlog : later.Backlog)
    {entry : Entry EntryId Fields} (before : entry ∈ store.unfinished stream)
    (after : entry ∉ later.unfinished stream) : later.left < store.left := by
  have fewer : (later.unfinished stream).length < (store.unfinished stream).length := by
    have distinct : (entry :: later.unfinished stream).Nodup :=
      List.nodup_cons.mpr ⟨after, backlog.nodup_unfinished stream⟩
    apply List.Subperm.length_le (List.subperm_of_subset distinct _)
    intro other among
    rcases List.mem_cons.mp among with rfl | rest
    · exact before
    · exact settles.unfinished stream other rest
  have sensor := settles.length_le backlog .sensor
  have control := settles.length_le backlog .control
  simp only [left, StreamName.all, List.map_cons, List.map_nil, List.sum_cons, List.sum_nil]
  cases stream <;> omega

end Store

/-! ## What the calls leave to do -/

section Calls

variable {store : Store} {stream : StreamName} {entry : Entry EntryId Fields}

theorem StreamState.unfinished_createGroup {state : StreamState}
    (consistent : state.Consistent) :
    entry ∈ state.createGroup.unfinished ↔ entry ∈ state.unfinished := by
  cases grouped : state.group with
  | some group => rw [createGroup, grouped]
  | none =>
      rw [createGroup, grouped, unfinished, unfinished, grouped]
      have positive := consistent.ordered.positive entry
      simpa using positive

theorem Store.Backlog.createGroup (backlog : store.Backlog) (stream : StreamName) :
    (store.updateStream stream StreamState.createGroup).Backlog ∧
      store.Settles (store.updateStream stream StreamState.createGroup) := by
  have consistent := backlog.consistent stream
  constructor
  · exact backlog.updateStream StreamState.createGroup_entries consistent.createGroup
  · apply Settles.updateStream StreamState.createGroup_entries
    · intro _
      unfold StreamState.createGroup
      split <;> simp_all
    · exact fun entry => (StreamState.unfinished_createGroup consistent).mp
    · exact fun entry among =>
        .inl ((StreamState.unfinished_createGroup consistent).mpr among)

theorem Store.Backlog.xAck (backlog : store.Backlog) (known : entry ∈ store.entries stream)
    (settled : Settled stream entry (store.tables stream)) :
    (store.updateStream stream (.xAck entry.id.text)).Backlog ∧
      store.Settles (store.updateStream stream (.xAck entry.id.text)) := by
  have consistent := backlog.consistent stream
  have delivered (other : Entry EntryId Fields) :
      ((store.redis stream).xAck entry.id.text).Delivered other ↔
        (store.redis stream).Delivered other := by
    cases grouped : (store.redis stream).group <;>
      simp [StreamState.Delivered, StreamState.xAck, ConsumerGroup.acknowledge, grouped]
  constructor
  · exact backlog.updateStream rfl (consistent.xAck _)
  · apply Settles.updateStream rfl
    · simp [StreamState.xAck]
    · intro other among
      rcases StreamState.mem_unfinished.mp among with ⟨otherKnown, pending | undelivered⟩
      · exact StreamState.mem_unfinished.mpr
          ⟨otherKnown, .inl (StreamState.pending_xAck.mp pending).1⟩
      · exact StreamState.mem_unfinished.mpr
          ⟨otherKnown, .inr fun is => undelivered ((delivered other).mpr is)⟩
    · intro other among
      rcases StreamState.mem_unfinished.mp among with ⟨otherKnown, pending | undelivered⟩
      · by_cases same : other.id.text = entry.id.text
        · right
          rw [consistent.ordered.increasing.eq_of_id_eq otherKnown known
            (EntryId.text_injective same)]
          exact settled
        · left
          exact StreamState.mem_unfinished.mpr
            ⟨otherKnown, .inl (StreamState.pending_xAck.mpr ⟨pending, same⟩)⟩
      · left
        exact StreamState.mem_unfinished.mpr
          ⟨otherKnown, .inr fun is => undelivered ((delivered other).mp is)⟩

theorem Store.Backlog.insert (backlog : store.Backlog)
    (known : entry ∈ store.entries stream) (fits : (rowFor stream entry).Fits) :
    (store.insert (rowFor stream entry)).Backlog ∧
      store.Settles (store.insert (rowFor stream entry)) ∧
        rowFor stream entry ∈ (store.insert (rowFor stream entry)).tables stream := by
  have advances : store.Advances (store.insert (rowFor stream entry)) := .insert _
  have tables := advances.tables
  constructor
  · constructor
    · exact backlog.consistent
    · intro other row among
      by_cases same : other = stream
      · subst same
        rw [Store.insert_tables_same] at among
        rcases mem_inserted among with before | new
        · exact backlog.fits other row before
        · rw [new]
          exact fits
      · rw [Store.insert_tables_other _ same] at among
        exact backlog.fits other row among
    · intro other otherEntry otherKnown row among conflict
      by_cases same : other = stream
      · subst same
        rw [Store.insert_tables_same] at among
        rcases mem_inserted among with before | new
        · exact backlog.keys other otherEntry otherKnown row before conflict
        · have text : otherEntry.id.text = entry.id.text := by
            simpa [new] using conflict.1
          rw [new, (backlog.consistent other).ordered.increasing.eq_of_id_eq otherKnown known
            (EntryId.text_injective text)]
      · rw [Store.insert_tables_other _ same] at among
        exact backlog.keys other otherEntry otherKnown row among conflict
  · constructor
    · exact ⟨fun _ => rfl, fun _ => id, fun _ _ => id, fun _ _ => .inl, tables⟩
    · rw [Store.insert_tables_same, inserted]
      split
      · rename_i conflict
        rcases conflict with ⟨other, among, conflict⟩
        rw [← backlog.keys stream entry known other among conflict]
        exact among
      · simp

theorem Store.Backlog.deliver (backlog : store.Backlog) (counts : StreamName → Nat) :
    Backlog { store with redis := fun stream => (store.redis stream).deliver (counts stream) } ∧
      store.Settles
        { store with redis := fun stream => (store.redis stream).deliver (counts stream) } := by
  have delivers (stream : StreamName) := (backlog.consistent stream).deliver (counts stream)
  constructor
  · exact ⟨delivers, backlog.fits, backlog.keys⟩
  · constructor
    · exact fun _ => rfl
    · simp [StreamState.deliver]
    · intro stream entry among
      rcases StreamState.mem_unfinished.mp among with ⟨known, pending | undelivered⟩
      · apply StreamState.mem_unfinished.mpr
        refine ⟨known, ?_⟩
        rcases StreamState.pending_deliver pending with before | ⟨other, handed, same⟩
        · exact .inl before
        · right
          have undelivered := (StreamState.not_delivered_of_mem_fresh handed).2
          rwa [StreamState.Delivered, same] at undelivered
      · exact StreamState.mem_unfinished.mpr
          ⟨known, .inr fun is => undelivered (StreamState.deliver_delivered is)⟩
    · intro stream entry among
      left
      rcases StreamState.mem_unfinished.mp among with ⟨known, pending | undelivered⟩
      · exact StreamState.mem_unfinished.mpr
          ⟨known, .inl (StreamState.deliver_pending pending)⟩
      · apply StreamState.mem_unfinished.mpr
        refine ⟨known, ?_⟩
        by_cases now : ((store.redis stream).deliver (counts stream)).Delivered entry
        · rcases (delivers stream).accounted known now with done | waiting
          · have before := (backlog.consistent stream).delivered_of_acknowledged
              (StreamState.deliver_acknowledged.mp done)
            exact absurd before undelivered
          · exact .inl waiting
        · exact .inr now
    · exact fun _ => List.Subset.refl _

end Calls

end BuranBrew.Telemetry

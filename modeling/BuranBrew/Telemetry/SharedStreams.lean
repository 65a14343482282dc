import BuranBrew.Telemetry.Archivers
import BuranBrew.Telemetry.Soundness

/-! # What the archivers may rely on

A stream only grows: what is gone stays gone, what is acknowledged stays so, and what is
pending for a consumer stays pending for it until it is acknowledged. Each command keeps
a stream sound.
-/

namespace BuranBrew.Telemetry

open Delivery

namespace SharedStream

variable {stream later last : SharedStream} {clock : Fin (2 ^ 63)} {fields : Fields}
  {count : Nat} {consumer owner : String} {id other : EntryId}
  {entry : Entry EntryId Fields}

/-! ## What the commands do to the group -/

theorem acknowledged_xAck {text : String} :
    (stream.xAck text).Acknowledged id ↔
      (∃ consumer, stream.Owned consumer id) ∧ id.text = text ∨ stream.Acknowledged id := by
  cases grouped : stream.group with
  | none => simp [Acknowledged, Owned, xAck, grouped]
  | some group =>
      simp [Acknowledged, Owned, xAck, grouped, SharedGroup.mem_acknowledge,
        SharedGroup.Waiting]

theorem owned_xAck {text : String} :
    (stream.xAck text).Owned consumer id ↔ stream.Owned consumer id ∧ id.text ≠ text := by
  cases grouped : stream.group with
  | none => simp [Owned, xAck, grouped]
  | some group => simp [Owned, xAck, grouped, SharedGroup.mem_pending_acknowledge]

theorem acknowledged_createGroup :
    stream.createGroup.Acknowledged id ↔ stream.Acknowledged id := by
  cases grouped : stream.group <;> simp [Acknowledged, createGroup, grouped]

theorem owned_createGroup :
    stream.createGroup.Owned consumer id ↔ stream.Owned consumer id := by
  cases grouped : stream.group <;> simp [Owned, createGroup, grouped]

@[simp] theorem createGroup_log : stream.createGroup.log = stream.log := by
  unfold createGroup
  split <;> rfl

theorem acknowledged_deliver :
    (stream.deliver consumer count).Acknowledged id ↔ stream.Acknowledged id := by
  cases grouped : stream.group <;> simp [Acknowledged, deliver, grouped]

theorem owned_deliver :
    (stream.deliver consumer count).Owned owner id ↔
      stream.Owned owner id ∨
        (∃ entry ∈ stream.fresh count, entry.id = id) ∧ owner = consumer := by
  cases grouped : stream.group with
  | none => simp [Owned, deliver, fresh, grouped]
  | some group => simp [Owned, deliver, grouped, SharedGroup.mem_pending_deliver]

@[simp] theorem deliver_log : (stream.deliver consumer count).log = stream.log := rfl

@[simp] theorem xAck_log {text : String} : (stream.xAck text).log = stream.log := rfl

/-! ## Growth -/

structure Grows (stream later : SharedStream) : Prop where
  appended : stream.log.appended <+: later.log.appended
  gone : stream.log.gone ⊆ later.log.gone
  acknowledged : ∀ id, stream.Acknowledged id → later.Acknowledged id
  owned : ∀ consumer id, stream.Owned consumer id →
    later.Owned consumer id ∨ later.Acknowledged id

namespace Grows

theorem refl (stream : SharedStream) : stream.Grows stream where
  appended := List.prefix_refl _
  gone := List.Subset.refl _
  acknowledged _ := id
  owned _ _ := .inl

theorem xAdd : stream.Grows (stream.xAdd clock fields count) where
  appended := List.prefix_append _ _
  gone _ among := TrimmedLog.gone_trim (TrimmedLog.gone_append among)
  acknowledged _ := id
  owned _ _ := .inl

theorem createGroup : stream.Grows stream.createGroup where
  appended := by simp
  gone := by simp
  acknowledged _ := acknowledged_createGroup.mpr
  owned _ _ owned := .inl (owned_createGroup.mpr owned)

theorem deliver : stream.Grows (stream.deliver consumer count) where
  appended := List.prefix_refl _
  gone := List.Subset.refl _
  acknowledged _ := acknowledged_deliver.mpr
  owned _ _ owned := .inl (owned_deliver.mpr (.inl owned))

theorem xAck {text : String} : stream.Grows (stream.xAck text) where
  appended := List.prefix_refl _
  gone := List.Subset.refl _
  acknowledged _ acknowledged := acknowledged_xAck.mpr (.inr acknowledged)
  owned consumer id owned := by
    by_cases same : id.text = text
    · exact .inr (acknowledged_xAck.mpr (.inl ⟨⟨consumer, owned⟩, same⟩))
    · exact .inl (owned_xAck.mpr ⟨owned, same⟩)

end Grows

/-! ## Soundness -/

/-- The entry has its row, needs none, or was trimmed. -/
def Done (name : StreamName) (entry : Entry EntryId Fields) (stream : SharedStream)
    (table : List (Row name)) : Prop :=
  Settled name entry table ∨ entry ∈ stream.log.gone

structure Sound (name : StreamName) (stream : SharedStream) (table : List (Row name)) :
    Prop where
  ordered : Ordered stream.log.appended
  keeps : stream.log.Keeps streamMaxLen
  accounts : ∀ group ∈ stream.group, group.Accounts stream.log
  distinct : table.Pairwise fun row other => ¬row.Conflicts other
  rows : ∀ row ∈ table, ∃ entry ∈ stream.log.appended, row = rowFor name entry
  settled : ∀ entry ∈ stream.log.appended, stream.Acknowledged entry.id →
    stream.Done name entry table

/-- What a reply shows of an entry: all of it, or the id of one that was trimmed. -/
def Shows (stream : SharedStream) (seen : Entry EntryId Fields) : Prop :=
  ∃ entry ∈ stream.log.appended, seen = entry ∨
    seen = ⟨entry.id, []⟩ ∧ entry ∈ stream.log.gone

theorem Shows.grow (shows : stream.Shows entry) (grows : stream.Grows later) :
    later.Shows entry := by
  rcases shows with ⟨original, among, whole | ⟨empty, gone⟩⟩
  · exact ⟨original, grows.appended.subset among, .inl whole⟩
  · exact ⟨original, grows.appended.subset among, .inr ⟨empty, grows.gone gone⟩⟩

theorem malformed_of_empty (name : StreamName) (id : EntryId) :
    Malformed name ⟨id, []⟩ := by
  cases name with
  | sensor =>
      change (Strconv.parseFloat "").2 ≠ none
      decide
  | control => rfl

variable {name : StreamName} {table grown : List (Row name)}

theorem Done.grow (done : stream.Done name entry table) (grows : stream.Grows later)
    (rows : table ⊆ grown) : later.Done name entry grown := by
  rcases done with (malformed | row) | gone
  · exact .inl (.inl malformed)
  · exact .inl (.inr (rows row))
  · exact .inr (grows.gone gone)

namespace Sound

theorem empty (name : StreamName) : Sound name {} [] where
  ordered := .nil
  keeps := .empty
  accounts := by simp
  distinct := List.Pairwise.nil
  rows := by simp
  settled := by simp

theorem eq_of_id_eq (sound : Sound name stream table) {other : Entry EntryId Fields}
    (among : entry ∈ stream.log.appended) (otherAmong : other ∈ stream.log.appended)
    (same : entry.id = other.id) : entry = other :=
  sound.ordered.increasing.eq_of_id_eq among otherAmong same

theorem known_of_acknowledged (sound : Sound name stream table)
    (acknowledged : stream.Acknowledged id) :
    ∃ entry ∈ stream.log.appended, entry.id = id := by
  rcases acknowledged with ⟨group, grouped, acknowledged⟩
  exact (sound.accounts group grouped).known id (.inr acknowledged)

theorem not_owned_of_acknowledged (sound : Sound name stream table)
    (acknowledged : stream.Acknowledged id) : ¬stream.Owned consumer id := by
  rcases acknowledged with ⟨group, grouped, acknowledged⟩
  rintro ⟨same, sameGrouped, pending⟩
  cases Option.mem_unique grouped sameGrouped
  exact (sound.accounts group grouped).apart id acknowledged ⟨consumer, pending⟩

theorem owner_unique (sound : Sound name stream table) (first : stream.Owned consumer id)
    (second : stream.Owned owner id) : consumer = owner := by
  rcases first with ⟨group, grouped, pending⟩
  rcases second with ⟨same, sameGrouped, samePending⟩
  cases Option.mem_unique grouped sameGrouped
  exact (sound.accounts group grouped).owner_unique pending samePending

theorem xAdd (sound : Sound name stream table) :
    Sound name (stream.xAdd clock fields count) table where
  ordered := sound.ordered.append_singleton (EntryId.lt_next _ _)
  keeps := sound.keeps.append.trim
  accounts group grouped :=
    ((sound.accounts group grouped).append (EntryId.lt_next _ _)).trim _ _
  distinct := sound.distinct
  rows row among := by
    rcases sound.rows row among with ⟨entry, old, same⟩
    exact ⟨entry, List.mem_append_left _ old, same⟩
  settled entry among acknowledged := by
    have old : entry ∈ stream.log.appended := by
      rcases List.mem_append.mp among with before | added
      · exact before
      · rw [List.mem_singleton.mp added] at acknowledged
        rcases sound.known_of_acknowledged acknowledged with ⟨other, known, same⟩
        have below := sound.ordered.le_lastId known
        rw [same] at below
        exact absurd below (EntryId.lt_next clock _).not_ge
    exact (sound.settled entry old acknowledged).grow .xAdd (List.Subset.refl _)

theorem createGroup (sound : Sound name stream table) :
    Sound name stream.createGroup table where
  ordered := by simpa using sound.ordered
  keeps := by simpa using sound.keeps
  accounts group grouped := by
    unfold SharedStream.createGroup at grouped ⊢
    split at grouped
    · cases grouped
      exact .start sound.ordered
    · exact sound.accounts group grouped
  distinct := sound.distinct
  rows := by simpa using sound.rows
  settled entry among acknowledged := by
    rw [createGroup_log] at among
    have done := sound.settled entry among (acknowledged_createGroup.mp acknowledged)
    exact done.grow .createGroup (List.Subset.refl _)

theorem deliver (sound : Sound name stream table) :
    Sound name (stream.deliver consumer count) table where
  ordered := sound.ordered
  keeps := sound.keeps
  accounts group grouped := by
    rcases Option.map_eq_some_iff.mp grouped with ⟨before, beforeGrouped, rfl⟩
    rw [fresh, beforeGrouped]
    exact (sound.accounts before beforeGrouped).deliver sound.ordered consumer count
  distinct := sound.distinct
  rows := sound.rows
  settled entry among acknowledged :=
    sound.settled entry among (acknowledged_deliver.mp acknowledged)

theorem xAck (sound : Sound name stream table)
    (done : ∀ entry ∈ stream.log.appended, entry.id = id → stream.Done name entry table) :
    Sound name (stream.xAck id.text) table where
  ordered := sound.ordered
  keeps := sound.keeps
  accounts group grouped := by
    rcases Option.map_eq_some_iff.mp grouped with ⟨before, beforeGrouped, rfl⟩
    exact (sound.accounts before beforeGrouped).acknowledge _
  distinct := sound.distinct
  rows := sound.rows
  settled entry among acknowledged := by
    rcases acknowledged_xAck.mp acknowledged with ⟨_, same⟩ | before
    · exact done entry among (EntryId.text_injective same)
    · exact sound.settled entry among before

theorem conflict (sound : Sound name stream table) (known : entry ∈ stream.log.appended)
    {row : Row name} (among : row ∈ table) (conflict : (rowFor name entry).Conflicts row) :
    row = rowFor name entry := by
  rcases sound.rows row among with ⟨other, otherKnown, rfl⟩
  have same := conflict.1
  simp only [rowFor_eventId] at same
  rw [sound.eq_of_id_eq known otherKnown (EntryId.text_injective same)]

theorem rowFor_mem_inserted (sound : Sound name stream table)
    (known : entry ∈ stream.log.appended) :
    rowFor name entry ∈ inserted (rowFor name entry) table := by
  unfold inserted
  split
  · rename_i conflict
    rcases conflict with ⟨other, among, conflict⟩
    rw [← sound.conflict known among conflict]
    exact among
  · simp

theorem insert (sound : Sound name stream table) (known : entry ∈ stream.log.appended) :
    Sound name stream (inserted (rowFor name entry) table) where
  ordered := sound.ordered
  keeps := sound.keeps
  accounts := sound.accounts
  distinct := by
    unfold inserted
    split
    · exact sound.distinct
    · rename_i free
      apply List.pairwise_append.mpr
      refine ⟨sound.distinct, List.pairwise_singleton _ _, ?_⟩
      intro other among row same conflict
      rw [List.mem_singleton.mp same] at conflict
      exact free ⟨other, among, conflict.1.symm, conflict.2.symm⟩
  rows row among := by
    rcases mem_inserted among with before | new
    · exact sound.rows row before
    · exact ⟨entry, known, new⟩
  settled other among acknowledged :=
    (sound.settled other among acknowledged).grow (.refl _) (subset_inserted _ _)

end Sound

end SharedStream

end BuranBrew.Telemetry

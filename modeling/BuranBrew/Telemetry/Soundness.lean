import BuranBrew.Telemetry.Records

/-! # What the stores agree on

The rows of a table come from entries of its stream, what has been acknowledged has
its row or is malformed, and acknowledgements follow the order of the stream. Every
call of the archiver keeps it so, whether it fails or not.
-/

namespace BuranBrew.Telemetry

open Delivery

/-- The entry has its row, or none is due. -/
def Settled (stream : StreamName) (entry : Entry EntryId Fields)
    (table : List (Row stream)) : Prop :=
  Malformed stream entry ∨ rowFor stream entry ∈ table

structure Sound (stream : StreamName) (state : StreamState) (table : List (Row stream)) :
    Prop where
  consistent : state.Consistent
  distinct : table.Pairwise fun row other => ¬row.Conflicts other
  rows : ∀ row ∈ table, ∃ entry ∈ state.entries, row = rowFor stream entry
  settled : ∀ entry ∈ state.entries, state.Acknowledged entry → Settled stream entry table
  inOrder : ∀ entry ∈ state.entries,
    state.Acknowledged entry ∨ rowFor stream entry ∈ table → state.Preceded entry

variable {stream : StreamName} {state : StreamState} {table : List (Row stream)}
  {entry : Entry EntryId Fields}

namespace Sound

theorem empty (stream : StreamName) : Sound stream {} [] where
  consistent := .empty
  distinct := List.Pairwise.nil
  rows := by simp
  settled := by simp
  inOrder := by simp

theorem eq_of_rowFor_eq (sound : Sound stream state table) {other : Entry EntryId Fields}
    (among : entry ∈ state.entries) (otherAmong : other ∈ state.entries)
    (same : entry.id.text = other.id.text) : entry = other :=
  sound.consistent.ordered.increasing.eq_of_id_eq among otherAmong
    (EntryId.text_injective same)

theorem xAdd (sound : Sound stream state table) (clock : Fin (2 ^ 63)) (fields : Fields) :
    Sound stream (state.xAdd clock fields) table := by
  have advances := StreamState.Advances.xAdd state clock fields
  have consistent := sound.consistent.xAdd clock fields
  -- The id of the new entry is on no earlier entry, acknowledged or archived.
  have new (entry : Entry EntryId Fields) (among : entry ∈ (state.xAdd clock fields).entries)
      (other : Entry EntryId Fields) (old : other ∈ state.entries)
      (same : other.id = entry.id) : entry ∈ state.entries := by
    rcases List.mem_append.mp among with before | added
    · exact before
    · rw [List.mem_singleton.mp added] at same
      have below := sound.consistent.ordered.le_lastId old
      rw [same] at below
      exact absurd below (EntryId.lt_next clock _).not_ge
  have archived (entry : Entry EntryId Fields)
      (among : entry ∈ (state.xAdd clock fields).entries)
      (row : rowFor stream entry ∈ table) : entry ∈ state.entries := by
    rcases sound.rows _ row with ⟨other, old, same⟩
    apply new entry among other old
    apply EntryId.text_injective
    simpa using congrArg Row.eventId same.symm
  have acknowledged (entry : Entry EntryId Fields)
      (among : entry ∈ (state.xAdd clock fields).entries)
      (acknowledged : state.Acknowledged entry) : entry ∈ state.entries := by
    rcases sound.consistent.acknowledged_known acknowledged with ⟨other, old, same⟩
    exact new entry among other old same
  constructor
  · exact consistent
  · exact sound.distinct
  · intro row among
    rcases sound.rows row among with ⟨entry, old, same⟩
    exact ⟨entry, advances.entries.subset old, same⟩
  · intro entry among done
    exact sound.settled entry (acknowledged entry among done) done
  · intro entry among processed
    have old : entry ∈ state.entries := by
      rcases processed with done | row
      · exact acknowledged entry among done
      · exact archived entry among row
    exact (sound.inOrder entry old processed).advance advances consistent old

theorem createGroup (sound : Sound stream state table) :
    Sound stream state.createGroup table where
  consistent := sound.consistent.createGroup
  distinct := sound.distinct
  rows := by
    rw [StreamState.createGroup_entries]
    exact sound.rows
  settled := by
    simp only [StreamState.createGroup_entries, StreamState.createGroup_acknowledged]
    exact sound.settled
  inOrder := by
    simp only [StreamState.Preceded, StreamState.createGroup_entries,
      StreamState.createGroup_acknowledged]
    exact sound.inOrder

theorem deliver (sound : Sound stream state table) (count : Nat) :
    Sound stream (state.deliver count) table where
  consistent := sound.consistent.deliver count
  distinct := sound.distinct
  rows := sound.rows
  settled entry among acknowledged :=
    sound.settled entry among (StreamState.deliver_acknowledged.mp acknowledged)
  inOrder := by
    simp only [StreamState.Preceded, StreamState.deliver_acknowledged]
    exact sound.inOrder

/-- An entry may be acknowledged once it is settled and everything before it is. -/
theorem xAck (sound : Sound stream state table) (known : entry ∈ state.entries)
    (settled : Settled stream entry table) (preceded : state.Preceded entry) :
    Sound stream (state.xAck entry.id.text) table := by
  have advances := StreamState.Advances.xAck state entry.id.text
  have consistent := sound.consistent.xAck entry.id.text
  have choose (other : Entry EntryId Fields) (among : other ∈ state.entries)
      (acknowledged : (state.xAck entry.id.text).Acknowledged other) :
      other = entry ∨ state.Acknowledged other := by
    rcases StreamState.acknowledged_xAck.mp acknowledged with ⟨_, same⟩ | before
    · exact .inl (sound.eq_of_rowFor_eq among known same)
    · exact .inr before
  constructor
  · exact consistent
  · exact sound.distinct
  · exact sound.rows
  · intro other among acknowledged
    rcases choose other among acknowledged with rfl | before
    · exact settled
    · exact sound.settled other among before
  · intro other among processed
    have before : state.Preceded other := by
      rcases processed with acknowledged | row
      · rcases choose other among acknowledged with rfl | before
        · exact preceded
        · exact sound.inOrder other among (.inl before)
      · exact sound.inOrder other among (.inr row)
    exact before.advance advances consistent among

end Sound

/-- A row that conflicts with the row of an entry is that row already. -/
theorem Sound.conflict (sound : Sound stream state table) (known : entry ∈ state.entries)
    {row : Row stream} (among : row ∈ table) (conflict : (rowFor stream entry).Conflicts row) :
    row = rowFor stream entry := by
  rcases sound.rows row among with ⟨other, otherKnown, rfl⟩
  have same := conflict.1
  simp only [rowFor_eventId] at same
  rw [sound.eq_of_rowFor_eq known otherKnown same]

theorem subset_inserted (row : Row stream) (table : List (Row stream)) :
    table ⊆ inserted row table := by
  unfold inserted
  split
  · exact List.Subset.refl _
  · exact List.subset_append_left _ _

theorem mem_inserted {row other : Row stream} (among : other ∈ inserted row table) :
    other ∈ table ∨ other = row := by
  unfold inserted at among
  split at among
  · exact .inl among
  · simpa using among

namespace Sound

theorem rowFor_mem_inserted (sound : Sound stream state table)
    (known : entry ∈ state.entries) :
    rowFor stream entry ∈ inserted (rowFor stream entry) table := by
  unfold inserted
  split
  · rename_i conflict
    rcases conflict with ⟨other, among, conflict⟩
    rw [← sound.conflict known among conflict]
    exact among
  · simp

theorem insert (sound : Sound stream state table) (known : entry ∈ state.entries)
    (preceded : state.Preceded entry) :
    Sound stream state (inserted (rowFor stream entry) table) where
  consistent := sound.consistent
  distinct := by
    unfold inserted
    split
    · exact sound.distinct
    · rename_i free
      apply List.pairwise_append.mpr
      refine ⟨sound.distinct, List.pairwise_singleton _ _, ?_⟩
      intro other among row same conflict
      rw [List.mem_singleton.mp same] at conflict
      exact free ⟨other, among, conflict.1.symm, conflict.2.symm⟩
  rows := by
    intro row among
    rcases mem_inserted among with before | new
    · exact sound.rows row before
    · exact ⟨entry, known, new⟩
  settled := by
    intro other among acknowledged
    rcases sound.settled other among acknowledged with malformed | row
    · exact .inl malformed
    · exact .inr (subset_inserted _ _ row)
  inOrder := by
    intro other among processed
    rcases processed with acknowledged | row
    · exact sound.inOrder other among (.inl acknowledged)
    · rcases mem_inserted row with before | new
      · exact sound.inOrder other among (.inr before)
      · have same : other.id.text = entry.id.text := by
          simpa using congrArg Row.eventId new
        rw [sound.eq_of_rowFor_eq among known same]
        exact preceded

end Sound

end BuranBrew.Telemetry

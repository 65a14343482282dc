import BuranBrew.Telemetry.DrainLoop

/-! # Archiving is exactly-once in effect

A replay recomputes the key of the row from the entry alone, and an entry is
acknowledged only after its row is in the table.
-/

namespace BuranBrew.Telemetry

open Delivery Execution

def Store.rowsOf (stream : StreamName) (entry : Entry EntryId Fields) (store : Store) :
    List (Row stream) :=
  (store.tables stream).filter fun row => row.eventId = entry.id.text

structure ExactlyOnce (stream : StreamName) (store : Store) : Prop where
  atMostOne : ∀ entry ∈ store.entries stream, (store.rowsOf stream entry).length ≤ 1
  acknowledged : ∀ entry ∈ store.entries stream, (store.redis stream).Acknowledged entry →
    store.rowsOf stream entry = [rowFor stream entry] ∨ Malformed stream entry
  delivered : ∀ entry ∈ store.entries stream, (store.redis stream).Delivered entry →
    (store.redis stream).Acknowledged entry ∨ (store.redis stream).Pending entry

variable {stream : StreamName} {store : Store} {entry : Entry EntryId Fields}

theorem Store.Sound.eq_rowFor (sound : store.Sound) (known : entry ∈ store.entries stream)
    {row : Row stream} (among : row ∈ store.rowsOf stream entry) :
    row = rowFor stream entry := by
  rcases List.mem_filter.mp among with ⟨among, same⟩
  rcases (sound stream).rows row among with ⟨other, otherKnown, rfl⟩
  simp only [rowFor_eventId, decide_eq_true_eq] at same
  rw [(sound stream).eq_of_rowFor_eq otherKnown known same]

theorem Store.Sound.rowsOf_cases (sound : store.Sound)
    (known : entry ∈ store.entries stream) :
    store.rowsOf stream entry = [] ∨ store.rowsOf stream entry = [rowFor stream entry] := by
  have same (row : Row stream) (among : row ∈ store.rowsOf stream entry) :=
    sound.eq_rowFor known among
  have distinct := (sound stream).distinct.filter fun row => row.eventId = entry.id.text
  change (store.rowsOf stream entry).Pairwise _ at distinct
  rcases shape : store.rowsOf stream entry with _ | ⟨first, _ | ⟨second, rest⟩⟩
  · exact .inl rfl
  · right
    rw [same first (by simp [shape])]
  · rw [shape] at same distinct
    have conflict := (List.pairwise_cons.mp distinct).1 second (by simp)
    rw [same first (by simp), same second (by simp)] at conflict
    exact absurd ⟨rfl, rfl⟩ conflict

theorem Store.Sound.exactlyOnce (sound : store.Sound) (stream : StreamName) :
    ExactlyOnce stream store where
  atMostOne entry known := by
    rcases sound.rowsOf_cases known with none | one
    · simp [none]
    · simp [one]
  acknowledged entry known acknowledged := by
    rcases (sound stream).settled entry known acknowledged with malformed | archived
    · exact .inr malformed
    · left
      rcases sound.rowsOf_cases known with none | one
      · have among : rowFor stream entry ∈ store.rowsOf stream entry :=
          List.mem_filter.mpr ⟨archived, by simp⟩
        simp [none] at among
      · exact one
  delivered entry known delivered := (sound stream).consistent.accounted known delivered

/-- A reading whose first insertions take effect and report failure. -/
def Environment.flaky : Environment :=
  { Environment.calm with
    produces := fun world =>
      if world.past.isEmpty then [⟨.sensor, 1, [("metric", "gravity"), ("value", "1.05")]⟩]
      else []
    execInsert := fun world _ _ => if world.past.length < 16 then .failed true else .done }

theorem archiving_is_exactly_once (environment : Environment) (lifetimes : List Nat)
    (stream : StreamName) :
    ∀ moment ∈ (Archiver.run environment lifetimes).moments, ExactlyOnce stream moment :=
  fun moment among => (Archiver.run_good environment lifetimes moment among).exactlyOnce stream

theorem archiving_is_exactly_once_flaky :
    ExactlyOnce .sensor (Archiver.run .flaky [3, 4]).store :=
  archiving_is_exactly_once .flaky [3, 4] .sensor _ List.mem_cons_self

end BuranBrew.Telemetry

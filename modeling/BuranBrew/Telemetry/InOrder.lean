import BuranBrew.Telemetry.DrainLoop
import BuranBrew.Telemetry.ExactlyOnce

/-! # Archiving is in order

New entries are followed only while nothing is pending, so that no entry is archived
before those that precede it in its stream.
-/

namespace BuranBrew.Telemetry

open Delivery Execution

/-- The entry has a row, or it has been acknowledged as malformed. -/
def Processed (stream : StreamName) (store : Store) (entry : Entry EntryId Fields) : Prop :=
  store.rowsOf stream entry ≠ [] ∨
    Malformed stream entry ∧ (store.redis stream).Acknowledged entry

/-- What has been processed is a prefix of the stream, whose ids increase. -/
def InOrder (stream : StreamName) (store : Store) : Prop :=
  Increasing (store.entries stream) ∧
    ∃ done rest, store.entries stream = done ++ rest ∧
      (∀ entry ∈ done, Processed stream store entry) ∧
        ∀ entry ∈ rest, ¬Processed stream store entry

variable {stream : StreamName} {store : Store} {entry : Entry EntryId Fields}

theorem Store.Sound.preceded (sound : store.Sound) (known : entry ∈ store.entries stream)
    (processed : Processed stream store entry) : (store.redis stream).Preceded entry := by
  apply (sound stream).inOrder entry known
  rcases processed with archived | dropped
  · right
    rcases List.exists_mem_of_ne_nil _ archived with ⟨row, among⟩
    rw [← sound.eq_rowFor known among]
    exact List.mem_of_mem_filter among
  · exact .inl dropped.2

theorem Store.Sound.processed (sound : store.Sound) (known : entry ∈ store.entries stream)
    (acknowledged : (store.redis stream).Acknowledged entry) :
    Processed stream store entry := by
  rcases (sound stream).settled entry known acknowledged with malformed | archived
  · exact .inr ⟨malformed, acknowledged⟩
  · left
    apply List.ne_nil_of_mem
    exact List.mem_filter.mpr ⟨archived, by simp⟩

theorem Store.Sound.inOrder (sound : store.Sound) (stream : StreamName) :
    InOrder stream store := by
  have increasing := (sound stream).consistent.ordered.increasing
  refine ⟨increasing, increasing.exists_prefix ?_⟩
  intro first firstKnown second secondKnown before processed
  apply sound.processed firstKnown
  exact sound.preceded secondKnown processed first firstKnown before

/-- The loop of `main` of a process that comes after others is at its head. -/
def AtHead (environment : Environment) (lifetimes : List Nat) (cursor : Cursor)
    (world : World) : Prop :=
  ∃ fuel, (Archiver.main environment fuel).run (Archiver.run environment lifetimes) =
    .ok cursor world

theorem archiving_is_in_order (environment : Environment) (lifetimes : List Nat)
    (stream : StreamName) :
    (∀ world, AtHead environment lifetimes .live world →
        ∀ entry, ¬(world.store.redis stream).Pending entry) ∧
      ∀ moment ∈ (Archiver.run environment lifetimes).moments, InOrder stream moment := by
  have good := Archiver.run_good environment lifetimes
  constructor
  · rintro world ⟨fuel, reached⟩ entry
    have following := Archiver.main_ensures environment fuel _ good
    rw [reached] at following
    exact following.2 rfl stream entry
  · exact fun moment among => (good moment among).inOrder stream

theorem archiving_is_in_order_flaky :
    InOrder .sensor (Archiver.run .flaky [3, 4]).store :=
  (archiving_is_in_order .flaky [3, 4] .sensor).2 _ List.mem_cons_self

end BuranBrew.Telemetry

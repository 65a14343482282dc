import BuranBrew.Telemetry.Soundness

/-! # Rules for the code of the archiver

What a statement does to the stores when it succeeds, and what it leaves sound
however it ends.
-/

namespace BuranBrew.Telemetry

open Delivery Execution

namespace Store

def Sound (store : Store) : Prop :=
  ∀ stream, Telemetry.Sound stream (store.redis stream) (store.tables stream)

/-- Nothing is lost and nothing is handed out. -/
structure Advances (store later : Store) : Prop where
  redis : ∀ stream, (store.redis stream).Advances (later.redis stream)
  tables : ∀ stream, store.tables stream ⊆ later.tables stream

variable {store later last : Store} {stream : StreamName}

theorem Advances.refl (store : Store) : store.Advances store where
  redis _ := .refl _
  tables _ := List.Subset.refl _

theorem Advances.trans (first : store.Advances later) (second : later.Advances last) :
    store.Advances last where
  redis stream := (first.redis stream).trans (second.redis stream)
  tables stream := List.Subset.trans (first.tables stream) (second.tables stream)

@[simp] theorem updateStream_redis_same (update : StreamState → StreamState) :
    (store.updateStream stream update).redis stream = update (store.redis stream) :=
  Function.update_self _ _ _

@[simp] theorem updateStream_redis_other {update : StreamState → StreamState}
    {other : StreamName} (different : other ≠ stream) :
    (store.updateStream stream update).redis other = store.redis other :=
  Function.update_of_ne different _ _

@[simp] theorem insert_tables_same (row : Row stream) :
    (store.insert row).tables stream = inserted row (store.tables stream) :=
  Function.update_self _ _ _

@[simp] theorem insert_tables_other (row : Row stream) {other : StreamName}
    (different : other ≠ stream) : (store.insert row).tables other = store.tables other :=
  Function.update_of_ne different _ _

theorem Sound.updateStream (sound : store.Sound) {update : StreamState → StreamState}
    (keeps : Telemetry.Sound stream (update (store.redis stream)) (store.tables stream)) :
    (store.updateStream stream update).Sound := by
  intro other
  by_cases same : other = stream
  · subst same
    rw [updateStream_redis_same]
    exact keeps
  · rw [updateStream_redis_other same]
    exact sound other

theorem Advances.updateStream {update : StreamState → StreamState}
    (advances : (store.redis stream).Advances (update (store.redis stream))) :
    store.Advances (store.updateStream stream update) where
  redis := by
    intro other
    by_cases same : other = stream
    · subst same
      rw [updateStream_redis_same]
      exact advances
    · rw [updateStream_redis_other same]
      exact .refl _
  tables _ := List.Subset.refl _

theorem Sound.insert (sound : store.Sound) {row : Row stream}
    (keeps : Telemetry.Sound stream (store.redis stream)
      (inserted row (store.tables stream))) :
    (store.insert row).Sound := by
  intro other
  by_cases same : other = stream
  · subst same
    rw [insert_tables_same]
    exact keeps
  · rw [insert_tables_other row same]
    exact sound other

theorem Advances.insert (row : Row stream) : store.Advances (store.insert row) where
  redis _ := .refl _
  tables := by
    intro other
    by_cases same : other = stream
    · subst same
      rw [insert_tables_same]
      exact subset_inserted _ _
    · rw [insert_tables_other row same]
      exact List.Subset.refl _

theorem produce_sound (sound : store.Sound) (productions : List Production) :
    (productions.foldl Store.produce store).Sound ∧
      store.Advances (productions.foldl Store.produce store) := by
  induction productions generalizing store with
  | nil => exact ⟨sound, .refl store⟩
  | cons production productions induction =>
      have produced : (store.produce production).Sound :=
        sound.updateStream ((sound _).xAdd production.clock production.fields)
      have advances : store.Advances (store.produce production) :=
        .updateStream (.xAdd _ production.clock production.fields)
      rcases induction produced with ⟨later, further⟩
      exact ⟨later, advances.trans further⟩

end Store

/-! ## Worlds -/

def World.Good (world : World) : Prop :=
  ∀ moment ∈ world.moments, moment.Sound

theorem World.Good.store {world : World} (good : world.Good) : world.store.Sound :=
  good _ List.mem_cons_self

theorem World.Good.updated {world : World} (good : world.Good) {update : Store → Store}
    (sound : (update world.store).Sound) : (world.updated update).Good := by
  intro moment among
  rcases List.mem_cons.mp among with now | before
  · rw [now]
    exact sound
  · exact good moment before

def After (base : Store) (world : World) : Prop :=
  world.Good ∧ base.Advances world.store

namespace After

variable {base : Store} {world : World}

theorem refl (good : world.Good) : After world.store world := ⟨good, .refl _⟩

theorem updated (after : After base world) {update : Store → Store}
    (sound : (update world.store).Sound)
    (advances : world.store.Advances (update world.store)) :
    After base (world.updated update) :=
  ⟨after.1.updated sound, after.2.trans advances⟩

theorem advance (after : After base world) {earlier : Store}
    (advances : earlier.Advances base) : After earlier world :=
  ⟨after.1, advances.trans after.2⟩

end After

namespace Archiver

variable (environment : Environment)

theorem point_ensures (base : Store) :
    Ensures (After base) (point environment) (fun _ => After base)
      (fun _ => World.Good) := by
  intro world after
  rcases Store.produce_sound after.1.store (environment.produces world) with
    ⟨sound, advances⟩
  have produced : After base
      (world.updated ((environment.produces world).foldl Store.produce)) :=
    after.updated sound advances
  simp only [point, EStateM.run_bind, EStateM.run_get, EStateM.run_set]
  cases environment.crashes world with
  | false => exact produced
  | true => exact produced.1

variable {base : Store}

/-- A call whose effect is sound; a call that succeeds has taken effect. -/
theorem call_ensures {outcome : World → CallOutcome} {effect : Store → Store}
    (sound : ∀ store, store.Sound → base.Advances store →
      (effect store).Sound ∧ store.Advances (effect store)) :
    Ensures (After base) (call environment outcome effect)
      (fun error world => After base world ∧ (error = none →
        ∃ before, before.Sound ∧ base.Advances before ∧ world.store = effect before))
      (fun _ => World.Good) := by
  apply Ensures.bind (point_ensures environment base)
  intro _ world after
  have effective := sound world.store after.1.store after.2
  have updated := after.updated effective.1 effective.2
  simp only [EStateM.run_bind, EStateM.run_get]
  cases outcome world with
  | done => exact ⟨updated, fun _ => ⟨world.store, after.1.store, after.2, rfl⟩⟩
  | failed tookEffect =>
      cases tookEffect with
      | false => exact ⟨after, by simp [CallOutcome.error]⟩
      | true => exact ⟨updated, by simp [CallOutcome.error]⟩

variable {stream : StreamName} {entry : Entry EntryId Fields}

theorem insert_ensures (known : entry ∈ base.entries stream)
    (preceded : (base.redis stream).Preceded entry) :
    Ensures (After base)
      (insert environment stream entry.id.text (.ofFields entry.content))
      (fun error world => After base world ∧
        (error = none → Settled stream entry (world.store.tables stream)))
      (fun _ => World.Good) := by
  rw [insert_eq]
  split
  · rename_i malformed
    exact Ensures.pure fun world after => ⟨after, fun _ => .inl malformed⟩
  · have inserts (store : Store) (storeSound : store.Sound) (advances : base.Advances store) :
        (store.insert (rowFor stream entry)).Sound ∧
          store.Advances (store.insert (rowFor stream entry)) := by
      have known := (advances.redis stream).entries.subset known
      have preceded := preceded.advance (advances.redis stream)
        (storeSound stream).consistent ‹_›
      exact ⟨storeSound.insert ((storeSound stream).insert known preceded), .insert _⟩
    apply (call_ensures environment inserts).returning
    intro error world outcome
    rcases outcome with ⟨after, effective⟩
    refine ⟨after, fun success => .inr ?_⟩
    rcases effective success with ⟨before, beforeSound, advances, same⟩
    rw [same, Store.insert_tables_same]
    exact (beforeSound stream).rowFor_mem_inserted
      ((advances.redis stream).entries.subset known)

theorem xAck_ensures (known : entry ∈ base.entries stream)
    (delivered : (base.redis stream).Delivered entry)
    (preceded : (base.redis stream).Preceded entry)
    (settled : Settled stream entry (base.tables stream)) :
    Ensures (After base) (xAck environment stream entry.id.text)
      (fun error world => After base world ∧ (error = none →
        (world.store.redis stream).Acknowledged entry ∧
          ¬(world.store.redis stream).Pending entry))
      (fun _ => World.Good) := by
  have acknowledges (store : Store) (sound : store.Sound) (advances : base.Advances store) :
      (store.updateStream stream (.xAck entry.id.text)).Sound ∧
        store.Advances (store.updateStream stream (.xAck entry.id.text)) := by
    have known := (advances.redis stream).entries.subset known
    have preceded := preceded.advance (advances.redis stream) (sound stream).consistent ‹_›
    have settled : Settled stream entry (store.tables stream) :=
      settled.imp id fun row => advances.tables stream row
    exact ⟨sound.updateStream ((sound stream).xAck known settled preceded),
      .updateStream (.xAck _ _)⟩
  apply (call_ensures environment acknowledges).returning
  intro error world outcome
  rcases outcome with ⟨after, effective⟩
  refine ⟨after, fun success => ?_⟩
  rcases effective success with ⟨before, sound, advances, same⟩
  have delivered := (advances.redis stream).delivered entry delivered
  have accounted := (sound stream).consistent.accounted
    ((advances.redis stream).entries.subset known) delivered
  rw [same, Store.updateStream_redis_same, StreamState.acknowledged_xAck,
    StreamState.pending_xAck]
  constructor
  · rcases accounted with done | waiting
    · exact .inr done
    · exact .inl ⟨waiting, rfl⟩
  · simp

end Archiver

end BuranBrew.Telemetry

import BuranBrew.Telemetry.ArchiverRules

/-! # Rules for the loops of the archiver

One entry at a time, then a batch over both streams, then the loop of `main`. New
entries are followed only while nothing is pending, so every batch continues where
the acknowledgements end.
-/

namespace BuranBrew.Telemetry

open Delivery Execution

def Cleared (stream : StreamName) (entry : Entry EntryId Fields) (store : Store) : Prop :=
  (store.redis stream).Acknowledged entry ∧ ¬(store.redis stream).Pending entry

def Idle (store : Store) : Prop :=
  ∀ stream entry, ¬(store.redis stream).Pending entry

variable {base later : Store} {stream : StreamName} {entry : Entry EntryId Fields}

theorem Cleared.advance (cleared : Cleared stream entry base)
    (advances : base.Advances later) : Cleared stream entry later :=
  ⟨(advances.redis stream).acknowledged entry cleared.1,
    fun pending => cleared.2 ((advances.redis stream).pending entry pending)⟩

theorem Idle.advance (idle : Idle base) (advances : base.Advances later) : Idle later :=
  fun stream entry pending => idle stream entry ((advances.redis stream).pending entry pending)

namespace Archiver

variable (environment : Environment)

/-- The inner loop of `step`: without an error, the whole batch is cleared. -/
theorem archive_ensures {batch : List (Entry EntryId Fields)} (n : Nat)
    (ready : (base.redis stream).Ready batch) :
    Ensures (After base) (archive environment stream n (batch.map message))
      (fun result world => After base world ∧ (result.2 = none →
        result.1 = n + batch.length ∧ ∀ entry ∈ batch, Cleared stream entry world.store))
      (fun _ => World.Good) := by
  induction batch generalizing base n with
  | nil => exact Ensures.pure fun world after => ⟨after, by simp⟩
  | cons entry batch induction =>
      have known := ready.known entry List.mem_cons_self
      apply Ensures.bind (insert_ensures environment known ready.preceded)
      intro error
      cases error with
      | some error => exact Ensures.pure fun world settled => ⟨settled.1, by simp⟩
      | none =>
          apply Ensures.each
          intro start outcome
          rcases outcome with ⟨after, settled⟩
          have ready := ready.advance (after.2.redis stream)
            (after.1.store stream).consistent
          have acknowledges := xAck_ensures environment
            (ready.known entry List.mem_cons_self)
            (ready.delivered entry List.mem_cons_self) ready.preceded (settled rfl)
          apply Ensures.bind (acknowledges.startingAt (.refl after.1))
          intro error
          cases error with
          | some error =>
              exact Ensures.pure fun world cleared =>
                ⟨cleared.1.advance after.2, by simp⟩
          | none =>
              apply Ensures.each
              intro next outcome
              rcases outcome with ⟨further, cleared⟩
              have cleared := cleared rfl
              have ready := (ready.advance (further.2.redis stream)
                (further.1.store stream).consistent).tail cleared.1
              apply ((induction (n + 1) ready).startingAt (.refl further.1)).returning
              intro result world outcome
              rcases outcome with ⟨last, finished⟩
              refine ⟨last.advance (after.2.trans further.2), fun success => ?_⟩
              rcases finished success with ⟨count, others⟩
              constructor
              · rw [count, List.length_cons]
                omega
              · intro other among
                rcases List.mem_cons.mp among with rfl | rest
                · exact Cleared.advance cleared last.2
                · exact others other rest

theorem archiveAll_ensures {batch : StreamName → List (Entry EntryId Fields)} (n : Nat)
    (streams : List StreamName) (ready : ∀ stream, (base.redis stream).Ready (batch stream)) :
    Ensures (After base)
      (archiveAll environment n
        (streams.map fun stream => (stream, (batch stream).map message)))
      (fun result world => After base world ∧ (result.2 = none →
        result.1 = n + (streams.map fun stream => (batch stream).length).sum ∧
          ∀ stream ∈ streams, ∀ entry ∈ batch stream, Cleared stream entry world.store))
      (fun _ => World.Good) := by
  induction streams generalizing base n with
  | nil => exact Ensures.pure fun world after => ⟨after, by simp⟩
  | cons stream streams induction =>
      apply Ensures.bind (archive_ensures environment n (ready stream))
      intro result
      rcases result with ⟨archived, error⟩
      cases error with
      | some error => exact Ensures.pure fun world finished => ⟨finished.1, by simp⟩
      | none =>
          apply Ensures.each
          intro next outcome
          rcases outcome with ⟨after, finished⟩
          rcases finished rfl with ⟨count, cleared⟩
          have ready (stream : StreamName) := (ready stream).advance (after.2.redis stream)
            (after.1.store stream).consistent
          apply ((induction archived ready).startingAt (.refl after.1)).returning
          intro result world outcome
          rcases outcome with ⟨last, finished⟩
          refine ⟨last.advance after.2, fun success => ?_⟩
          rcases finished success with ⟨total, others⟩
          constructor
          · dsimp only at count
            rw [total, count, List.map_cons, List.sum_cons]
            omega
          · intro other among entry handed
            rcases List.mem_cons.mp among with rfl | rest
            · exact (cleared entry handed).advance last.2
            · exact others other rest entry handed

/-- What a reply leaves to do: whatever is pending is in it, or it is a replay that
is not empty. -/
structure Replied (cursor : Cursor) (batch : StreamName → List (Entry EntryId Fields))
    (store : Store) : Prop where
  ready : ∀ stream, (store.redis stream).Ready (batch stream)
  remaining : ∀ stream entry, (store.redis stream).Pending entry →
    (∃ other ∈ batch stream, other.id = entry.id) ∨
      cursor = .pending ∧ batch stream ≠ []

/-- When the reply is worked off, nothing is pending, unless it was a replay that was
not empty: such a replay is counted. -/
theorem Replied.idle {cursor : Cursor} {batch : StreamName → List (Entry EntryId Fields)}
    (replied : Replied cursor batch base) (advances : base.Advances later) {n : Nat}
    (count : n = 0 + (StreamName.all.map fun stream => (batch stream).length).sum)
    (drained : n = 0 ∨ cursor = .live)
    (cleared : ∀ stream ∈ StreamName.all, ∀ entry ∈ batch stream,
      ¬(later.redis stream).Pending entry) : Idle later := by
  intro stream entry pending
  have before := (advances.redis stream).pending entry pending
  rcases replied.remaining stream entry before with ⟨other, handed, same⟩ | replay
  · apply cleared stream (StreamName.mem_all stream) other handed
    exact pending.of_id_eq same.symm
  · rcases drained with none | live
    · have zero : ((StreamName.all.map fun stream => (batch stream).length).sum) = 0 := by
        omega
      have length := List.sum_eq_zero_iff_forall_eq_nat.mp zero (batch stream).length
        (List.mem_map_of_mem (StreamName.mem_all stream))
      exact replay.2 (List.length_eq_zero_iff.mp length)
    · exact absurd (live.symm.trans replay.1) (by decide)

/-- The cursor is `">"` only while nothing is pending. -/
def Following (cursor : Cursor) (world : World) : Prop :=
  world.Good ∧ (cursor = .live → Idle world.store)

theorem deliver_good {world : World} (good : world.Good) (cursor : Cursor) :
    (world.updated (deliver environment cursor world)).Good := by
  apply good.updated
  cases cursor with
  | pending => exact good.store
  | live => exact fun stream => (good.store stream).deliver _

theorem replied {world : World} {cursor : Cursor}
    (consistent : ∀ stream, (world.store.redis stream).Consistent)
    (follows : cursor = .live → Idle world.store) :
    Replied cursor (batch environment cursor world)
      (deliver environment cursor world world.store) := by
  cases cursor with
  | pending =>
      constructor
      · exact fun stream => .history (consistent stream) _
      · intro stream entry pending
        right
        refine ⟨rfl, fun empty => ?_⟩
        exact (consistent stream).not_pending (by decide) empty pending
  | live =>
      have idle := follows rfl
      constructor
      · exact fun stream => .fresh (consistent stream) (idle stream) _
      · intro stream entry pending
        left
        rcases StreamState.pending_deliver pending with before | new
        · exact absurd before (idle stream entry)
        · exact new

theorem Following.after {cursor : Cursor} {start world : World}
    (following : Following cursor start) (after : After start.store world) :
    Following cursor world :=
  ⟨after.1, fun live => (following.2 live).advance after.2⟩

theorem point_follows (cursor : Cursor) :
    Ensures (Following cursor) (point environment) (fun _ => Following cursor)
      (fun _ => World.Good) := by
  apply Ensures.each
  intro start following
  apply ((point_ensures environment start.store).startingAt (.refl following.1)).returning
  exact fun _ _ after => following.after after

theorem xReadGroup_ensures (cursor : Cursor) :
    Ensures (Following cursor) (xReadGroup environment cursor)
      (fun reply world => world.Good ∧
        match reply with
        | .ok res => ∃ batch, res = xStreams batch ∧ Replied cursor batch world.store
        | .error .redisNil => Idle world.store
        | .error _ => True)
      (fun _ => World.Good) := by
  apply Ensures.bind (point_follows environment cursor)
  intro _ world following
  have delivered : (world.updated (deliver environment cursor world)).Good :=
    deliver_good environment following.1 cursor
  have replied := replied environment
    (fun stream => (following.1.store stream).consistent) following.2
  simp only [EStateM.run_bind, EStateM.run_get]
  cases hasGroups world with
  | false => exact ⟨following.1, trivial⟩
  | true =>
      cases environment.readGroup world cursor with
      | done =>
          simp only [Bool.not_true, Bool.false_eq_true, if_false, EStateM.run_bind,
            EStateM.run_set]
          by_cases timeout : cursor = .live ∧
              (xStreams (batch environment cursor world)).all (·.2.isEmpty) = true
          · rw [if_pos timeout]
            refine ⟨delivered, fun stream entry pending => ?_⟩
            have empty := List.all_eq_true.mp timeout.2 _
              (List.mem_map_of_mem (StreamName.mem_all stream))
            simp only [List.isEmpty_iff, List.map_eq_nil_iff] at empty
            rcases replied.remaining stream entry pending with ⟨other, handed, _⟩ | replay
            · simp [empty] at handed
            · exact absurd (timeout.1.symm.trans replay.1) (by decide)
          · rw [if_neg timeout]
            exact ⟨delivered, _, rfl, replied⟩
      | failed tookEffect =>
          cases tookEffect with
          | false => exact ⟨following.1, trivial⟩
          | true => exact ⟨delivered, trivial⟩

/-- Without an error, a step that archived nothing or followed new entries leaves
nothing pending. -/
theorem step_ensures (cursor : Cursor) :
    Ensures (Following cursor) (step environment cursor)
      (fun result world => world.Good ∧
        (result.2 = none → result.1 = 0 ∨ cursor = .live → Idle world.store))
      (fun _ => World.Good) := by
  apply Ensures.bind (xReadGroup_ensures environment cursor)
  intro reply
  rcases reply with error | res
  · cases error with
    | redisNil => exact Ensures.pure fun world read => ⟨read.1, fun _ _ => read.2⟩
    | busyGroup | failed => exact Ensures.pure fun world read => ⟨read.1, by simp⟩
  · apply Ensures.each
    intro start outcome
    rcases outcome with ⟨good, batch, rfl, replied⟩
    apply ((archiveAll_ensures environment 0 StreamName.all replied.ready).startingAt
      (.refl good)).returning
    intro result world outcome
    rcases outcome with ⟨after, finished⟩
    refine ⟨after.1, fun success drained => ?_⟩
    rcases finished success with ⟨count, cleared⟩
    exact replied.idle after.2 count drained fun stream among entry handed =>
      (cleared stream among entry handed).2

theorem iteration_ensures (cursor : Cursor) :
    Ensures (Following cursor) (iteration environment cursor) Following
      (fun _ => World.Good) := by
  apply Ensures.bind (step_ensures environment cursor)
  intro result
  rcases result with ⟨n, error⟩
  cases error with
  | some error =>
      have replay : Ensures World.Good (sleep environment) (fun _ => Following .pending)
          (fun _ => World.Good) := by
        apply (point_follows environment .pending).strengthen
        exact fun _ good => ⟨good, by simp⟩
      apply Ensures.bind (replay.strengthen fun _ stepped => stepped.1)
      exact fun _ => Ensures.pure fun _ => id
  | none =>
      apply Ensures.ite
      · intro drained
        exact Ensures.pure fun world stepped =>
          ⟨stepped.1, fun _ => stepped.2 rfl (.inl drained.1)⟩
      · intro _
        exact Ensures.pure fun world stepped =>
          ⟨stepped.1, fun live => stepped.2 rfl (.inr live)⟩

theorem loop_ensures (fuel : Nat) (cursor : Cursor) :
    Ensures (Following cursor) (loop environment fuel cursor) Following
      (fun _ => World.Good) := by
  induction fuel generalizing cursor with
  | zero => exact Ensures.pure fun _ => id
  | succ fuel induction =>
      apply Ensures.get_bind
      intro start following
      split
      · exact Ensures.pureAt following
      · exact Ensures.bind ((iteration_ensures environment cursor).startingAt following) induction

theorem point_good : Keeps World.Good (point environment) := by
  apply Ensures.each
  intro start good
  apply ((point_ensures environment start.store).startingAt (.refl good)).returning
  exact fun _ _ after => after.1

theorem xGroupCreateMkStream_good (stream : StreamName) :
    Keeps World.Good (xGroupCreateMkStream environment stream) := by
  apply Ensures.bind (point_good environment)
  intro _ world good
  have created : (world.updated (Store.updateStream stream StreamState.createGroup)).Good :=
    good.updated (good.store.updateStream (good.store stream).createGroup)
  simp only [EStateM.run_bind, EStateM.run_get]
  cases environment.createGroup world stream with
  | done => cases (world.store.redis stream).group <;> exact created
  | failed tookEffect =>
      cases tookEffect with
      | false => exact good
      | true => exact created

theorem createGroups_good (streams : List StreamName) :
    Keeps World.Good (createGroups environment streams) := by
  induction streams with
  | nil => exact Keeps.pure _
  | cons stream streams induction =>
      apply Keeps.bind (xGroupCreateMkStream_good environment stream)
      intro error
      cases error with
      | none => exact induction
      | some error =>
          cases error with
          | busyGroup => exact induction
          | redisNil | failed => exact Keeps.throw _

/-- At the head of the loop of `main`, nothing is pending unless it is replayed. -/
theorem main_ensures (fuel : Nat) :
    Ensures World.Good (main environment fuel) Following (fun _ => World.Good) := by
  apply Ensures.bind (point_good environment)
  intro _
  apply Ensures.bind Ensures.get
  intro _
  apply Ensures.ite
  · exact fun _ => Ensures.throw fun _ => id
  · intro _
    apply Ensures.bind (createGroups_good environment StreamName.all)
    intro _
    apply (loop_ensures environment fuel .pending).strengthen
    exact fun _ good => ⟨good, by simp⟩

theorem lifetime_good {world : World} (good : world.Good) (fuel : Nat) :
    (lifetime environment world fuel).Good := by
  have holds := main_ensures environment fuel
  apply Ensures.finalState (holds.weaken (fun _ => id) _ fun _ _ => id) good
  exact fun _ _ following => following.1

theorem initial_good : World.Good {} := by
  intro moment among
  rw [List.mem_singleton.mp among]
  exact fun stream => .empty stream

theorem run_good (environment : Environment) (lifetimes : List Nat) :
    (run environment lifetimes).Good := by
  unfold run
  generalize initial : ({} : World) = start
  have good : start.Good := initial ▸ initial_good
  clear initial
  induction lifetimes generalizing start with
  | nil => exact good
  | cons fuel lifetimes induction => exact induction _ (lifetime_good environment good fuel)

end Archiver

end BuranBrew.Telemetry

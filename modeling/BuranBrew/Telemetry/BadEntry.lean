import BuranBrew.Telemetry.Draining

/-! # One bad entry blocks the archive

An entry whose row does not fit the columns is neither dropped nor inserted: the loop
of `main` replays it again and again. Without such an entry the backlog is drained.
-/

namespace BuranBrew.Telemetry

open Delivery Execution

/-- Calls have been made since `start`, but nothing has been handed out. -/
structure Worked (start : Store) (world : World) : Prop where
  backlog : world.store.Backlog
  advances : start.Advances world.store
  settles : start.Settles world.store

variable {start middle : Store} {world : World} {stream : StreamName}
  {entry : Entry EntryId Fields}

theorem Worked.refl (backlog : world.store.Backlog) : Worked world.store world :=
  ⟨backlog, .refl _, .refl _⟩

theorem Worked.trans (first : Worked start world) {last : World}
    (second : Worked world.store last) : Worked start last :=
  ⟨second.backlog, first.advances.trans second.advances,
    first.settles.trans second.settles⟩

theorem Worked.known (worked : Worked start world) (known : entry ∈ start.entries stream) :
    entry ∈ world.store.entries stream := by
  rw [worked.settles.entries]
  exact known

structure Tending (cursor : Cursor) (store : Store) : Prop where
  backlog : store.Backlog
  groups : ∀ stream, (store.redis stream).group.isSome
  follows : cursor = .live → Idle store

/-- Whatever is left can be dropped or inserted. -/
def Store.AllAcceptable (store : Store) : Prop :=
  ∀ stream, ∀ entry ∈ store.unfinished stream, Acceptable stream entry

namespace Archiver

variable {environment : Environment} (answering : environment.Answering)

section Calls

include answering

theorem point_returns (holds : Store → Prop) :
    Returns (fun world => holds world.store) (point environment)
      (fun _ world => holds world.store) := by
  intro world satisfied
  simp only [point, EStateM.run_bind, EStateM.run_get, EStateM.run_set,
    answering.alive world, answering.quiet world]
  exact satisfied

theorem call_returns {outcome : World → CallOutcome} {effect : Store → Store}
    (done : ∀ world, outcome world = .done) (store : Store) :
    Returns (fun world => world.store = store) (call environment outcome effect)
      (fun error world => error = none ∧ world.store = effect store) := by
  apply Ensures.bind (point_returns answering (· = store))
  intro _ world same
  subst same
  simp only [EStateM.run_bind, EStateM.run_get, done world]
  exact ⟨rfl, rfl⟩

/-- Rows that do not fit are rejected, and nothing else is. -/
theorem exec_returns (row : Row stream) (store : Store) :
    Returns (fun world => world.store = store) (exec environment row)
      (fun error world => (row.Fits ∧ error = none ∧ world.store = store.insert row) ∨
        (¬row.Fits ∧ error ≠ none ∧ world.store = store)) := by
  apply Ensures.bind (point_returns answering (· = store))
  intro _ world same
  subst same
  simp only [EStateM.run_bind, EStateM.run_get, answering.inserts world]
  by_cases fits : row.Fits
  · rw [if_pos fits]
    exact .inl ⟨fits, rfl, rfl⟩
  · rw [if_neg fits]
    exact .inr ⟨fits, by simp [CallOutcome.error], rfl⟩

theorem insert_returns (backlog : start.Backlog) (known : entry ∈ start.entries stream) :
    Returns (fun world => world.store = start)
      (insert environment stream entry.id.text (.ofFields entry.content))
      (fun error world => Worked start world ∧
        (error = none → Settled stream entry (world.store.tables stream)) ∧
        (Acceptable stream entry → error = none)) := by
  rw [insert_eq]
  apply Ensures.ite
  · intro malformed world same
    subst same
    exact ⟨.refl backlog, fun _ => .inl malformed, fun _ => rfl⟩
  · intro wellFormed
    apply (exec_returns answering (rowFor stream entry) start).returning
    intro error world outcome
    rcases outcome with ⟨fits, success, same⟩ | ⟨unfit, failure, same⟩
    · rcases backlog.insert known fits with ⟨inserted, settles, archived⟩
      rw [← same] at inserted settles archived
      have worked : Worked start world := by
        apply Worked.mk inserted _ settles
        rw [same]
        exact .insert _
      exact ⟨worked, fun _ => .inr archived, fun _ => success⟩
    · subst same
      refine ⟨.refl backlog, fun success => absurd success failure, ?_⟩
      intro acceptable
      rcases acceptable with malformed | fits
      · exact absurd malformed wellFormed
      · exact absurd fits unfit

theorem xAck_returns (backlog : start.Backlog) (known : entry ∈ start.entries stream)
    (settled : Settled stream entry (start.tables stream)) :
    Returns (fun world => world.store = start) (xAck environment stream entry.id.text)
      (fun error world => error = none ∧ Worked start world ∧
        ¬(world.store.redis stream).Pending entry) := by
  apply (call_returns answering (answering.acks · stream entry.id.text) start).returning
  intro error world outcome
  rcases outcome with ⟨success, same⟩
  rcases backlog.xAck known settled with ⟨acknowledged, settles⟩
  rw [← same] at acknowledged settles
  constructor
  · exact success
  · constructor
    · apply Worked.mk acknowledged _ settles
      rw [same]
      exact .updateStream (.xAck _ _)
    · rw [same, Store.updateStream_redis_same, StreamState.pending_xAck]
      simp

end Calls

section Loops

include answering

theorem archive_returns {batch : List (Entry EntryId Fields)} (n : Nat)
    (backlog : start.Backlog) (known : ∀ entry ∈ batch, entry ∈ start.entries stream) :
    Returns (fun world => world.store = start)
      (archive environment stream n (batch.map message))
      (fun result world => Worked start world ∧
        (result.2 = none → result.1 = n + batch.length ∧
          ∀ entry ∈ batch, ¬(world.store.redis stream).Pending entry) ∧
        ((∀ entry ∈ batch, Acceptable stream entry) → result.2 = none)) := by
  induction batch generalizing start n with
  | nil =>
      intro world same
      subst same
      exact ⟨.refl backlog, by simp⟩
  | cons entry batch induction =>
      apply Ensures.bind (insert_returns answering backlog (known entry List.mem_cons_self))
      intro error
      apply Ensures.each
      intro inserted outcome
      rcases outcome with ⟨worked, settled, accepted⟩
      cases error with
      | some error =>
          apply Ensures.pureAt
          refine ⟨worked, by simp, fun acceptable => ?_⟩
          exact absurd (accepted (acceptable entry List.mem_cons_self)) (by simp)
      | none =>
          have known (other : Entry EntryId Fields) (among : other ∈ entry :: batch) :
              other ∈ inserted.store.entries stream := worked.known (known other among)
          have acknowledges := xAck_returns answering worked.backlog
            (known entry List.mem_cons_self) (settled rfl)
          apply Ensures.bind (acknowledges.startingAt rfl)
          intro error
          apply Ensures.each
          intro acknowledged outcome
          rcases outcome with ⟨rfl, further, cleared⟩
          have rest (other : Entry EntryId Fields) (among : other ∈ batch) :
              other ∈ acknowledged.store.entries stream :=
            further.known (known other (List.mem_cons_of_mem _ among))
          apply ((induction (n + 1) further.backlog rest).startingAt rfl).returning
          intro result world outcome
          rcases outcome with ⟨last, finished, accepted⟩
          refine ⟨(worked.trans further).trans last, fun success => ?_, fun acceptable => ?_⟩
          · rcases finished success with ⟨count, others⟩
            constructor
            · rw [count, List.length_cons]
              omega
            · intro other among pending
              rcases List.mem_cons.mp among with rfl | later
              · exact cleared ((last.advances.redis stream).pending other pending)
              · exact others other later pending
          · exact accepted fun other among => acceptable other (List.mem_cons_of_mem _ among)

theorem archiveAll_returns {batch : StreamName → List (Entry EntryId Fields)} (n : Nat)
    (streams : List StreamName) (backlog : start.Backlog)
    (known : ∀ stream, ∀ entry ∈ batch stream, entry ∈ start.entries stream) :
    Returns (fun world => world.store = start)
      (archiveAll environment n
        (streams.map fun stream => (stream, (batch stream).map message)))
      (fun result world => Worked start world ∧
        (result.2 = none →
          result.1 = n + (streams.map fun stream => (batch stream).length).sum ∧
            ∀ stream ∈ streams, ∀ entry ∈ batch stream,
              ¬(world.store.redis stream).Pending entry) ∧
        ((∀ stream, ∀ entry ∈ batch stream, Acceptable stream entry) →
          result.2 = none)) := by
  induction streams generalizing start n with
  | nil =>
      intro world same
      subst same
      exact ⟨.refl backlog, by simp⟩
  | cons stream streams induction =>
      apply Ensures.bind (archive_returns answering n backlog (known stream))
      intro result
      rcases result with ⟨archived, error⟩
      apply Ensures.each
      intro next outcome
      rcases outcome with ⟨worked, finished, accepted⟩
      cases error with
      | some error =>
          apply Ensures.pureAt
          refine ⟨worked, by simp, fun acceptable => ?_⟩
          exact absurd (accepted (acceptable stream)) (by simp)
      | none =>
          rcases finished rfl with ⟨count, cleared⟩
          have known (other : StreamName) (entry : Entry EntryId Fields)
              (among : entry ∈ batch other) : entry ∈ next.store.entries other :=
            worked.known (known other entry among)
          apply ((induction archived worked.backlog known).startingAt rfl).returning
          intro result world outcome
          rcases outcome with ⟨last, finished, accepted⟩
          refine ⟨worked.trans last, fun success => ?_, accepted⟩
          rcases finished success with ⟨total, others⟩
          constructor
          · dsimp only at count
            rw [total, count, List.map_cons, List.sum_cons]
            omega
          · intro other among entry handed pending
            rcases List.mem_cons.mp among with rfl | rest
            · exact cleared entry handed ((last.advances.redis other).pending entry pending)
            · exact others other rest entry handed pending

/-- Every read is answered; new entries are waited for only when nothing is left. -/
theorem xReadGroup_returns {cursor : Cursor} (tending : Tending cursor start) :
    Returns (fun world => world.store = start) (xReadGroup environment cursor)
      (fun reply world => world.store.Backlog ∧ start.Settles world.store ∧
        match reply with
        | .ok res => ∃ batch, res = xStreams batch ∧ Replied cursor batch world.store ∧
            (∀ stream, ∀ entry ∈ batch stream, (world.store.redis stream).Pending entry) ∧
            (cursor = .live → ∃ stream, batch stream ≠ [])
        | .error .redisNil => cursor = .live ∧ ∀ stream, world.store.unfinished stream = []
        | .error _ => False) := by
  apply Ensures.bind (point_returns answering (· = start))
  intro _ world same
  subst same
  have groups : hasGroups world = true := by
    simp [hasGroups, StreamName.all, tending.groups]
  have replied := replied environment tending.backlog.consistent tending.follows
  simp only [EStateM.run_bind, EStateM.run_get, groups, answering.reads world cursor,
    Bool.not_true, Bool.false_eq_true, if_false, EStateM.run_set]
  cases cursor with
  | pending =>
      rw [if_neg (by simp)]
      refine ⟨tending.backlog, .refl _, _, rfl, replied, ?_, by simp⟩
      exact fun stream entry => StreamState.pending_of_mem_history
  | live =>
      rcases tending.backlog.deliver (handedOut environment world) with ⟨backlog, settles⟩
      by_cases timeout : (xStreams (batch environment .live world)).all (·.2.isEmpty) = true
      · rw [if_pos ⟨rfl, timeout⟩]
        refine ⟨backlog, settles, rfl, fun stream => ?_⟩
        have empty := List.all_eq_true.mp timeout _
          (List.mem_map_of_mem (StreamName.mem_all stream))
        simp only [List.isEmpty_iff, List.map_eq_nil_iff] at empty
        apply List.eq_nil_iff_forall_not_mem.mpr
        intro entry among
        have before := settles.unfinished stream entry among
        rcases StreamState.mem_unfinished.mp before with ⟨known, pending | undelivered⟩
        · exact tending.follows rfl stream entry pending
        · apply undelivered
          have positive : 0 < handedOut environment world stream :=
            lt_min (by decide) (answering.replies world stream)
          exact StreamState.delivered_of_fresh_eq_nil (tending.groups stream) positive empty
            known
      · rw [if_neg (by simp [timeout])]
        refine ⟨backlog, settles, _, rfl, replied, ?_, fun _ => ?_⟩
        · exact fun stream entry => StreamState.pending_of_mem_fresh
        · by_contra none
          apply timeout
          apply List.all_eq_true.mpr
          intro xStream among
          rcases List.mem_map.mp among with ⟨stream, _, rfl⟩
          simpa using not_exists.mp none stream

/-- Unless it meets a row that is rejected, a step gets on: fewer entries are left,
or it has found nothing to replay, or nothing is left at all. -/
theorem step_returns {cursor : Cursor} (tending : Tending cursor start) :
    Returns (fun world => world.store = start) (step environment cursor)
      (fun result world => Tending .pending world.store ∧ start.Settles world.store ∧
        (result.2 = none → result.1 = 0 ∨ cursor = .live → Idle world.store) ∧
        (start.AllAcceptable → result.2 = none ∧
          (world.store.left < start.left ∨ cursor = .pending ∧ result.1 = 0 ∨
            cursor = .live ∧ ∀ stream, world.store.unfinished stream = []))) := by
  have tends {world : World} (backlog : world.store.Backlog)
      (settles : start.Settles world.store) : Tending .pending world.store :=
    ⟨backlog, fun stream => settles.groups stream (tending.groups stream), by simp⟩
  apply Ensures.bind (xReadGroup_returns answering tending)
  intro reply
  apply Ensures.each
  intro read outcome
  rcases outcome with ⟨backlog, settles, answer⟩
  rcases reply with error | res
  · cases error with
    | busyGroup | failed => exact answer.elim
    | redisNil =>
        apply Ensures.pureAt
        refine ⟨tends backlog settles, settles, fun _ _ stream entry pending => ?_, fun _ =>
          ⟨rfl, .inr (.inr answer)⟩⟩
        rcases (backlog.consistent stream).known_of_pending pending with
          ⟨other, known, same⟩
        have left : other ∈ read.store.unfinished stream :=
          StreamState.mem_unfinished.mpr ⟨known, .inl (pending.of_id_eq same.symm)⟩
        rw [answer.2 stream] at left
        simp at left
  · rcases answer with ⟨batch, rfl, replied, pending, waits⟩
    have known (stream : StreamName) (entry : Entry EntryId Fields)
        (handed : entry ∈ batch stream) : entry ∈ read.store.entries stream :=
      (replied.ready stream).known entry handed
    have left (stream : StreamName) (entry : Entry EntryId Fields)
        (handed : entry ∈ batch stream) : entry ∈ start.unfinished stream :=
      settles.unfinished stream entry (StreamState.mem_unfinished.mpr
        ⟨known stream entry handed, .inl (pending stream entry handed)⟩)
    apply ((archiveAll_returns answering 0 StreamName.all backlog known).startingAt rfl).returning
    intro result world outcome
    rcases result with ⟨n, error⟩
    rcases outcome with ⟨worked, finished, accepted⟩
    refine ⟨tends worked.backlog (settles.trans worked.settles),
      settles.trans worked.settles, ?_, fun acceptable => ?_⟩
    · intro success drained
      rcases finished success with ⟨count, cleared⟩
      exact replied.idle worked.advances count drained cleared
    · have success : error = none :=
        accepted fun stream entry handed => acceptable stream entry (left stream entry handed)
      rcases finished success with ⟨count, cleared⟩
      refine ⟨success, ?_⟩
      by_cases empty : ∀ stream, batch stream = []
      · right
        left
        constructor
        · cases cursor with
          | pending => rfl
          | live =>
              rcases waits rfl with ⟨stream, some⟩
              exact absurd (empty stream) some
        · simpa [empty] using count
      · left
        rcases not_forall.mp empty with ⟨stream, some⟩
        rcases List.exists_mem_of_ne_nil _ some with ⟨entry, handed⟩
        apply (settles.trans worked.settles).left_lt worked.backlog
          (left stream entry handed)
        intro after
        rcases (StreamState.mem_unfinished.mp after).2 with again | undelivered
        · exact cleared stream (StreamName.mem_all stream) entry handed again
        · exact undelivered ((worked.advances.redis stream).delivered entry
            ((replied.ready stream).delivered entry handed))

/-- Iterations still to come at most: a replay that finds nothing costs one. -/
def weight (cursor : Cursor) (store : Store) : Nat :=
  2 * store.left + if cursor = .pending then 1 else 0

theorem iteration_returns {cursor : Cursor} (tending : Tending cursor start) :
    Returns (fun world => world.store = start) (iteration environment cursor)
      (fun next world => Tending next world.store ∧ start.Settles world.store ∧
        (start.AllAcceptable → weight next world.store < weight cursor start ∨
          next = .live ∧ ∀ stream, world.store.unfinished stream = [])) := by
  apply Ensures.bind (step_returns answering tending)
  intro result
  rcases result with ⟨n, error⟩
  apply Ensures.each
  intro stepped outcome
  rcases outcome with ⟨tends, settles, idle, progress⟩
  cases error with
  | some error =>
      apply Ensures.bind ((point_returns answering (· = stepped.store)).startingAt rfl)
      intro _
      apply Ensures.pure
      intro world same
      rw [same]
      refine ⟨tends, settles, fun acceptable => ?_⟩
      exact absurd (progress acceptable).1 (by simp)
  | none =>
      have fewer := settles.left_le tends.backlog
      apply Ensures.ite
      · intro condition
        rcases condition with ⟨none, replay⟩
        apply Ensures.pureAt
        refine ⟨⟨tends.backlog, tends.groups, fun _ => idle rfl (.inl none)⟩, settles,
          fun _ => .inl ?_⟩
        simp only [weight, replay, if_true]
        rw [if_neg (by decide)]
        omega
      · intro going
        apply Ensures.pureAt
        refine ⟨⟨tends.backlog, tends.groups, fun live => idle rfl (.inr live)⟩, settles,
          fun acceptable => ?_⟩
        rcases (progress acceptable).2 with less | ⟨replay, none⟩ | done
        · left
          unfold weight
          omega
        · exact absurd ⟨none, replay⟩ going
        · exact .inr done

theorem loop_succ (fuel : Nat) (cursor : Cursor) {world stepped : World} {next : Cursor}
    (iterates : (iteration environment cursor).run world = .ok next stepped) :
    (loop environment (fuel + 1) cursor).run world = (loop environment fuel next).run stepped := by
  simp only [loop, EStateM.run_bind, EStateM.run_get, answering.running world,
    Bool.false_eq_true, if_false, iterates]

/-- If whatever is left is acceptable, the loop comes to an end of it. -/
theorem loop_drains (cursor : Cursor) (world : World) (tending : Tending cursor world.store)
    (acceptable : world.store.AllAcceptable) :
    ∃ fuel final, (loop environment fuel cursor).run world = .ok .live final ∧
      Tending .live final.store ∧ world.store.Settles final.store ∧
        ∀ stream, final.store.unfinished stream = [] := by
  generalize bound : weight cursor world.store = steps
  induction steps using Nat.strongRecOn generalizing cursor world with
  | ind steps induction =>
      rcases (iteration_returns answering tending).exists_run rfl with
        ⟨next, stepped, iterates, tends, settles, progress⟩
      have further : stepped.store.AllAcceptable := fun stream entry left =>
        acceptable stream entry (settles.unfinished stream entry left)
      rcases progress acceptable with less | ⟨live, done⟩
      · rcases induction _ (bound ▸ less) next stepped tends further rfl with
          ⟨fuel, final, runs, finished, settled, drained⟩
        refine ⟨fuel + 1, final, ?_, finished, settles.trans settled, drained⟩
        rw [loop_succ answering fuel cursor iterates, runs]
      · subst live
        refine ⟨1, stepped, ?_, tends, settles, done⟩
        rw [loop_succ answering 0 cursor iterates]
        rfl

theorem loop_returns (fuel : Nat) {cursor : Cursor} (tending : Tending cursor start) :
    Returns (fun world => world.store = start) (loop environment fuel cursor)
      (fun next world => Tending next world.store ∧ start.Settles world.store) := by
  induction fuel generalizing cursor start with
  | zero =>
      intro world same
      subst same
      exact ⟨tending, .refl _⟩
  | succ fuel induction =>
      apply Ensures.get_bind
      intro world same
      simp only [answering.running world, Bool.false_eq_true, if_false]
      apply Ensures.bind ((iteration_returns answering tending).startingAt same)
      intro next
      apply Ensures.each
      intro stepped outcome
      rcases outcome with ⟨tends, settles, _⟩
      apply ((induction tends).startingAt rfl).returning
      intro last final finished
      exact ⟨finished.1, settles.trans finished.2⟩

theorem xGroupCreateMkStream_returns (stream : StreamName) (store : Store) :
    Returns (fun world => world.store = store) (xGroupCreateMkStream environment stream)
      (fun error world => (error = none ∨ error = some .busyGroup) ∧
        world.store = store.updateStream stream StreamState.createGroup) := by
  apply Ensures.bind (point_returns answering (· = store))
  intro _ world same
  subst same
  simp only [EStateM.run_bind, EStateM.run_get, answering.creates world stream]
  cases (world.store.redis stream).group with
  | none => exact ⟨.inl rfl, rfl⟩
  | some _ => exact ⟨.inr rfl, rfl⟩

theorem createGroups_returns (streams : List StreamName) (backlog : start.Backlog) :
    Returns (fun world => world.store = start) (createGroups environment streams)
      (fun _ world => world.store.Backlog ∧ start.Settles world.store ∧
        ∀ stream ∈ streams, (world.store.redis stream).group.isSome) := by
  induction streams generalizing start with
  | nil =>
      intro world same
      subst same
      exact ⟨backlog, .refl _, by simp⟩
  | cons stream streams induction =>
      apply Ensures.bind (xGroupCreateMkStream_returns answering stream start)
      intro error
      apply Ensures.given
      intro created
      rcases backlog.createGroup stream with ⟨further, settles⟩
      have grouped : ((start.updateStream stream StreamState.createGroup).redis
          stream).group.isSome := by
        rw [Store.updateStream_redis_same, StreamState.createGroup]
        cases group : (start.redis stream).group <;> simp [group]
      have rest : Returns
          (fun world => world.store = start.updateStream stream StreamState.createGroup)
          (createGroups environment streams)
          (fun _ world => world.store.Backlog ∧ start.Settles world.store ∧
            ∀ other ∈ stream :: streams, (world.store.redis other).group.isSome) := by
        apply (induction further).returning
        intro _ world outcome
        rcases outcome with ⟨last, settled, groups⟩
        refine ⟨last, settles.trans settled, fun other among => ?_⟩
        rcases List.mem_cons.mp among with rfl | later
        · exact settled.groups other grouped
        · exact groups other later
      rcases created with rfl | rfl
      · exact rest
      · exact rest

/-- However many iterations follow, they start from the same world. -/
theorem main_prologue (world : World) (backlog : world.store.Backlog) :
    ∃ ready, Tending .pending ready.store ∧ world.store.Settles ready.store ∧
      ∀ fuel, (main environment fuel).run world =
        (loop environment fuel .pending).run ready := by
  rcases (point_returns answering (· = world.store)).exists_run rfl with
    ⟨_, pointed, points, same⟩
  rw [← same] at backlog ⊢
  rcases (createGroups_returns answering StreamName.all backlog).exists_run rfl with
    ⟨_, ready, creates, tending, settles, groups⟩
  refine ⟨ready, ⟨tending, fun stream => groups stream stream.mem_all, by simp⟩, settles,
    fun fuel => ?_⟩
  simp only [main, EStateM.run_bind, points, EStateM.run_get, answering.opens pointed,
    Bool.false_eq_true, if_false, creates]

end Loops

end Archiver

/-- Some number of iterations of the loop of `main` brings it to the cursor `">"` with
nothing pending, nothing undelivered, and a row for every entry that was left and that
is well formed and fits. -/
def Drains (environment : Environment) (world : World) : Prop :=
  ∃ fuel final, (Archiver.main environment fuel).run world = .ok .live final ∧
    (∀ stream, ∀ entry ∈ final.store.entries stream,
      ¬(final.store.redis stream).Pending entry ∧
        (final.store.redis stream).Delivered entry) ∧
    ∀ stream, ∀ entry ∈ world.store.unfinished stream, ¬Malformed stream entry →
      (rowFor stream entry).Fits → rowFor stream entry ∈ final.store.tables stream

variable {environment : Environment}

theorem drains_of_acceptable (answering : environment.Answering)
    (backlog : world.store.Backlog) (acceptable : world.store.AllAcceptable) :
    Drains environment world := by
  rcases Archiver.main_prologue answering world backlog with
    ⟨ready, tending, settles, runs⟩
  rcases Archiver.loop_drains answering .pending ready tending
    (fun stream entry left => acceptable stream entry (settles.unfinished stream entry left))
    with ⟨fuel, final, reaches, _, settled, drained⟩
  have whole := settles.trans settled
  refine ⟨fuel, final, (runs fuel).trans reaches, ?_, ?_⟩
  · intro stream entry known
    have finished : entry ∉ final.store.unfinished stream := by
      rw [drained stream]
      exact List.not_mem_nil
    constructor
    · exact fun pending => finished (StreamState.mem_unfinished.mpr ⟨known, .inl pending⟩)
    · by_contra undelivered
      exact finished (StreamState.mem_unfinished.mpr ⟨known, .inr undelivered⟩)
  · intro stream entry left wellFormed _
    rcases whole.settled stream entry left with again | malformed | archived
    · rw [drained stream] at again
      simp at again
    · exact absurd malformed wellFormed
    · exact archived

theorem not_drains_of_unacceptable (answering : environment.Answering)
    (backlog : world.store.Backlog) (left : entry ∈ world.store.unfinished stream)
    (unacceptable : ¬Acceptable stream entry) : ¬Drains environment world := by
  intro drains
  rcases drains with ⟨fuel, final, reaches, finished, _⟩
  rcases Archiver.main_prologue answering world backlog with
    ⟨ready, tending, settles, runs⟩
  have outcome := Archiver.loop_returns answering fuel tending ready rfl
  rw [← runs fuel, reaches] at outcome
  have whole := settles.trans outcome.2
  rcases whole.settled stream entry left with again | malformed | archived
  · rcases StreamState.mem_unfinished.mp again with ⟨known, pending | undelivered⟩
    · exact (finished stream entry known).1 pending
    · exact undelivered (finished stream entry known).2
  · exact unacceptable (.inl malformed)
  · exact unacceptable (.inr (outcome.1.backlog.fits stream _ archived))

/-- PostgreSQL with the columns of the schema, and Redis with whole batches. -/
def Environment.answering : Environment :=
  { Environment.calm with
    available := fun _ _ => Archiver.countLimit
    execInsert := fun _ _ row => if row.Fits then .done else .failed false }

theorem Environment.answering_answering : Environment.answering.Answering where
  quiet _ := rfl
  alive _ := rfl
  running _ := rfl
  opens _ := rfl
  creates _ _ := rfl
  reads _ _ := rfl
  replies _ _ := Nat.succ_pos 99
  inserts _ _ _ := rfl
  acks _ _ _ := rfl

def World.waiting (fields : Fields) : World :=
  { store := ({} : Store).produce ⟨.sensor, 1, fields⟩ }

theorem World.waiting_backlog (fields : Fields) : (World.waiting fields).store.Backlog where
  consistent stream := by
    cases stream with
    | sensor => exact StreamState.Consistent.empty.xAdd 1 fields
    | control => exact StreamState.Consistent.empty
  fits stream row among := by cases stream <;> exact absurd among List.not_mem_nil
  keys stream entry known row among := by
    cases stream <;> exact absurd among List.not_mem_nil

theorem backlog_drains_iff (answering : environment.Answering) (world : World)
    (backlog : world.store.Backlog) :
    Drains environment world ↔
      ∀ stream, ∀ entry ∈ world.store.unfinished stream,
        Malformed stream entry ∨ (rowFor stream entry).Fits := by
  constructor
  · intro drains stream entry left
    by_contra unacceptable
    exact not_drains_of_unacceptable answering backlog left unacceptable drains
  · exact drains_of_acceptable answering backlog

theorem backlog_drains_iff_waiting :
    Drains .answering (.waiting [("value", "20.5")]) ↔
      ∀ stream, ∀ entry ∈ (World.waiting [("value", "20.5")]).store.unfinished stream,
        Malformed stream entry ∨ (rowFor stream entry).Fits :=
  backlog_drains_iff Environment.answering_answering _ (World.waiting_backlog _)

/-- A node id beyond 32 bits passes `Atoi`, and its row is rejected for ever. -/
theorem bad_node_blocks_archive :
    ¬Drains .answering (.waiting [("node", "3000000000"), ("value", "20.5")]) := by
  have unacceptable : ¬Acceptable .sensor
      ⟨⟨1, 0⟩, [("node", "3000000000"), ("value", "20.5")]⟩ := by decide +kernel
  apply not_drains_of_unacceptable Environment.answering_answering
    (World.waiting_backlog _) _ unacceptable
  exact List.mem_singleton_self _

end BuranBrew.Telemetry

import BuranBrew.Telemetry.ManyArchivers
import BuranBrew.Telemetry.ExactlyOnce

/-! # The program refines the moves

Processes of the archiver that run one after another, on streams that are not trimmed,
are a fleet of one: every moment of a run is reached by moves.
-/

namespace BuranBrew.Telemetry

open Delivery Execution

/-! ## Servers -/

namespace StreamState

def shared (consumer : String) (stream : StreamState) : SharedStream where
  log := ⟨stream.entries, 0⟩
  group := stream.group.map (ConsumerGroup.ownedBy consumer)

variable {consumer : String} {stream : StreamState}

theorem shared_xAdd (clock : Fin (2 ^ 63)) (fields : Fields) :
    (stream.xAdd clock fields).shared consumer =
      (stream.shared consumer).xAdd clock fields 0 := by
  simp [shared, xAdd, SharedStream.xAdd, TrimmedLog.trim, TrimmedLog.append]

theorem shared_createGroup :
    stream.createGroup.shared consumer = (stream.shared consumer).createGroup := by
  cases grouped : stream.group <;>
    simp [shared, createGroup, SharedStream.createGroup, ConsumerGroup.ownedBy, grouped]

theorem shared_fresh (count : Nat) :
    (stream.shared consumer).fresh count = stream.fresh count := by
  cases grouped : stream.group <;>
    simp [shared, fresh, SharedStream.fresh, grouped, SharedGroup.undelivered,
      ConsumerGroup.undelivered, ConsumerGroup.ownedBy, TrimmedLog.retained]

theorem shared_deliver (count : Nat) :
    (stream.deliver count).shared consumer =
      (stream.shared consumer).deliver consumer count := by
  unfold SharedStream.deliver
  rw [shared_fresh]
  cases grouped : stream.group <;>
    simp [shared, deliver, grouped, ConsumerGroup.ownedBy_deliver]

theorem shared_xAck (id : String) :
    (stream.xAck id).shared consumer = (stream.shared consumer).xAck id := by
  cases grouped : stream.group <;>
    simp [shared, xAck, SharedStream.xAck, grouped, ConsumerGroup.ownedBy_acknowledge]

theorem shared_history {name : StreamName} {table : List (Row name)}
    (sound : (stream.shared consumer).Sound name table) (count : Nat) :
    (stream.shared consumer).history consumer count = stream.history count := by
  cases grouped : stream.group with
  | none => simp [shared, history, SharedStream.history, grouped]
  | some group =>
      have ordered : Ordered stream.entries := sound.ordered
      have accounts : (group.ownedBy consumer).Accounts ⟨stream.entries, 0⟩ :=
        sound.accounts (group.ownedBy consumer) (by simp [shared, grouped])
      simp only [shared, SharedStream.history, grouped, Option.map_some, history]
      change List.map _ (List.take count
        ((group.ownedBy consumer).replay consumer stream.entries)) = _
      rw [ConsumerGroup.replay_ownedBy ordered accounts, ← List.map_take, List.map_map]
      exact List.map_id' _

end StreamState

namespace Store

def shared (consumer : String) (store : Store) : SharedStore where
  streams stream := (store.redis stream).shared consumer
  tables := store.tables

variable {consumer : String} {store : Store} {stream : StreamName}

theorem shared_updateStream {update : StreamState → StreamState}
    {sharedUpdate : SharedStream → SharedStream}
    (same : ∀ state : StreamState,
      (update state).shared consumer = sharedUpdate (state.shared consumer)) :
    (store.updateStream stream update).shared consumer =
      (store.shared consumer).updateStream stream sharedUpdate := by
  unfold shared SharedStore.updateStream
  congr 1
  funext other
  by_cases equal : other = stream
  · subst equal
    rw [updateStream_redis_same, Function.update_self]
    exact same _
  · rw [updateStream_redis_other equal, Function.update_of_ne equal]

theorem shared_insert (row : Row stream) :
    (store.insert row).shared consumer = (store.shared consumer).insert row := rfl

theorem shared_produce (production : Production) :
    (store.produce production).shared consumer =
      (store.shared consumer).produce production 0 :=
  shared_updateStream fun _ => StreamState.shared_xAdd _ _

theorem hasGroups_shared (world : World) :
    (world.store.shared consumer).hasGroups = Archiver.hasGroups world := by
  simp [SharedStore.hasGroups, Archiver.hasGroups, shared, StreamState.shared]

end Store

/-! ## Simulation -/

def alone (consumer : String) (store : Store) (phase : Phase) : Fleet Unit where
  store := store.shared consumer
  phases _ := phase

def Possible (consumer : String) (store : Store) (phase : Phase) : Prop :=
  (alone consumer store phase).Reached fun _ => consumer

/-- Every moment is possible, and the process is now in a phase. -/
def Simulates (consumer : String) (phase : Phase) (world : World) : Prop :=
  Possible consumer world.store phase ∧ ∀ moment ∈ world.past,
    ∃ phase, Possible consumer moment phase

variable {consumer : String} {store later : Store} {phase next : Phase} {world : World}
  {cursor : Cursor} {stream : StreamName}

theorem Possible.sound (possible : Possible consumer store phase) :
    (store.shared consumer).Sound :=
  (Fleet.Reached.sound possible).store

theorem Possible.move {made : Move} (possible : Possible consumer store phase)
    (moved : move consumer (store.shared consumer) phase made =
      some (later.shared consumer, next)) : Possible consumer later next := by
  have taken : (alone consumer store phase).step (fun _ => consumer) (.move () made) =
      some (alone consumer later next) := by
    change ((Telemetry.move consumer (store.shared consumer) phase made).map _) = _
    rw [moved, Option.map_some]
    rfl
  exact Transitions.Reaches.next possible trivial taken

theorem Possible.produce (possible : Possible consumer store phase)
    (productions : List Production) :
    Possible consumer (productions.foldl Store.produce store) phase := by
  induction productions generalizing store with
  | nil => exact possible
  | cons production productions induction =>
      have taken : (alone consumer store phase).step (fun _ => consumer)
          (.produce production 0) = some (alone consumer (store.produce production) phase) := by
        change some _ = some _
        rw [alone, alone, Store.shared_produce]
      exact induction (Transitions.Reaches.next possible trivial taken)

namespace Simulates

theorem exit (simulates : Simulates consumer phase world) :
    Simulates consumer .down world := by
  have moved : Telemetry.move consumer (world.store.shared consumer) phase .exit =
      some (world.store.shared consumer, .down) := rfl
  exact ⟨simulates.1.move moved, simulates.2⟩

theorem updated (simulates : Simulates consumer phase world) {update : Store → Store}
    (possible : Possible consumer (update world.store) next) :
    Simulates consumer next (world.updated update) := by
  refine ⟨possible, ?_⟩
  intro moment among
  rcases List.mem_cons.mp among with now | before
  · rw [now]
    exact ⟨phase, simulates.1⟩
  · exact simulates.2 moment before

end Simulates

def Phase.onError (succeeded failed : Phase) : Option CallError → Phase
  | none => succeeded
  | some _ => failed

namespace Archiver

variable (environment : Environment)

theorem point_simulates :
    Ensures (Simulates consumer phase) (point environment)
      (fun _ => Simulates consumer phase) (fun _ => Simulates consumer .down) := by
  intro world simulates
  have produced : Simulates consumer phase
      (world.updated ((environment.produces world).foldl Store.produce)) :=
    simulates.updated (simulates.1.produce _)
  simp only [point, EStateM.run_bind, EStateM.run_get, EStateM.run_set]
  cases environment.crashes world with
  | false => exact produced
  | true => exact produced.exit

theorem call_simulates {outcome : World → CallOutcome} {effect : Store → Store}
    {sharedEffect : SharedStore → SharedStore} {made : CallOutcome → Move}
    {succeeded failed : Phase}
    (moves : ∀ (store : Store) (answer : CallOutcome),
      move consumer (store.shared consumer) phase (made answer) =
        some (answer.apply sharedEffect (store.shared consumer),
          answer.next succeeded failed))
    (same : ∀ store, (effect store).shared consumer = sharedEffect (store.shared consumer)) :
    Ensures (Simulates consumer phase) (call environment outcome effect)
      (fun error => Simulates consumer (.onError succeeded failed error))
      (fun _ => Simulates consumer .down) := by
  apply Ensures.bind (point_simulates environment)
  intro _ world simulates
  have effective (answer : CallOutcome) (tookEffect : answer.tookEffect = true) :
      Simulates consumer (answer.next succeeded failed) (world.updated effect) := by
    apply simulates.updated
    apply simulates.1.move
    rw [moves _ answer, CallOutcome.apply, if_pos tookEffect, same]
  simp only [EStateM.run_bind, EStateM.run_get]
  rcases answered : outcome world with _ | tookEffect
  · exact effective .done rfl
  · cases tookEffect with
    | true => exact effective (.failed true) rfl
    | false => exact ⟨simulates.1.move (moves _ (.failed false)), simulates.2⟩

theorem xGroupCreateMkStream_simulates (rest : List StreamName) :
    Ensures (Simulates consumer (.creating stream rest))
      (xGroupCreateMkStream environment stream)
      (fun error => Simulates consumer
        (if error = none ∨ error = some .busyGroup then .create rest else .down))
      (fun _ => Simulates consumer .down) := by
  apply Ensures.bind (point_simulates environment)
  intro _ world simulates
  have effective (answer : CallOutcome) (tookEffect : answer.tookEffect = true) :
      Simulates consumer (answer.next (.create rest) .down)
        (world.updated (Store.updateStream stream StreamState.createGroup)) := by
    have moved : move consumer (world.store.shared consumer) (.creating stream rest)
        (.createGroup answer) =
        some (answer.apply (.updateStream stream .createGroup) (world.store.shared consumer),
          answer.next (.create rest) .down) := rfl
    apply simulates.updated
    apply simulates.1.move
    rw [moved, CallOutcome.apply, if_pos tookEffect,
      Store.shared_updateStream fun _ => StreamState.shared_createGroup]
  simp only [EStateM.run_bind, EStateM.run_get]
  rcases environment.createGroup world stream with _ | tookEffect
  · have created := effective .done rfl
    rcases (world.store.redis stream).group with _ | group
    · exact created
    · exact created
  · cases tookEffect with
    | true => exact effective (.failed true) rfl
    | false => exact simulates.exit

theorem createGroups_simulates (streams : List StreamName) :
    Ensures (Simulates consumer (.create streams)) (createGroups environment streams)
      (fun _ => Simulates consumer (.polling .pending))
      (fun _ => Simulates consumer .down) := by
  induction streams with
  | nil => exact Ensures.pure fun _ => id
  | cons stream streams induction =>
      apply Ensures.bind (xGroupCreateMkStream_simulates environment streams)
      intro error
      rcases error with _ | _ | _ | _
      · exact induction
      · exact Ensures.throw fun _ => id
      · exact induction
      · exact Ensures.throw fun _ => id

variable {entry : Entry EntryId Fields} {n : Nat} {rest : List Handed}

theorem insert_simulates :
    Ensures (Simulates consumer (.inserting cursor n ⟨stream, entry⟩ rest))
      (insert environment stream entry.id.text (.ofFields entry.content))
      (fun error => Simulates consumer
        (.onError (.acknowledging cursor n ⟨stream, entry⟩ rest) .sleeping error))
      (fun _ => Simulates consumer .down) := by
  rw [insert_eq]
  split
  · rename_i malformed
    apply Ensures.pure
    intro world simulates
    have moved : move consumer (world.store.shared consumer)
        (.inserting cursor n ⟨stream, entry⟩ rest) (.insert .done) =
        some (world.store.shared consumer, .acknowledging cursor n ⟨stream, entry⟩ rest) :=
      if_pos malformed
    exact ⟨simulates.1.move moved, simulates.2⟩
  · rename_i wellFormed
    have moves (store : Store) (answer : CallOutcome) :
        move consumer (store.shared consumer) (.inserting cursor n ⟨stream, entry⟩ rest)
          (.insert answer) =
          some (answer.apply (.insert (rowFor stream entry)) (store.shared consumer),
            answer.next (.acknowledging cursor n ⟨stream, entry⟩ rest) .sleeping) :=
      if_neg wellFormed
    exact call_simulates environment moves fun _ => Store.shared_insert _

theorem xAck_simulates :
    Ensures (Simulates consumer (.acknowledging cursor n ⟨stream, entry⟩ rest))
      (xAck environment stream entry.id.text)
      (fun error => Simulates consumer
        (.onError (.proceed cursor (n + 1) rest) .sleeping error))
      (fun _ => Simulates consumer .down) := by
  have moves (store : Store) (answer : CallOutcome) :
      move consumer (store.shared consumer) (.acknowledging cursor n ⟨stream, entry⟩ rest)
        (.ack answer) =
        some (answer.apply (.updateStream stream (.xAck entry.id.text))
            (store.shared consumer),
          answer.next (.proceed cursor (n + 1) rest) .sleeping) := rfl
  exact call_simulates environment moves fun _ =>
    Store.shared_updateStream fun _ => StreamState.shared_xAck _

theorem archive_simulates (n : Nat) (batch : List (Entry EntryId Fields)) :
    Ensures (Simulates consumer (.proceed cursor n (batch.map (Handed.mk stream) ++ rest)))
      (archive environment stream n (batch.map message))
      (fun result => Simulates consumer
        (.onError (.proceed cursor result.1 rest) .sleeping result.2))
      (fun _ => Simulates consumer .down) := by
  induction batch generalizing n with
  | nil => exact Ensures.pure fun _ => id
  | cons entry batch induction =>
      apply Ensures.bind (insert_simulates environment)
      intro error
      cases error with
      | some error => exact Ensures.pure fun _ => id
      | none =>
          apply Ensures.bind (xAck_simulates environment)
          intro error
          cases error with
          | some error => exact Ensures.pure fun _ => id
          | none => exact induction (n + 1)

theorem archiveAll_simulates (n : Nat) (batch : StreamName → List (Entry EntryId Fields))
    (streams : List StreamName) :
    Ensures
      (Simulates consumer (.proceed cursor n
        (streams.flatMap fun stream => (batch stream).map (Handed.mk stream))))
      (archiveAll environment n
        (streams.map fun stream => (stream, (batch stream).map message)))
      (fun result => Simulates consumer
        (.onError (.proceed cursor result.1 []) .sleeping result.2))
      (fun _ => Simulates consumer .down) := by
  induction streams generalizing n with
  | nil => exact Ensures.pure fun _ => id
  | cons stream streams induction =>
      apply Ensures.bind (archive_simulates environment n (batch stream))
      intro result
      rcases result with ⟨archived, _ | error⟩
      · exact induction archived
      · exact Ensures.pure fun _ => id

theorem reply_shared (possible : Possible consumer world.store phase) :
    (world.store.shared consumer).reply cursor consumer (environment.available world) =
      StreamName.all.flatMap fun stream =>
        (batch environment cursor world stream).map (Handed.mk stream) := by
  unfold SharedStore.reply
  congr 1
  funext stream
  congr 1
  cases cursor with
  | pending => exact StreamState.shared_history (possible.sound stream) _
  | live => exact StreamState.shared_fresh _

theorem deliver_shared :
    (deliver environment cursor world world.store).shared consumer =
      (world.store.shared consumer).deliver cursor consumer (environment.available world) := by
  cases cursor with
  | pending => rfl
  | live =>
      unfold SharedStore.deliver deliver Store.shared
      congr 1
      funext stream
      exact StreamState.shared_deliver _

def afterReply (cursor : Cursor) : Except CallError (List XStream) → Phase → Prop
  | .error .redisNil, phase => phase = .proceed cursor 0 []
  | .error _, phase => phase = .sleeping
  | .ok res, phase => ∃ batch, res = xStreams batch ∧
      phase = .proceed cursor 0
        (StreamName.all.flatMap fun stream => (batch stream).map (Handed.mk stream))

theorem xReadGroup_simulates :
    Ensures (Simulates consumer (.polling cursor)) (xReadGroup environment cursor)
      (fun res world => ∃ phase, afterReply cursor res phase ∧ Simulates consumer phase world)
      (fun _ => Simulates consumer .down) := by
  apply Ensures.bind (point_simulates environment)
  intro _ world simulates
  have replied : (world.store.shared consumer).reply cursor consumer
      (environment.available world) =
      StreamName.all.flatMap fun stream =>
        (batch environment cursor world stream).map (Handed.mk stream) :=
    reply_shared environment simulates.1
  have moved (answer : CallOutcome) (grouped : hasGroups world = true) :
      move consumer (world.store.shared consumer) (.polling cursor)
        (.read answer (environment.available world)) =
        some (answer.apply (.deliver cursor consumer (environment.available world))
            (world.store.shared consumer),
          answer.next (.proceed cursor 0 (StreamName.all.flatMap fun stream =>
            (batch environment cursor world stream).map (Handed.mk stream))) .sleeping) := by
    simp only [move, Store.hasGroups_shared, grouped, replied]
    rfl
  have effective (answer : CallOutcome) (grouped : hasGroups world = true)
      (tookEffect : answer.tookEffect = true) :
      Simulates consumer
        (answer.next (.proceed cursor 0 (StreamName.all.flatMap fun stream =>
          (batch environment cursor world stream).map (Handed.mk stream))) .sleeping)
        (world.updated (deliver environment cursor world)) := by
    apply simulates.updated
    apply simulates.1.move
    rw [moved answer grouped, CallOutcome.apply, if_pos tookEffect, deliver_shared]
  simp only [EStateM.run_bind, EStateM.run_get]
  cases grouped : hasGroups world with
  | false =>
      have refused : move consumer (world.store.shared consumer) (.polling cursor)
          (.read .done (environment.available world)) =
          some (world.store.shared consumer, .sleeping) := by
        simp only [move, Store.hasGroups_shared, grouped]
        rfl
      exact ⟨.sleeping, rfl, simulates.1.move refused, simulates.2⟩
  | true =>
      rcases environment.readGroup world cursor with _ | tookEffect
      · have delivered := effective .done grouped rfl
        by_cases nothing : cursor = .live ∧
            (xStreams (batch environment cursor world)).all (·.2.isEmpty)
        · have empty : StreamName.all.flatMap (fun stream =>
              (batch environment cursor world stream).map (Handed.mk stream)) = [] := by
            simpa [xStreams] using nothing.2
          rw [empty] at delivered
          simp only [if_pos nothing]
          exact ⟨_, rfl, delivered⟩
        · simp only [if_neg nothing]
          exact ⟨_, ⟨_, rfl, rfl⟩, delivered⟩
      · cases tookEffect with
        | true => exact ⟨.sleeping, rfl, effective (.failed true) grouped rfl⟩
        | false =>
            have possible := simulates.1.move (moved (.failed false) grouped)
            exact ⟨.sleeping, rfl, possible, simulates.2⟩

theorem step_simulates :
    Ensures (Simulates consumer (.polling cursor)) (step environment cursor)
      (fun result => Simulates consumer
        (.onError (.proceed cursor result.1 []) .sleeping result.2))
      (fun _ => Simulates consumer .down) := by
  apply Ensures.bind (xReadGroup_simulates environment)
  intro res
  apply Ensures.given_exists
  intro phase
  apply Ensures.given
  intro replied
  rcases res with (_ | _ | _) | res
  · cases replied
    exact Ensures.pure fun _ => id
  · cases replied
    exact Ensures.pure fun _ => id
  · cases replied
    exact Ensures.pure fun _ => id
  · rcases replied with ⟨batch, rfl, rfl⟩
    exact archiveAll_simulates environment 0 batch StreamName.all

theorem iteration_simulates :
    Ensures (Simulates consumer (.polling cursor)) (iteration environment cursor)
      (fun next => Simulates consumer (.polling next)) (fun _ => Simulates consumer .down) := by
  apply Ensures.bind (step_simulates environment)
  rintro ⟨n, _ | error⟩
  · simp only [Phase.onError, Phase.proceed]
    split
    · exact Ensures.pure fun _ => id
    · exact Ensures.pure fun _ => id
  · apply Ensures.bind (point_simulates environment)
    intro _
    apply Ensures.pure
    intro world simulates
    have woke : move consumer (world.store.shared consumer) .sleeping .wake =
        some (world.store.shared consumer, .polling .pending) := rfl
    exact ⟨simulates.1.move woke, simulates.2⟩

theorem loop_simulates (fuel : Nat) (cursor : Cursor) :
    Ensures (Simulates consumer (.polling cursor)) (loop environment fuel cursor)
      (fun next => Simulates consumer (.polling next)) (fun _ => Simulates consumer .down) := by
  induction fuel generalizing cursor with
  | zero => exact Ensures.pure fun _ => id
  | succ fuel induction =>
      apply Ensures.get_bind
      intro world simulates
      apply Ensures.ite
      · intro _
        exact Ensures.pureAt simulates
      · intro _
        have iterates := (iteration_simulates environment).startingAt simulates
        exact iterates.bind induction

theorem main_simulates (fuel : Nat) :
    Ensures (Simulates consumer .down) (main environment fuel)
      (fun cursor => Simulates consumer (.polling cursor))
      (fun _ => Simulates consumer .down) := by
  apply Ensures.bind (point_simulates environment)
  intro _
  apply Ensures.get_bind
  intro world simulates
  apply Ensures.ite
  · intro _
    exact Ensures.throw fun _ same => same ▸ simulates
  · intro _
    have started : move consumer (world.store.shared consumer) .down .start =
        some (world.store.shared consumer, .create StreamName.all) := rfl
    have creating : Simulates consumer (.create StreamName.all) world :=
      ⟨simulates.1.move started, simulates.2⟩
    apply Ensures.bind ((createGroups_simulates environment StreamName.all).startingAt creating)
    intro _
    exact loop_simulates environment fuel .pending

theorem lifetime_simulates (fuel : Nat) (simulates : Simulates consumer .down world) :
    Simulates consumer .down (lifetime environment world fuel) := by
  have ends : Ensures (Simulates consumer .down) (main environment fuel)
      (fun _ => Simulates consumer .down) (fun _ => Simulates consumer .down) :=
    (main_simulates environment fuel).returning fun _ _ => Simulates.exit
  exact ends.finalState simulates

theorem lifetimes_simulate (lifetimes : List Nat) (simulates : Simulates consumer .down world) :
    Simulates consumer .down (lifetimes.foldl (lifetime environment) world) := by
  induction lifetimes generalizing world with
  | nil => exact simulates
  | cons fuel lifetimes induction =>
      exact induction (lifetime_simulates environment fuel simulates)

end Archiver

/-- Every moment of every run of the program is a state of a fleet of one process. -/
theorem runs_are_runs_of_one_archiver (environment : Environment) (lifetimes : List Nat)
    (consumer : String) :
    ∀ moment ∈ (Archiver.run environment lifetimes).moments, ∃ phase,
      (alone consumer moment phase).Reached fun _ => consumer := by
  have initial : Simulates consumer .down {} := ⟨.start, by simp⟩
  have simulates : Simulates consumer .down (Archiver.run environment lifetimes) :=
    Archiver.lifetimes_simulate environment lifetimes initial
  intro moment among
  rcases List.mem_cons.mp among with now | before
  · rw [now]
    exact ⟨.down, simulates.1⟩
  · exact simulates.2 moment before

theorem runs_are_runs_of_one_archiver_flaky : ∃ phase,
    (alone "archiver" (Archiver.run .flaky [3, 4]).store phase).Reached fun _ => "archiver" :=
  runs_are_runs_of_one_archiver .flaky [3, 4] "archiver" _ List.mem_cons_self

end BuranBrew.Telemetry

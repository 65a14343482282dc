import BuranBrew.Foundation.Sharing
import BuranBrew.Foundation.Transitions
import BuranBrew.Telemetry.Records

/-! # Several archivers on the same streams

Nothing keeps a second archiver from joining the group, under the name of its host or
under the name of another one. Producers trim the streams, and any number of processes
take their steps in any order. A step of a process is one call to a server.
-/

namespace BuranBrew.Telemetry

open Delivery

def streamMaxLen : Nat := 100000

/-! ## Streams -/

structure SharedStream where
  log : TrimmedLog EntryId Fields := {}
  group : Option (SharedGroup EntryId String) := none
  deriving DecidableEq, Repr

namespace SharedStream

/-- `XADD` with the id `*` and `MAXLEN ~`, which may drop `count` entries in all. -/
def xAdd (clock : Fin (2 ^ 63)) (fields : Fields) (count : Nat) (stream : SharedStream) :
    SharedStream :=
  { stream with
    log := (stream.log.append ⟨.next clock (lastId stream.log.appended), fields⟩).trim
      streamMaxLen count }

def createGroup (stream : SharedStream) : SharedStream :=
  match stream.group with
  | none => { stream with group := some { lastDelivered := ⊥ } }
  | some _ => stream

def fresh (count : Nat) (stream : SharedStream) : List (Entry EntryId Fields) :=
  match stream.group with
  | none => []
  | some group => (group.undelivered stream.log.retained).take count

/-- The client library turns missing content into a map without keys. -/
def shown (entry : Entry EntryId (Option Fields)) : Entry EntryId Fields :=
  ⟨entry.id, entry.content.getD []⟩

def history (consumer : String) (count : Nat) (stream : SharedStream) :
    List (Entry EntryId Fields) :=
  match stream.group with
  | none => []
  | some group => ((group.replay consumer stream.log.retained).take count).map shown

def deliver (consumer : String) (count : Nat) (stream : SharedStream) : SharedStream :=
  { stream with
    group := stream.group.map (SharedGroup.deliver consumer (stream.fresh count)) }

def xAck (id : String) (stream : SharedStream) : SharedStream :=
  { stream with
    group := stream.group.map (SharedGroup.acknowledge fun other => other.text = id) }

def Acknowledged (id : EntryId) (stream : SharedStream) : Prop :=
  ∃ group ∈ stream.group, id ∈ group.acknowledged

def Owned (consumer : String) (id : EntryId) (stream : SharedStream) : Prop :=
  ∃ group ∈ stream.group, (id, consumer) ∈ group.pending

end SharedStream

/-! ## Servers -/

structure SharedStore where
  streams : StreamName → SharedStream := fun _ => {}
  tables : (stream : StreamName) → List (Row stream) := fun _ => []

structure Handed where
  stream : StreamName
  entry : Entry EntryId Fields
  deriving DecidableEq, Repr

namespace SharedStore

def updateStream (stream : StreamName) (update : SharedStream → SharedStream)
    (store : SharedStore) : SharedStore :=
  { store with
    streams := Function.update store.streams stream (update (store.streams stream)) }

def insert {stream : StreamName} (row : Row stream) (store : SharedStore) : SharedStore :=
  { store with
    tables := Function.update store.tables stream (inserted row (store.tables stream)) }

def produce (production : Production) (count : Nat) (store : SharedStore) : SharedStore :=
  store.updateStream production.stream (.xAdd production.clock production.fields count)

def hasGroups (store : SharedStore) : Bool :=
  StreamName.all.all fun stream => (store.streams stream).group.isSome

def handedOut (count : StreamName → Nat) (stream : StreamName) : Nat :=
  min Archiver.countLimit (count stream)

def batch (cursor : Cursor) (consumer : String) (count : StreamName → Nat)
    (store : SharedStore) (stream : StreamName) : List (Entry EntryId Fields) :=
  match cursor with
  | .pending => (store.streams stream).history consumer Archiver.countLimit
  | .live => (store.streams stream).fresh (handedOut count stream)

def reply (cursor : Cursor) (consumer : String) (count : StreamName → Nat)
    (store : SharedStore) : List Handed :=
  StreamName.all.flatMap fun stream =>
    (store.batch cursor consumer count stream).map (Handed.mk stream)

def deliver (cursor : Cursor) (consumer : String) (count : StreamName → Nat)
    (store : SharedStore) : SharedStore :=
  match cursor with
  | .pending => store
  | .live =>
      { store with
        streams := fun stream =>
          (store.streams stream).deliver consumer (handedOut count stream) }

end SharedStore

/-! ## Processes -/

/-- Where a process is in `main`, with its local variables. -/
inductive Phase
  | down
  | creating (stream : StreamName) (rest : List StreamName)
  | polling (cursor : Cursor)
  /-- In `step`, with `n` messages archived before. -/
  | inserting (cursor : Cursor) (n : Nat) (m : Handed) (rest : List Handed)
  | acknowledging (cursor : Cursor) (n : Nat) (m : Handed) (rest : List Handed)
  | sleeping
  deriving DecidableEq, Repr

namespace Phase

def create : List StreamName → Phase
  | [] => polling .pending
  | stream :: rest => creating stream rest

/-- The messages of `step` that are left, and what `main` makes of its result. -/
def proceed (cursor : Cursor) (n : Nat) : List Handed → Phase
  | [] => polling (if n = 0 ∧ cursor = .pending then .live else cursor)
  | m :: rest => inserting cursor n m rest

def queue : Phase → List Handed
  | inserting _ _ m rest | acknowledging _ _ m rest => m :: rest
  | _ => []

end Phase

inductive Move
  | start
  | createGroup (outcome : CallOutcome)
  | read (outcome : CallOutcome) (count : StreamName → Nat)
  | insert (outcome : CallOutcome)
  | ack (outcome : CallOutcome)
  | wake
  | exit

def CallOutcome.apply (outcome : CallOutcome) (effect : SharedStore → SharedStore)
    (store : SharedStore) : SharedStore :=
  if outcome.tookEffect then effect store else store

def CallOutcome.next (outcome : CallOutcome) (succeeded failed : Phase) : Phase :=
  match outcome with
  | .done => succeeded
  | .failed _ => failed

def move (consumer : String) (store : SharedStore) (phase : Phase) :
    Move → Option (SharedStore × Phase)
  | .start =>
      match phase with
      | .down => some (store, .create StreamName.all)
      | _ => none
  | .createGroup outcome =>
      match phase with
      | .creating stream rest =>
          some (outcome.apply (.updateStream stream .createGroup) store,
            outcome.next (.create rest) .down)
      | _ => none
  | .read outcome count =>
      match phase with
      | .polling cursor =>
          -- NOGROUP
          if !store.hasGroups then some (store, .sleeping)
          else
            some (outcome.apply (.deliver cursor consumer count) store,
              outcome.next (.proceed cursor 0 (store.reply cursor consumer count)) .sleeping)
      | _ => none
  | .insert outcome =>
      match phase with
      | .inserting cursor n m rest =>
          -- A malformed message is dropped without a call.
          if Malformed m.stream m.entry then some (store, .acknowledging cursor n m rest)
          else
            some (outcome.apply (.insert (rowFor m.stream m.entry)) store,
              outcome.next (.acknowledging cursor n m rest) .sleeping)
      | _ => none
  | .ack outcome =>
      match phase with
      | .acknowledging cursor n m rest =>
          some (outcome.apply (.updateStream m.stream (.xAck m.entry.id.text)) store,
            outcome.next (.proceed cursor (n + 1) rest) .sleeping)
      | _ => none
  | .wake =>
      match phase with
      | .sleeping => some (store, .polling .pending)
      | _ => none
  | .exit => some (store, .down)

structure Fleet (π : Type) where
  store : SharedStore := {}
  phases : π → Phase := fun _ => .down

namespace Fleet

inductive Action (π : Type)
  /-- A producer appends; the stream may then be trimmed. -/
  | produce (production : Production) (count : Nat)
  | move (process : π) (move : Move)

variable {π : Type} [DecidableEq π]

/-- One step, where `consumer` names the processes. -/
def step (consumer : π → String) (fleet : Fleet π) : Action π → Option (Fleet π)
  | .produce production count =>
      some { fleet with store := fleet.store.produce production count }
  | .move process made =>
      (move (consumer process) fleet.store (fleet.phases process) made).map fun moved =>
        { store := moved.1, phases := Function.update fleet.phases process moved.2 }

/-- What may become of servers and processes, whatever fails and whoever dies. -/
def Reached (consumer : π → String) (fleet : Fleet π) : Prop :=
  Transitions.Reaches (step consumer) Transitions.Unrestricted {} fleet

end Fleet

end BuranBrew.Telemetry

import BuranBrew.Foundation.Execution
import BuranBrew.Telemetry.Redis

/-! # The archiver

Drains the telemetry streams into the tables of the archive. What the code cannot
decide by itself (which calls fail and whether they took effect nevertheless, when
producers append, when the process dies) is answered by an `Environment`, which may
look at everything that has happened. Log messages are left out, and so are the
addresses of the servers.
-/

namespace BuranBrew.Telemetry

open Delivery

/-! ## The archive -/

/-- An instant, in nanoseconds since the epoch. -/
abbrev Time := Int

def Time.unixMilli (ms : Int) : Time := ms * 1000000

inductive Row : StreamName → Type
  | sensor (ts : Time) (nodeId : Int) (metric : String) (value : Float64)
      (eventId : String) : Row .sensor
  | control (ts : Time) (action : String) (diffCenti : Option Int) (detail : Values)
      (eventId : String) : Row .control
  deriving DecidableEq, Repr

namespace Row

variable {stream : StreamName}

def ts : Row stream → Time
  | .sensor ts .. | .control ts .. => ts

def eventId : Row stream → String
  | .sensor _ _ _ _ eventId | .control _ _ _ _ eventId => eventId

/-- The rows would violate `UNIQUE (event_id, ts)` together. -/
def Conflicts (row other : Row stream) : Prop :=
  row.eventId = other.eventId ∧ row.ts = other.ts

instance (row other : Row stream) : Decidable (row.Conflicts other) :=
  inferInstanceAs (Decidable (_ ∧ _))

end Row

/-- A table after `INSERT … ON CONFLICT (event_id, ts) DO NOTHING`. -/
def inserted {stream : StreamName} (row : Row stream) (table : List (Row stream)) :
    List (Row stream) :=
  if ∃ other ∈ table, row.Conflicts other then table else table ++ [row]

structure Store where
  redis : StreamName → StreamState := fun _ => {}
  tables : (stream : StreamName) → List (Row stream) := fun _ => []

namespace Store

def entries (store : Store) (stream : StreamName) : List (Entry EntryId Fields) :=
  (store.redis stream).entries

def updateStream (stream : StreamName) (update : StreamState → StreamState)
    (store : Store) : Store :=
  { store with redis := Function.update store.redis stream (update (store.redis stream)) }

def insert {stream : StreamName} (row : Row stream) (store : Store) : Store :=
  { store with
    tables := Function.update store.tables stream (inserted row (store.tables stream)) }

end Store

/-- An entry that a producer appends; the clock is that of the Redis server. -/
structure Production where
  stream : StreamName
  clock : Fin (2 ^ 63)
  fields : Fields
  deriving DecidableEq, Repr

def Store.produce (store : Store) (production : Production) : Store :=
  store.updateStream production.stream (.xAdd production.clock production.fields)

/-! ## The environment -/

structure World where
  store : Store := {}
  /-- What the stores kept before, newest first. -/
  past : List Store := []

namespace World

def moments (world : World) : List Store := world.store :: world.past

def updated (update : Store → Store) (world : World) : World :=
  ⟨update world.store, world.moments⟩

end World

inductive Cursor
  | pending
  | live
  deriving DecidableEq, Repr

inductive CallError
  | redisNil
  | busyGroup
  | failed
  deriving DecidableEq, Repr

/-- A call that reports failure may nevertheless have taken effect. -/
inductive CallOutcome
  | done
  | failed (tookEffect : Bool)
  deriving DecidableEq, Repr

def CallOutcome.tookEffect : CallOutcome → Bool
  | .done => true
  | .failed tookEffect => tookEffect

def CallOutcome.error : CallOutcome → Option CallError
  | .done => none
  | .failed _ => some .failed

structure Environment where
  /-- What producers append before the next call. -/
  produces : World → List Production
  crashes : World → Bool
  /-- `ctx.Err()` is no longer nil. -/
  canceled : World → Bool
  sqlOpenFails : World → Bool
  timeNow : World → Time
  createGroup : World → StreamName → CallOutcome
  readGroup : World → Cursor → CallOutcome
  /-- How many new entries of a stream a reply carries, up to `COUNT`. -/
  available : World → StreamName → Nat
  execInsert : World → (stream : StreamName) → Row stream → CallOutcome
  ack : World → StreamName → String → CallOutcome

/-- Everything succeeds and no producer is there. -/
def Environment.calm : Environment where
  produces _ := []
  crashes _ := false
  canceled _ := false
  sqlOpenFails _ := false
  timeNow _ := 0
  createGroup _ _ := .done
  readGroup _ _ := .done
  available world stream := (world.store.redis stream).entries.length
  execInsert _ _ _ := .done
  ack _ _ _ := .done

inductive Stop
  | crash
  | fatal
  deriving DecidableEq, Repr

abbrev Go := EStateM Stop World

namespace Archiver

variable (environment : Environment)

/-- A statement boundary: producers append, and the process may die. -/
def point : Go Unit := do
  let world ← get
  let produced := (environment.produces world).foldl Store.produce
  set (world.updated produced)
  if environment.crashes world then throw .crash

def call (outcome : World → CallOutcome) (effect : Store → Store) :
    Go (Option CallError) := do
  point environment
  let world ← get
  if (outcome world).tookEffect then set (world.updated effect)
  return (outcome world).error

/-! ## Redis -/

def xGroupCreateMkStream (stream : StreamName) : Go (Option CallError) := do
  point environment
  let world ← get
  let outcome := environment.createGroup world stream
  if outcome.tookEffect then
    set (world.updated (Store.updateStream stream StreamState.createGroup))
  match outcome, (world.store.redis stream).group with
  | .done, some _ => return some .busyGroup
  | .done, none => return none
  | .failed _, _ => return some .failed

def xAck (stream : StreamName) (id : String) : Go (Option CallError) :=
  call environment (environment.ack · stream id) (Store.updateStream stream (.xAck id))

def countLimit : Nat := 100

def handedOut (world : World) (stream : StreamName) : Nat :=
  min countLimit (environment.available world stream)

def batch (cursor : Cursor) (world : World) (stream : StreamName) :
    List (Entry EntryId Fields) :=
  match cursor with
  | .pending => (world.store.redis stream).history countLimit
  | .live => (world.store.redis stream).fresh (handedOut environment world stream)

def deliver (cursor : Cursor) (world : World) (store : Store) : Store :=
  match cursor with
  | .pending => store
  | .live =>
      { store with
        redis := fun stream =>
          (store.redis stream).deliver (handedOut environment world stream) }

abbrev XStream := StreamName × List Message

def xStreams (batch : StreamName → List (Entry EntryId Fields)) : List XStream :=
  StreamName.all.map fun stream => (stream, (batch stream).map message)

def hasGroups (world : World) : Bool :=
  StreamName.all.all fun stream => (world.store.redis stream).group.isSome

def xReadGroup (cursor : Cursor) : Go (Except CallError (List XStream)) := do
  point environment
  let world ← get
  let res := xStreams (batch environment cursor world)
  -- NOGROUP
  if !hasGroups world then return .error .failed
  match environment.readGroup world cursor with
  | .done =>
      set (world.updated (deliver environment cursor world))
      -- A read of new entries that times out has no reply.
      if cursor = .live ∧ res.all (·.2.isEmpty) then return .error .redisNil
      else return .ok res
  | .failed tookEffect =>
      if tookEffect then set (world.updated (deliver environment cursor world))
      return .error .failed

/-! ## PostgreSQL -/

def exec {stream : StreamName} (row : Row stream) : Go (Option CallError) :=
  call environment (environment.execInsert · stream row) (Store.insert row)

/-! ## The program -/

def field (values : Values) (key : String) : String :=
  (values.lookup key).getD ""

def now : Go Time := do
  point environment
  return environment.timeNow (← get)

def ts (id : String) (values : Values) : Go Time :=
  match Strconv.parseInt (field values "ts_ms") with
  | (ms, none) => return .unixMilli ms
  | _ =>
      match Strconv.indexByte id '-' with
      | none => now environment
      | some i =>
          if i > 0 then
            match Strconv.parseInt (String.ofList (id.toList.take i)) with
            | (ms, none) => return .unixMilli ms
            | _ => now environment
          else now environment

def insert (stream : StreamName) (id : String) (values : Values) :
    Go (Option CallError) :=
  match stream with
  | .sensor =>
      match Strconv.parseFloat (field values "value") with
      | (_, some _) => return none
      | (value, none) => do
          let node := (Strconv.atoi (field values "node")).1
          let ts ← ts environment id values
          exec environment (.sensor ts node (field values "metric") value id)
  | .control => do
      if field values "action" = "" then return none
      let diff :=
        match Strconv.parseInt (field values "diff_centi") with
        | (d, none) => some d
        | _ => none
      let ts ← ts environment id values
      exec environment (.control ts (field values "action") diff values id)

/-- The inner loop of `step`, with `n` messages archived before. -/
def archive (stream : StreamName) (n : Nat) :
    List Message → Go (Nat × Option CallError)
  | [] => return (n, none)
  | m :: messages => do
      match ← insert environment stream m.id m.values with
      | some err => return (n, some err)
      | none =>
          match ← xAck environment stream m.id with
          | some err => return (n, some err)
          | none => archive stream (n + 1) messages

/-- The outer loop of `step`. -/
def archiveAll (n : Nat) : List XStream → Go (Nat × Option CallError)
  | [] => return (n, none)
  | s :: streams => do
      match ← archive environment s.1 n s.2 with
      | (n, some err) => return (n, some err)
      | (n, none) => archiveAll n streams

def step (cursor : Cursor) : Go (Nat × Option CallError) := do
  match ← xReadGroup environment cursor with
  | .error .redisNil => return (0, none)
  | .error err => return (0, some err)
  | .ok res => archiveAll environment 0 res

def sleep : Go Unit := point environment

/-- The body of the loop of `main`, with the cursor that it leaves behind. -/
def iteration (cursor : Cursor) : Go Cursor := do
  match ← step environment cursor with
  | (_, some _) =>
      sleep environment
      -- Drain again on recovery.
      return .pending
  | (n, none) => if n = 0 ∧ cursor = .pending then return .live else return cursor

def loop (fuel : Nat) (cursor : Cursor) : Go Cursor :=
  match fuel with
  | 0 => return cursor
  | fuel + 1 => do
      if environment.canceled (← get) then return cursor
      else loop fuel (← iteration environment cursor)

def createGroups : List StreamName → Go Unit
  | [] => return ()
  | s :: streams => do
      match ← xGroupCreateMkStream environment s with
      | none | some .busyGroup => createGroups streams
      | some _ => throw .fatal

/-- `main` up to the head of its loop after `fuel` iterations, with the cursor there. -/
def main (fuel : Nat) : Go Cursor := do
  point environment
  if environment.sqlOpenFails (← get) then throw .fatal
  else
    createGroups environment StreamName.all
    -- Start by replaying the pending entries.
    loop environment fuel .pending

def lifetime (world : World) (fuel : Nat) : World :=
  Execution.finalState ((main environment fuel).run world)

/-- Processes one after another, the stores being empty at first. -/
def run (lifetimes : List Nat) : World :=
  lifetimes.foldl (lifetime environment) {}

end Archiver

end BuranBrew.Telemetry

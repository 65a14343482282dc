import BuranBrew.Foundation.Delivery
import BuranBrew.Telemetry.Strconv
import Mathlib.Data.Prod.Lex
import Mathlib.Order.Fin.Basic

/-! # Redis streams with a consumer group

The two telemetry streams as Redis keeps them for one group with one consumer.
Entries are never trimmed.
-/

namespace BuranBrew.Telemetry

open Delivery

/-! ## Entry ids -/

instance neZeroMs : NeZero (2 ^ 63 : Nat) := ⟨by decide⟩

/-- `<ms>-<seq>`, with a millisecond part that fits `int64`. -/
structure EntryId where
  ms : Fin (2 ^ 63)
  seq : Nat
  deriving DecidableEq, Repr

namespace EntryId

def key (id : EntryId) : Fin (2 ^ 63) ×ₗ Nat := toLex (id.ms, id.seq)

theorem key_injective : Function.Injective key := by
  intro first second same
  cases first
  cases second
  cases same
  rfl

instance : LinearOrder EntryId := LinearOrder.lift' key key_injective

theorem lt_iff {first second : EntryId} :
    first < second ↔
      first.ms < second.ms ∨ first.ms = second.ms ∧ first.seq < second.seq :=
  Prod.Lex.toLex_lt_toLex

instance : OrderBot EntryId where
  bot := ⟨0, 0⟩
  bot_le id := by
    apply not_lt.mp
    rw [lt_iff]
    simp

def text (id : EntryId) : String :=
  String.ofList (Nat.toDigits 10 id.ms ++ '-' :: Nat.toDigits 10 id.seq)

theorem dash_not_mem_decimal (value : Nat) : '-' ∉ Nat.toDigits 10 value := by
  intro among
  have isDigit := Strconv.isDigit_of_mem_decimal _ among
  simp at isDigit

theorem indexByte_text (id : EntryId) :
    Strconv.indexByte id.text '-' = some (Nat.toDigits 10 id.ms).length := by
  have absent : (Nat.toDigits 10 id.ms).findIdx? (· = '-') = none := by
    apply List.findIdx?_eq_none_iff.mpr
    intro char among
    exact decide_eq_false fun same => dash_not_mem_decimal _ (same ▸ among)
  rw [Strconv.indexByte, text, String.toList_ofList, List.findIdx?_append, absent,
    List.findIdx?_cons]
  simp

theorem text_injective : Function.Injective text := by
  intro first second same
  have chars := String.ofList_injective same
  have millis : Nat.toDigits 10 first.ms = Nat.toDigits 10 second.ms := by
    have index := congrArg (Strconv.indexByte · '-') same
    simp only [indexByte_text, Option.some.injEq] at index
    exact (List.append_inj chars index).1
  rw [millis] at chars
  have seqs := List.tail_eq_of_cons_eq (List.append_cancel_left chars)
  have readBack {left right : Nat} (equal : Nat.toDigits 10 left = Nat.toDigits 10 right) :
      left = right := by
    rw [← Nat.ofDigitChars_ten_toDigits (n := left), equal, Nat.ofDigitChars_ten_toDigits]
  cases first
  cases second
  congr
  · exact Fin.ext (readBack millis)
  · exact readBack seqs

/-- The id that `XADD` generates after `last`, by the clock of the server. -/
def next (clock : Fin (2 ^ 63)) (last : EntryId) : EntryId :=
  if last.ms < clock then ⟨clock, 0⟩ else ⟨last.ms, last.seq + 1⟩

theorem lt_next (clock : Fin (2 ^ 63)) (last : EntryId) : last < next clock last := by
  rw [lt_iff, next]
  split
  · rename_i later
    exact .inl later
  · exact .inr ⟨rfl, Nat.lt_succ_self _⟩

end EntryId

/-! ## Streams -/

inductive StreamName
  | sensor
  | control
  deriving DecidableEq, Repr

def StreamName.all : List StreamName := [.sensor, .control]

theorem StreamName.mem_all (stream : StreamName) : stream ∈ all := by
  cases stream <;> simp [all]

/-- Field-value pairs in the order in which `XADD` got them. -/
abbrev Fields := List (String × String)

structure StreamState where
  entries : List (Entry EntryId Fields) := []
  group : Option (ConsumerGroup EntryId) := none
  deriving DecidableEq, Repr

namespace StreamState

/-- `XADD` with the id `*`. -/
def xAdd (clock : Fin (2 ^ 63)) (fields : Fields) (stream : StreamState) : StreamState :=
  { stream with
    entries := stream.entries ++ [⟨.next clock (lastId stream.entries), fields⟩] }

/-- `XGROUP CREATE` at the id `0`, with `MKSTREAM`. -/
def createGroup (stream : StreamState) : StreamState :=
  match stream.group with
  | none => { stream with group := some { lastDelivered := ⊥ } }
  | some _ => stream

/-- Entries that no consumer has been given, `count` of them at most. -/
def fresh (count : Nat) (stream : StreamState) : List (Entry EntryId Fields) :=
  match stream.group with
  | none => []
  | some group => (group.undelivered stream.entries).take count

/-- Entries given to the consumer and not acknowledged, `count` of them at most. -/
def history (count : Nat) (stream : StreamState) : List (Entry EntryId Fields) :=
  match stream.group with
  | none => []
  | some group => (group.outstanding stream.entries).take count

/-- What `XREADGROUP` with the id `>` does to the group. -/
def deliver (count : Nat) (stream : StreamState) : StreamState :=
  { stream with group := stream.group.map (ConsumerGroup.deliver (stream.fresh count)) }

/-- `XACK`; an id that is not pending is ignored. -/
def xAck (id : String) (stream : StreamState) : StreamState :=
  { stream with
    group := stream.group.map (ConsumerGroup.acknowledge fun other => other.text = id) }

def Acknowledged (entry : Entry EntryId Fields) (stream : StreamState) : Prop :=
  ∃ group ∈ stream.group, entry.id ∈ group.acknowledged

def Pending (entry : Entry EntryId Fields) (stream : StreamState) : Prop :=
  ∃ group ∈ stream.group, entry.id ∈ group.pending

def Delivered (entry : Entry EntryId Fields) (stream : StreamState) : Prop :=
  ∃ group ∈ stream.group, entry.id ≤ group.lastDelivered

/-- Ids increase, and the group accounts for what it has delivered. -/
structure Consistent (stream : StreamState) : Prop where
  ordered : Ordered stream.entries
  accounts : ∀ group ∈ stream.group, group.Accounts stream.entries

namespace Consistent

variable {stream : StreamState}

theorem empty : Consistent {} where
  ordered := Ordered.nil
  accounts := by simp

theorem xAdd (consistent : Consistent stream) (clock : Fin (2 ^ 63)) (fields : Fields) :
    Consistent (stream.xAdd clock fields) where
  ordered := consistent.ordered.append_singleton (EntryId.lt_next _ _)
  accounts group known :=
    (consistent.accounts group known).append_singleton (EntryId.lt_next _ _)

theorem createGroup (consistent : Consistent stream) : Consistent stream.createGroup := by
  unfold StreamState.createGroup
  split
  · constructor
    · exact consistent.ordered
    · intro group known
      cases known
      exact ConsumerGroup.Accounts.start consistent.ordered
  · exact consistent

theorem deliver (consistent : Consistent stream) (count : Nat) :
    Consistent (stream.deliver count) where
  ordered := consistent.ordered
  accounts := by
    intro group known
    rcases Option.map_eq_some_iff.mp known with ⟨before, grouped, rfl⟩
    rw [fresh, grouped]
    exact (consistent.accounts before grouped).deliver consistent.ordered count

theorem xAck (consistent : Consistent stream) (id : String) :
    Consistent (stream.xAck id) where
  ordered := consistent.ordered
  accounts := by
    intro group known
    rcases Option.map_eq_some_iff.mp known with ⟨before, grouped, rfl⟩
    exact (consistent.accounts before grouped).acknowledge _

end Consistent

/-! ## What may change between two replies -/

section Growth

variable {stream later last : StreamState} {entry : Entry EntryId Fields}

theorem acknowledged_xAck {id : String} :
    (stream.xAck id).Acknowledged entry ↔
      stream.Pending entry ∧ entry.id.text = id ∨ stream.Acknowledged entry := by
  cases grouped : stream.group with
  | none => simp [Acknowledged, Pending, xAck, grouped]
  | some group => simp [Acknowledged, Pending, xAck, grouped, ConsumerGroup.mem_acknowledge]

theorem pending_xAck {id : String} :
    (stream.xAck id).Pending entry ↔ stream.Pending entry ∧ entry.id.text ≠ id := by
  cases grouped : stream.group with
  | none => simp [Pending, xAck, grouped]
  | some group => simp [Pending, xAck, grouped, ConsumerGroup.acknowledge]

theorem createGroup_acknowledged :
    stream.createGroup.Acknowledged entry ↔ stream.Acknowledged entry := by
  cases grouped : stream.group <;> simp [Acknowledged, createGroup, grouped]

theorem deliver_acknowledged {count : Nat} :
    (stream.deliver count).Acknowledged entry ↔ stream.Acknowledged entry := by
  cases grouped : stream.group <;> simp [Acknowledged, deliver, grouped]

theorem createGroup_entries : stream.createGroup.entries = stream.entries := by
  unfold createGroup
  split <;> rfl

/-- Producers append, and entries are acknowledged, but none is handed out. -/
structure Advances (stream later : StreamState) : Prop where
  entries : stream.entries <+: later.entries
  acknowledged : ∀ entry, stream.Acknowledged entry → later.Acknowledged entry
  pending : ∀ entry, later.Pending entry → stream.Pending entry
  delivered : ∀ entry, stream.Delivered entry → later.Delivered entry

namespace Advances

theorem refl (stream : StreamState) : stream.Advances stream where
  entries := List.prefix_refl _
  acknowledged _ := id
  pending _ := id
  delivered _ := id

theorem trans (first : stream.Advances later) (second : later.Advances last) :
    stream.Advances last where
  entries := first.entries.trans second.entries
  acknowledged entry acknowledged :=
    second.acknowledged entry (first.acknowledged entry acknowledged)
  pending entry pending := first.pending entry (second.pending entry pending)
  delivered entry delivered := second.delivered entry (first.delivered entry delivered)

theorem xAdd (stream : StreamState) (clock : Fin (2 ^ 63)) (fields : Fields) :
    stream.Advances (stream.xAdd clock fields) where
  entries := List.prefix_append _ _
  acknowledged _ := id
  pending _ := id
  delivered _ := id

theorem xAck (stream : StreamState) (id : String) : stream.Advances (stream.xAck id) where
  entries := List.prefix_refl _
  acknowledged _ acknowledged := acknowledged_xAck.mpr (.inr acknowledged)
  pending _ pending := (pending_xAck.mp pending).1
  delivered _ delivered := by
    rcases delivered with ⟨group, grouped, delivered⟩
    exact ⟨_, Option.mem_map_of_mem _ grouped, delivered⟩

end Advances

def Preceded (entry : Entry EntryId Fields) (stream : StreamState) : Prop :=
  ∀ earlier ∈ stream.entries, earlier.id < entry.id → stream.Acknowledged earlier

theorem Advances.known_of_lt (advances : stream.Advances later) (consistent : later.Consistent)
    (known : entry ∈ stream.entries) {earlier : Entry EntryId Fields}
    (among : earlier ∈ later.entries) (before : earlier.id < entry.id) :
    earlier ∈ stream.entries := by
  rcases advances.entries with ⟨appended, entries⟩
  have increasing := consistent.ordered.increasing
  rw [← entries] at increasing among
  rcases List.mem_append.mp among with old | new
  · exact old
  · have after := (List.pairwise_append.mp increasing).2.2 entry known earlier new
    exact absurd before after.not_gt

theorem Preceded.advance (preceded : stream.Preceded entry) (advances : stream.Advances later)
    (consistent : later.Consistent) (known : entry ∈ stream.entries) :
    later.Preceded entry := by
  intro earlier among before
  have old := advances.known_of_lt consistent known among before
  exact advances.acknowledged earlier (preceded earlier old before)

theorem Consistent.acknowledged_known (consistent : stream.Consistent)
    (acknowledged : stream.Acknowledged entry) :
    ∃ other ∈ stream.entries, other.id = entry.id := by
  rcases acknowledged with ⟨group, grouped, acknowledged⟩
  exact (consistent.accounts group grouped).known entry.id (.inr acknowledged)

theorem Consistent.known_of_pending (consistent : stream.Consistent)
    (pending : stream.Pending entry) : ∃ other ∈ stream.entries, other.id = entry.id := by
  rcases pending with ⟨group, grouped, pending⟩
  exact (consistent.accounts group grouped).known entry.id (.inl pending)

theorem Consistent.accounted (consistent : stream.Consistent)
    (known : entry ∈ stream.entries) (delivered : stream.Delivered entry) :
    stream.Acknowledged entry ∨ stream.Pending entry := by
  rcases delivered with ⟨group, grouped, delivered⟩
  rcases (consistent.accounts group grouped).accounted entry known delivered with
    done | waiting
  · exact .inl ⟨group, grouped, done⟩
  · exact .inr ⟨group, grouped, waiting⟩

/-- Entries in the order of the log that have been handed out, such that everything
before them is acknowledged or among them. -/
structure Ready (batch : List (Entry EntryId Fields)) (stream : StreamState) : Prop where
  known : ∀ entry ∈ batch, entry ∈ stream.entries
  delivered : ∀ entry ∈ batch, stream.Delivered entry
  increasing : Increasing batch
  closed : ∀ entry ∈ batch, ∀ earlier ∈ stream.entries, earlier.id < entry.id →
    stream.Acknowledged earlier ∨ earlier ∈ batch

namespace Ready

variable {batch : List (Entry EntryId Fields)}

theorem advance (ready : Ready batch stream) (advances : stream.Advances later)
    (consistent : later.Consistent) : Ready batch later where
  known entry among := advances.entries.subset (ready.known entry among)
  delivered entry among := advances.delivered entry (ready.delivered entry among)
  increasing := ready.increasing
  closed := by
    intro entry among earlier earlierKnown before
    have old := advances.known_of_lt consistent (ready.known entry among) earlierKnown before
    rcases ready.closed entry among earlier old before with done | waiting
    · exact .inl (advances.acknowledged earlier done)
    · exact .inr waiting

theorem preceded (ready : Ready (entry :: batch) stream) : stream.Preceded entry := by
  intro earlier known before
  rcases ready.closed entry List.mem_cons_self earlier known before with done | waiting
  · exact done
  · rcases List.mem_cons.mp waiting with same | later
    · rw [same] at before
      exact absurd before (lt_irrefl _)
    · have after := (List.pairwise_cons.mp ready.increasing).1 earlier later
      exact absurd before after.not_gt

theorem tail (ready : Ready (entry :: batch) stream) (done : stream.Acknowledged entry) :
    Ready batch stream where
  known other among := ready.known other (List.mem_cons_of_mem _ among)
  delivered other among := ready.delivered other (List.mem_cons_of_mem _ among)
  increasing := (List.pairwise_cons.mp ready.increasing).2
  closed := by
    intro other among earlier known before
    rcases ready.closed other (List.mem_cons_of_mem _ among) earlier known before with
      acknowledged | waiting
    · exact .inl acknowledged
    · rcases List.mem_cons.mp waiting with same | later
      · rw [same]
        exact .inl done
      · exact .inr later

theorem nil : Ready [] stream where
  known := by simp
  delivered := by simp
  increasing := List.Pairwise.nil
  closed := by simp

end Ready

theorem Pending.of_id_eq {other : Entry EntryId Fields} (pending : stream.Pending entry)
    (same : entry.id = other.id) : stream.Pending other := by
  rw [Pending, ← same]
  exact pending

theorem Ready.history (consistent : stream.Consistent) (count : Nat) :
    Ready (stream.history count) stream := by
  cases grouped : stream.group with
  | none =>
      rw [StreamState.history, grouped]
      exact .nil
  | some group =>
      rw [StreamState.history, grouped]
      have accounts := consistent.accounts group grouped
      have increasing : Increasing (group.outstanding stream.entries) :=
        consistent.ordered.increasing.filter _
      have member (entry : Entry EntryId Fields)
          (taken : entry ∈ (group.outstanding stream.entries).take count) :=
        ConsumerGroup.mem_outstanding.mp (List.mem_of_mem_take taken)
      constructor
      · exact fun entry taken => (member entry taken).1
      · intro entry taken
        exact ⟨group, grouped, accounts.handed _ (.inl (member entry taken).2)⟩
      · exact increasing.take
      · intro entry taken earlier known before
        have delivered := before.le.trans (accounts.handed _ (.inl (member entry taken).2))
        rcases accounts.accounted earlier known delivered with done | waiting
        · exact .inl ⟨group, grouped, done⟩
        · right
          apply increasing.mem_take_of_le taken _ before.le
          exact ConsumerGroup.mem_outstanding.mpr ⟨known, waiting⟩

theorem Ready.fresh (consistent : stream.Consistent) (idle : ∀ entry, ¬stream.Pending entry)
    (count : Nat) : Ready (stream.fresh count) (stream.deliver count) := by
  cases grouped : stream.group with
  | none =>
      rw [StreamState.fresh, grouped]
      exact .nil
  | some group =>
      have accounts := consistent.accounts group grouped
      have increasing : Increasing (group.undelivered stream.entries) :=
        consistent.ordered.increasing.filter _
      have member (entry : Entry EntryId Fields)
          (taken : entry ∈ (group.undelivered stream.entries).take count) :=
        ConsumerGroup.mem_undelivered.mp (List.mem_of_mem_take taken)
      have taken : stream.fresh count = (group.undelivered stream.entries).take count := by
        rw [StreamState.fresh, grouped]
      have delivered : (stream.deliver count).group =
          some (group.deliver ((group.undelivered stream.entries).take count)) := by
        rw [StreamState.deliver, grouped, ← taken]
        rfl
      rw [taken]
      constructor
      · exact fun entry handed => (member entry handed).1
      · intro entry handed
        exact ⟨_, delivered, ConsumerGroup.le_lastDelivered_deliver increasing.take handed⟩
      · exact increasing.take
      · intro entry handed earlier known before
        rcases le_or_gt earlier.id group.lastDelivered with old | new
        · rcases accounts.accounted earlier known old with done | waiting
          · exact .inl (deliver_acknowledged.mpr ⟨group, grouped, done⟩)
          · exact absurd ⟨group, grouped, waiting⟩ (idle earlier)
        · right
          apply increasing.mem_take_of_le handed _ before.le
          exact ConsumerGroup.mem_undelivered.mpr ⟨known, new⟩

theorem pending_deliver {count : Nat} (pending : (stream.deliver count).Pending entry) :
    stream.Pending entry ∨ ∃ other ∈ stream.fresh count, other.id = entry.id := by
  rcases pending with ⟨group, grouped, pending⟩
  rcases Option.map_eq_some_iff.mp grouped with ⟨before, beforeGrouped, rfl⟩
  rcases List.mem_append.mp pending with old | new
  · exact .inl ⟨before, beforeGrouped, old⟩
  · right
    simpa using new

theorem deliver_pending {count : Nat} (pending : stream.Pending entry) :
    (stream.deliver count).Pending entry := by
  rcases pending with ⟨group, grouped, pending⟩
  exact ⟨_, Option.mem_map_of_mem _ grouped, List.mem_append_left _ pending⟩

theorem deliver_delivered {count : Nat} (delivered : stream.Delivered entry) :
    (stream.deliver count).Delivered entry := by
  rcases delivered with ⟨group, grouped, delivered⟩
  refine ⟨_, Option.mem_map_of_mem _ grouped, delivered.trans ?_⟩
  rw [fresh, Option.mem_def.mp grouped]
  exact ConsumerGroup.lastDelivered_le_deliver count

theorem not_delivered_of_mem_fresh {count : Nat} (handed : entry ∈ stream.fresh count) :
    entry ∈ stream.entries ∧ ¬stream.Delivered entry := by
  cases grouped : stream.group with
  | none => simp [fresh, grouped] at handed
  | some group =>
      rw [fresh, grouped] at handed
      have undelivered := ConsumerGroup.mem_undelivered.mp (List.mem_of_mem_take handed)
      simpa [Delivered, grouped] using undelivered

theorem pending_of_mem_fresh {count : Nat} (handed : entry ∈ stream.fresh count) :
    (stream.deliver count).Pending entry := by
  cases grouped : stream.group with
  | none => simp [fresh, grouped] at handed
  | some group =>
      rw [Pending, deliver, grouped]
      exact ⟨_, rfl, List.mem_append_right _ (List.mem_map_of_mem handed)⟩

theorem pending_of_mem_history {count : Nat} (handed : entry ∈ stream.history count) :
    stream.Pending entry := by
  cases grouped : stream.group with
  | none => simp [history, grouped] at handed
  | some group =>
      rw [history, grouped] at handed
      exact ⟨group, grouped,
        (ConsumerGroup.mem_outstanding.mp (List.mem_of_mem_take handed)).2⟩

theorem delivered_of_fresh_eq_nil (grouped : stream.group.isSome) {count : Nat}
    (positive : 0 < count) (empty : stream.fresh count = [])
    (known : entry ∈ stream.entries) : stream.Delivered entry := by
  rcases Option.isSome_iff_exists.mp grouped with ⟨group, grouped⟩
  refine ⟨group, grouped, not_lt.mp fun undelivered => ?_⟩
  have among := ConsumerGroup.mem_undelivered.mpr ⟨known, undelivered⟩
  rw [fresh, grouped, List.take_eq_nil_iff] at empty
  rcases empty with zero | nil
  · exact absurd zero positive.ne'
  · rw [nil] at among
    simp at among

theorem Consistent.delivered_of_acknowledged (consistent : stream.Consistent)
    (acknowledged : stream.Acknowledged entry) : stream.Delivered entry := by
  rcases acknowledged with ⟨group, grouped, acknowledged⟩
  exact ⟨group, grouped, (consistent.accounts group grouped).handed _ (.inr acknowledged)⟩

theorem Consistent.not_pending (consistent : stream.Consistent) {count : Nat}
    (positive : 0 < count) (empty : stream.history count = []) : ¬stream.Pending entry := by
  rintro ⟨group, grouped, pending⟩
  rcases (consistent.accounts group grouped).known _ (.inl pending) with
    ⟨other, known, same⟩
  rw [← same] at pending
  have outstanding := ConsumerGroup.mem_outstanding.mpr ⟨known, pending⟩
  rw [StreamState.history, Option.mem_def.mp grouped, List.take_eq_nil_iff] at empty
  rcases empty with none | nil
  · exact absurd none positive.ne'
  · rw [nil] at outstanding
    simp at outstanding

end Growth

end StreamState

/-! ## What the client library makes of a reply -/

/-- A Go map with its keys in order. -/
abbrev Values := List (String × String)

def Values.put (key value : String) : Values → Values
  | [] => [(key, value)]
  | (other, current) :: rest =>
      if key = other then (key, value) :: rest
      else if key < other then (key, value) :: (other, current) :: rest
      else (other, current) :: Values.put key value rest

def Values.ofFields (fields : Fields) : Values :=
  fields.foldl (fun values pair => values.put pair.1 pair.2) []

structure Message where
  id : String
  values : Values
  deriving DecidableEq, Repr

def message (entry : Entry EntryId Fields) : Message :=
  ⟨entry.id.text, .ofFields entry.content⟩

end BuranBrew.Telemetry

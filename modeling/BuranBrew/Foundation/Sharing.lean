import BuranBrew.Foundation.Delivery
import Mathlib.Data.List.Sort

/-! # Delivery to several consumers from a trimmed log

The oldest entries of a log may be dropped. A group hands each entry to one of its
consumers, for whom it stays pending until anyone acknowledges it.
-/

namespace BuranBrew.Delivery

/-- Everything that was appended; the first `trimmed` entries are gone. -/
structure TrimmedLog (ι α : Type) where
  appended : List (Entry ι α) := []
  trimmed : Nat := 0
  deriving DecidableEq, Repr

structure SharedGroup (ι κ : Type) where
  lastDelivered : ι
  pending : List (ι × κ) := []
  acknowledged : List ι := []
  deriving DecidableEq, Repr

variable {ι α κ : Type}

namespace TrimmedLog

def retained (log : TrimmedLog ι α) : List (Entry ι α) :=
  log.appended.drop log.trimmed

def gone (log : TrimmedLog ι α) : List (Entry ι α) :=
  log.appended.take log.trimmed

def append (entry : Entry ι α) (log : TrimmedLog ι α) : TrimmedLog ι α :=
  { log with appended := log.appended ++ [entry] }

/-- Drops old entries, up to `count` of them in all, while `limit` others remain. -/
def trim (limit count : Nat) (log : TrimmedLog ι α) : TrimmedLog ι α :=
  { log with trimmed := max log.trimmed (min count (log.appended.length - limit)) }

/-- Whatever is gone left at least `limit` entries behind. -/
def Keeps (limit : Nat) (log : TrimmedLog ι α) : Prop :=
  log.trimmed = 0 ∨ log.trimmed + limit ≤ log.appended.length

variable {log : TrimmedLog ι α} {entry : Entry ι α} {limit count : Nat}

@[simp] theorem append_appended : (log.append entry).appended = log.appended ++ [entry] := rfl

@[simp] theorem trim_appended : (log.trim limit count).appended = log.appended := rfl

theorem gone_or_retained (among : entry ∈ log.appended) :
    entry ∈ log.gone ∨ entry ∈ log.retained := by
  rw [← List.take_append_drop log.trimmed log.appended] at among
  exact List.mem_append.mp among

theorem mem_of_retained (among : entry ∈ log.retained) : entry ∈ log.appended :=
  List.mem_of_mem_drop among

theorem gone_append {other : Entry ι α} (among : entry ∈ log.gone) :
    entry ∈ (log.append other).gone := by
  rw [gone, append_appended, List.take_append]
  exact List.mem_append_left _ among

theorem gone_trim (among : entry ∈ log.gone) : entry ∈ (log.trim limit count).gone :=
  (List.take_subset_take_left log.appended (Nat.le_max_left _ _)) among

namespace Keeps

theorem empty : Keeps limit ({} : TrimmedLog ι α) := .inl rfl

theorem append (keeps : log.Keeps limit) : (log.append entry).Keeps limit := by
  rcases keeps with none | enough
  · exact .inl none
  · right
    simp only [append_appended, List.length_append, List.length_singleton]
    exact Nat.le_succ_of_le enough

theorem trim (keeps : log.Keeps limit) : (log.trim limit count).Keeps limit := by
  unfold Keeps at keeps ⊢
  simp only [TrimmedLog.trim]
  omega

end Keeps

section Order

variable [LinearOrder ι]

def after (entry : Entry ι α) (log : TrimmedLog ι α) : List (Entry ι α) :=
  log.appended.filter fun other => entry.id < other.id

theorem Keeps.le_after (keeps : log.Keeps limit) (increasing : Increasing log.appended)
    (among : entry ∈ log.gone) : limit ≤ (log.after entry).length := by
  have enough : log.trimmed + limit ≤ log.appended.length := by
    rcases keeps with none | enough
    · simp [gone, none] at among
    · exact enough
  have later (other : Entry ι α) (kept : other ∈ log.retained) : entry.id < other.id := by
    rw [Increasing, ← List.take_append_drop log.trimmed log.appended] at increasing
    exact (List.pairwise_append.mp increasing).2.2 entry among other kept
  have sublist : List.Sublist log.retained (log.after entry) := by
    have selected : log.retained.filter (fun other => entry.id < other.id) = log.retained :=
      List.filter_eq_self.mpr fun other kept => decide_eq_true (later other kept)
    rw [← selected]
    exact (List.drop_sublist _ _).filter _
  calc
    limit ≤ log.appended.length - log.trimmed := by omega
    _ = log.retained.length := (List.length_drop).symm
    _ ≤ (log.after entry).length := sublist.length_le

end Order

end TrimmedLog

namespace SharedGroup

def deliver (consumer : κ) (batch : List (Entry ι α)) (group : SharedGroup ι κ) :
    SharedGroup ι κ :=
  { group with
    lastDelivered := (batch.getLast?.map Entry.id).getD group.lastDelivered
    pending := group.pending ++ batch.map fun entry => (entry.id, consumer) }

def acknowledge (chosen : ι → Bool) (group : SharedGroup ι κ) : SharedGroup ι κ :=
  { group with
    pending := group.pending.filter fun held => !chosen held.1
    acknowledged := (group.pending.map Prod.fst).filter chosen ++ group.acknowledged }

/-- The id is pending for some consumer. -/
def Waiting (id : ι) (group : SharedGroup ι κ) : Prop :=
  ∃ consumer, (id, consumer) ∈ group.pending

def Held (id : ι) (group : SharedGroup ι κ) : Prop :=
  group.Waiting id ∨ id ∈ group.acknowledged

variable {group : SharedGroup ι κ} {consumer owner : κ} {batch : List (Entry ι α)}
  {chosen : ι → Bool} {id : ι}

theorem waiting_iff : group.Waiting id ↔ id ∈ group.pending.map Prod.fst := by
  simp [Waiting]

theorem mem_pending_deliver :
    (id, owner) ∈ (group.deliver consumer batch).pending ↔
      (id, owner) ∈ group.pending ∨ (∃ entry ∈ batch, entry.id = id) ∧ owner = consumer := by
  simp only [deliver, List.mem_append, List.mem_map, Prod.mk.injEq]
  constructor
  · rintro (before | ⟨entry, handed, same, rfl⟩)
    · exact .inl before
    · exact .inr ⟨⟨entry, handed, same⟩, rfl⟩
  · rintro (before | ⟨⟨entry, handed, same⟩, rfl⟩)
    · exact .inl before
    · exact .inr ⟨entry, handed, same, rfl⟩

theorem waiting_deliver :
    (group.deliver consumer batch).Waiting id ↔
      group.Waiting id ∨ ∃ entry ∈ batch, entry.id = id := by
  simp [Waiting, mem_pending_deliver, exists_or]

@[simp] theorem deliver_acknowledged :
    (group.deliver consumer batch).acknowledged = group.acknowledged := rfl

theorem mem_pending_acknowledge :
    (id, owner) ∈ (group.acknowledge chosen).pending ↔
      (id, owner) ∈ group.pending ∧ chosen id = false := by
  simp [acknowledge]

theorem waiting_acknowledge :
    (group.acknowledge chosen).Waiting id ↔ group.Waiting id ∧ chosen id = false := by
  simp [Waiting, mem_pending_acknowledge]

theorem mem_acknowledge :
    id ∈ (group.acknowledge chosen).acknowledged ↔
      group.Waiting id ∧ chosen id = true ∨ id ∈ group.acknowledged := by
  simp [acknowledge, Waiting]

theorem held_acknowledge : (group.acknowledge chosen).Held id ↔ group.Held id := by
  unfold Held
  rw [waiting_acknowledge, mem_acknowledge]
  cases chosen id <;> simp

section Selection

variable [LinearOrder ι]

def undelivered (entries : List (Entry ι α)) (group : SharedGroup ι κ) :
    List (Entry ι α) :=
  entries.filter fun entry => group.lastDelivered < entry.id

/-- What is pending for a consumer; the content of an entry that is gone is missing. -/
def replay [DecidableEq κ] (consumer : κ) (entries : List (Entry ι α))
    (group : SharedGroup ι κ) : List (Entry ι (Option α)) :=
  (group.pending.filter fun held => held.2 = consumer).map fun held =>
    ⟨held.1, (entries.find? fun entry => entry.id = held.1).map Entry.content⟩

variable {entries : List (Entry ι α)} {entry : Entry ι α}

theorem mem_undelivered :
    entry ∈ group.undelivered entries ↔
      entry ∈ entries ∧ group.lastDelivered < entry.id := by
  simp [undelivered]

theorem mem_replay [DecidableEq κ] {shown : Entry ι (Option α)}
    (among : shown ∈ group.replay consumer entries) :
    (shown.id, consumer) ∈ group.pending ∧
      ((∃ entry ∈ entries, shown = ⟨entry.id, some entry.content⟩) ∨
        shown.content = none ∧ ∀ entry ∈ entries, entry.id ≠ shown.id) := by
  rcases List.mem_map.mp among with ⟨⟨id, owner⟩, selected, rfl⟩
  rcases List.mem_filter.mp selected with ⟨pending, same⟩
  replace same : owner = consumer := of_decide_eq_true same
  subst same
  refine ⟨pending, ?_⟩
  cases found : entries.find? fun entry => entry.id = id with
  | none =>
      right
      refine ⟨by simp, ?_⟩
      intro entry among
      simpa using List.find?_eq_none.mp found entry among
  | some entry =>
      left
      have same : entry.id = id := by simpa using List.find?_some found
      refine ⟨entry, List.mem_of_find?_eq_some found, ?_⟩
      rw [same]
      rfl

end Selection

variable [LinearOrder ι] [OrderBot ι]

/-- Every delivered entry is acknowledged, pending or gone. -/
structure Accounts (log : TrimmedLog ι α) (group : SharedGroup ι κ) : Prop where
  within : group.lastDelivered ≤ lastId log.appended
  known : ∀ id, group.Held id → ∃ entry ∈ log.appended, entry.id = id
  handed : ∀ id, group.Held id → id ≤ group.lastDelivered
  accounted : ∀ entry ∈ log.appended, entry.id ≤ group.lastDelivered →
    group.Held entry.id ∨ entry ∈ log.gone
  increasing : (group.pending.map Prod.fst).Pairwise (· < ·)
  apart : ∀ id ∈ group.acknowledged, ¬group.Waiting id

variable {log : TrimmedLog ι α} {entry : Entry ι α}

namespace Accounts

theorem start (ordered : Ordered log.appended) :
    Accounts log ({ lastDelivered := ⊥ } : SharedGroup ι κ) where
  within := bot_le
  known := by simp [Held, Waiting]
  handed := by simp [Held, Waiting]
  accounted entry among delivered :=
    absurd (ordered.positive entry among) delivered.not_gt
  increasing := List.Pairwise.nil
  apart := by simp

theorem append (accounts : Accounts log group) (later : lastId log.appended < entry.id) :
    Accounts (log.append entry) group where
  within := by
    rw [TrimmedLog.append_appended, lastId_append_singleton]
    exact accounts.within.trans later.le
  known id held := by
    rcases accounts.known id held with ⟨other, among, same⟩
    exact ⟨other, List.mem_append_left _ among, same⟩
  handed := accounts.handed
  accounted other among delivered := by
    rcases List.mem_append.mp among with before | same
    · exact (accounts.accounted other before delivered).imp id TrimmedLog.gone_append
    · rw [List.mem_singleton.mp same] at delivered
      exact absurd (delivered.trans accounts.within) later.not_ge
  increasing := accounts.increasing
  apart := accounts.apart

theorem trim (accounts : Accounts log group) (limit count : Nat) :
    Accounts (log.trim limit count) group where
  within := accounts.within
  known := accounts.known
  handed := accounts.handed
  accounted other among delivered :=
    (accounts.accounted other among delivered).imp id TrimmedLog.gone_trim
  increasing := accounts.increasing
  apart := accounts.apart

theorem acknowledge (accounts : Accounts log group) (chosen : ι → Bool) :
    Accounts log (group.acknowledge chosen) where
  within := accounts.within
  known id held := accounts.known id (held_acknowledge.mp held)
  handed id held := accounts.handed id (held_acknowledge.mp held)
  accounted entry among delivered :=
    (accounts.accounted entry among delivered).imp held_acknowledge.mpr id
  increasing := accounts.increasing.sublist (List.filter_sublist.map _)
  apart id done waiting := by
    rcases waiting_acknowledge.mp waiting with ⟨waiting, unchosen⟩
    rcases mem_acknowledge.mp done with chosen | before
    · simp [unchosen] at chosen
    · exact accounts.apart id before waiting

theorem deliver (accounts : Accounts log group) (ordered : Ordered log.appended)
    (consumer : κ) (count : Nat) :
    Accounts log (group.deliver consumer ((group.undelivered log.retained).take count)) := by
  have increasing : Increasing (group.undelivered log.retained) :=
    (List.Pairwise.sublist (List.drop_sublist _ _) ordered.increasing).filter _
  have member (other : Entry ι α)
      (taken : other ∈ (group.undelivered log.retained).take count) :
      other ∈ log.retained ∧ group.lastDelivered < other.id :=
    mem_undelivered.mp (List.mem_of_mem_take taken)
  have closed (other later : Entry ι α)
      (taken : later ∈ (group.undelivered log.retained).take count)
      (among : other ∈ group.undelivered log.retained) (below : other.id ≤ later.id) :
      other ∈ (group.undelivered log.retained).take count :=
    increasing.mem_take_of_le taken among below
  replace increasing := increasing.take (i := count)
  generalize (group.undelivered log.retained).take count = batch at increasing member closed ⊢
  rcases List.eq_nil_or_concat batch with rfl | ⟨earlier, last, rfl⟩
  · simpa [SharedGroup.deliver] using accounts
  · rw [List.concat_eq_append] at increasing member closed ⊢
    have fresh := member last (by simp)
    have lastDelivered :
        (group.deliver consumer (earlier ++ [last])).lastDelivered = last.id := by
      simp [SharedGroup.deliver]
    have held (id : ι) : (group.deliver consumer (earlier ++ [last])).Held id ↔
        group.Held id ∨ ∃ entry ∈ earlier ++ [last], entry.id = id := by
      rw [Held, waiting_deliver, deliver_acknowledged, or_right_comm]
      rfl
    constructor
    · rw [lastDelivered]
      exact ordered.le_lastId (TrimmedLog.mem_of_retained fresh.1)
    · intro id heldNow
      rcases (held id).mp heldNow with before | ⟨other, taken, same⟩
      · exact accounts.known id before
      · exact ⟨other, TrimmedLog.mem_of_retained (member other taken).1, same⟩
    · intro id heldNow
      rw [lastDelivered]
      rcases (held id).mp heldNow with before | ⟨other, taken, rfl⟩
      · exact (accounts.handed id before).trans fresh.2.le
      · exact Increasing.le_last increasing taken
    · intro other among delivered
      rw [lastDelivered] at delivered
      rw [held]
      rcases le_or_gt other.id group.lastDelivered with before | later
      · exact (accounts.accounted other among before).imp .inl id
      · rcases TrimmedLog.gone_or_retained among with gone | retained
        · exact .inr gone
        · left
          right
          exact ⟨other, closed other last (by simp)
            (mem_undelivered.mpr ⟨retained, later⟩) delivered, rfl⟩
    · rw [SharedGroup.deliver, List.map_append, List.map_map]
      apply List.pairwise_append.mpr
      refine ⟨accounts.increasing, List.pairwise_map.mpr increasing, ?_⟩
      intro id waiting new handed
      rcases List.mem_map.mp handed with ⟨other, taken, rfl⟩
      exact (accounts.handed id (.inl (waiting_iff.mpr waiting))).trans_lt
        (member other taken).2
    · intro id done waiting
      rcases waiting_deliver.mp waiting with before | ⟨other, taken, rfl⟩
      · exact accounts.apart id done before
      · exact absurd (accounts.handed _ (.inr done)) (member other taken).2.not_ge

theorem owner_unique (accounts : Accounts log group) (first : (id, consumer) ∈ group.pending)
    (second : (id, owner) ∈ group.pending) : consumer = owner := by
  have distinct : (group.pending.map Prod.fst).Nodup := accounts.increasing.imp ne_of_lt
  have same := List.inj_on_of_nodup_map distinct first second rfl
  exact congrArg Prod.snd same

end Accounts

end SharedGroup

/-! ## A group with one consumer -/

namespace ConsumerGroup

/-- A group in which everything is pending for the same consumer. -/
def ownedBy (consumer : κ) (group : ConsumerGroup ι) : SharedGroup ι κ where
  lastDelivered := group.lastDelivered
  pending := group.pending.map fun id => (id, consumer)
  acknowledged := group.acknowledged

variable {group : ConsumerGroup ι} {consumer : κ}

theorem ownedBy_deliver (batch : List (Entry ι α)) :
    (group.deliver batch).ownedBy consumer =
      (group.ownedBy consumer).deliver consumer batch := by
  simp [ownedBy, deliver, SharedGroup.deliver]

theorem ownedBy_acknowledge (chosen : ι → Bool) :
    (group.acknowledge chosen).ownedBy consumer =
      (group.ownedBy consumer).acknowledge chosen := by
  simp [ownedBy, acknowledge, SharedGroup.acknowledge, List.filter_map, Function.comp_def]

theorem waiting_ownedBy {id : ι} : (group.ownedBy consumer).Waiting id ↔ id ∈ group.pending := by
  simp [SharedGroup.Waiting, ownedBy]

variable [LinearOrder ι]

theorem replay_ownedBy [DecidableEq κ] [OrderBot ι] {entries : List (Entry ι α)}
    (ordered : Ordered entries) (accounts : (group.ownedBy consumer).Accounts ⟨entries, 0⟩) :
    (group.ownedBy consumer).replay consumer entries =
      (group.outstanding entries).map fun entry => ⟨entry.id, some entry.content⟩ := by
  have increasing : group.pending.Pairwise (· < ·) := by
    simpa [ownedBy, Function.comp_def] using accounts.increasing
  have sorted : ((group.outstanding entries).map Entry.id).Pairwise (· < ·) :=
    List.pairwise_map.mpr (ordered.increasing.filter _)
  have pending : group.pending = (group.outstanding entries).map Entry.id := by
    apply increasing.eq_of_mem_iff sorted
    intro id
    constructor
    · intro waiting
      rcases accounts.known id (.inl (waiting_ownedBy.mpr waiting)) with ⟨entry, known, rfl⟩
      exact List.mem_map_of_mem (mem_outstanding.mpr ⟨known, waiting⟩)
    · intro among
      rcases List.mem_map.mp among with ⟨entry, outstanding, rfl⟩
      exact (mem_outstanding.mp outstanding).2
  have found (entry : Entry ι α) (among : entry ∈ group.outstanding entries) :
      entries.find? (fun other => other.id = entry.id) = some entry := by
    have known := (mem_outstanding.mp among).1
    cases search : entries.find? fun other => other.id = entry.id with
    | none => simpa using List.find?_eq_none.mp search entry known
    | some other =>
        have same : other.id = entry.id := by simpa using List.find?_some search
        rw [ordered.increasing.eq_of_id_eq (List.mem_of_find?_eq_some search) known same]
  calc
    (group.ownedBy consumer).replay consumer entries =
        group.pending.map fun id =>
          ⟨id, (entries.find? fun entry => entry.id = id).map Entry.content⟩ := by
      simp [SharedGroup.replay, ownedBy, List.filter_map, Function.comp_def]
    _ = (group.outstanding entries).map fun entry => ⟨entry.id, some entry.content⟩ := by
      rw [pending, List.map_map]
      apply List.map_congr_left
      intro entry among
      simp [found entry among]

end ConsumerGroup

end BuranBrew.Delivery

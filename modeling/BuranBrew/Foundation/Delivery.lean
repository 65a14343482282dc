import Mathlib.Order.BoundedOrder.Lattice
import Mathlib.Data.List.Nodup

/-! # Delivery from an append-only log

A group reads a log whose entries have increasing ids. What it has handed out
stays pending until it is acknowledged.
-/

namespace BuranBrew.Delivery

structure Entry (ι α : Type) where
  id : ι
  content : α
  deriving DecidableEq, Repr

structure ConsumerGroup (ι : Type) where
  lastDelivered : ι
  pending : List ι := []
  acknowledged : List ι := []
  deriving DecidableEq, Repr

variable {ι α : Type}

namespace ConsumerGroup

def deliver (batch : List (Entry ι α)) (group : ConsumerGroup ι) : ConsumerGroup ι :=
  { group with
    lastDelivered := (batch.getLast?.map Entry.id).getD group.lastDelivered
    pending := group.pending ++ batch.map Entry.id }

/-- Only what is pending can be acknowledged. -/
def acknowledge (chosen : ι → Bool) (group : ConsumerGroup ι) : ConsumerGroup ι :=
  { group with
    pending := group.pending.filter fun id => !chosen id
    acknowledged := group.pending.filter chosen ++ group.acknowledged }

@[simp] theorem deliver_acknowledged (batch : List (Entry ι α))
    (group : ConsumerGroup ι) : (group.deliver batch).acknowledged = group.acknowledged := rfl

theorem mem_acknowledge {chosen : ι → Bool} {group : ConsumerGroup ι} {id : ι} :
    id ∈ (group.acknowledge chosen).acknowledged ↔
      (id ∈ group.pending ∧ chosen id = true) ∨ id ∈ group.acknowledged := by
  simp [acknowledge]

theorem held_of_acknowledge {chosen : ι → Bool} {group : ConsumerGroup ι} {id : ι}
    (held : id ∈ (group.acknowledge chosen).pending ∨
      id ∈ (group.acknowledge chosen).acknowledged) :
    id ∈ group.pending ∨ id ∈ group.acknowledged := by
  rcases held with waiting | done
  · exact .inl (List.mem_of_mem_filter waiting)
  · rcases mem_acknowledge.mp done with chosen | before
    · exact .inl chosen.1
    · exact .inr before

end ConsumerGroup

section Increasing

variable [LinearOrder ι]

def Increasing (entries : List (Entry ι α)) : Prop :=
  entries.Pairwise fun first second => first.id < second.id

namespace Increasing

variable {entries : List (Entry ι α)} {first second : Entry ι α}

theorem eq_of_id_eq (increasing : Increasing entries) (firstAmong : first ∈ entries)
    (secondAmong : second ∈ entries) (same : first.id = second.id) : first = second := by
  have distinct : (entries.map Entry.id).Nodup :=
    List.pairwise_map.mpr (increasing.imp ne_of_lt)
  exact List.inj_on_of_nodup_map distinct firstAmong secondAmong same

theorem le_last {last : Entry ι α} (increasing : Increasing (entries ++ [last]))
    (among : first ∈ entries ++ [last]) : first.id ≤ last.id := by
  rcases List.mem_append.mp among with before | same
  · exact ((List.pairwise_append.mp increasing).2.2 first before last (by simp)).le
  · rw [List.mem_singleton.mp same]

theorem mem_take_of_le (increasing : Increasing entries) {count : Nat}
    (taken : second ∈ entries.take count) (among : first ∈ entries)
    (below : first.id ≤ second.id) : first ∈ entries.take count := by
  rw [← List.take_append_drop count entries] at increasing among
  rcases List.mem_append.mp among with before | after
  · exact before
  · have later := (List.pairwise_append.mp increasing).2.2 second taken first after
    exact absurd below later.not_ge

/-- A property that passes from an entry to all earlier ones holds of a prefix. -/
theorem exists_prefix (increasing : Increasing entries) {property : Entry ι α → Prop}
    (closed : ∀ first ∈ entries, ∀ second ∈ entries, first.id < second.id →
      property second → property first) :
    ∃ done rest, entries = done ++ rest ∧ (∀ entry ∈ done, property entry) ∧
      ∀ entry ∈ rest, ¬property entry := by
  induction entries with
  | nil => exact ⟨[], [], by simp⟩
  | cons entry entries induction =>
      have later := List.pairwise_cons.mp increasing
      by_cases holds : property entry
      · rcases induction later.2 fun first among second member =>
          closed first (List.mem_cons_of_mem _ among) second (List.mem_cons_of_mem _ member)
          with ⟨done, rest, split, satisfied, others⟩
        refine ⟨entry :: done, rest, by rw [split]; rfl, ?_, others⟩
        intro other among
        rcases List.mem_cons.mp among with rfl | member
        · exact holds
        · exact satisfied other member
      · refine ⟨[], entry :: entries, rfl, by simp, ?_⟩
        intro other among satisfied
        rcases List.mem_cons.mp among with rfl | member
        · exact holds satisfied
        · exact holds (closed entry List.mem_cons_self other among
            (later.1 other member) satisfied)

end Increasing

end Increasing

namespace ConsumerGroup

section Selection

variable [LinearOrder ι]

def undelivered (entries : List (Entry ι α)) (group : ConsumerGroup ι) :
    List (Entry ι α) :=
  entries.filter fun entry => group.lastDelivered < entry.id

/-- The pending entries, in the order of the log. -/
def outstanding (entries : List (Entry ι α)) (group : ConsumerGroup ι) :
    List (Entry ι α) :=
  entries.filter fun entry => entry.id ∈ group.pending

variable {entries : List (Entry ι α)} {entry : Entry ι α} {group : ConsumerGroup ι}

theorem mem_undelivered :
    entry ∈ group.undelivered entries ↔
      entry ∈ entries ∧ group.lastDelivered < entry.id := by
  simp [undelivered]

theorem le_lastDelivered_deliver {batch : List (Entry ι α)} (increasing : Increasing batch)
    (handed : entry ∈ batch) : entry.id ≤ (group.deliver batch).lastDelivered := by
  rcases List.eq_nil_or_concat batch with rfl | ⟨earlier, last, rfl⟩
  · simp at handed
  · rw [List.concat_eq_append] at increasing handed ⊢
    simpa [deliver] using increasing.le_last handed

theorem lastDelivered_le_deliver (count : Nat) :
    group.lastDelivered ≤
      (group.deliver ((group.undelivered entries).take count)).lastDelivered := by
  rcases taken : (group.undelivered entries).take count |>.getLast? with _ | last
  · simp [deliver, taken]
  · have among := mem_undelivered.mp (List.mem_of_mem_take (List.mem_of_getLast? taken))
    simpa [deliver, taken] using among.2.le

theorem mem_outstanding :
    entry ∈ group.outstanding entries ↔ entry ∈ entries ∧ entry.id ∈ group.pending := by
  simp [outstanding]

end Selection

end ConsumerGroup

variable [LinearOrder ι] [OrderBot ι]

/-- The id of the last entry, `⊥` in an empty log. -/
def lastId (entries : List (Entry ι α)) : ι :=
  (entries.getLast?.map Entry.id).getD ⊥

structure Ordered (entries : List (Entry ι α)) : Prop where
  positive : ∀ entry ∈ entries, ⊥ < entry.id
  increasing : Increasing entries

/-- Every delivered entry of the log is acknowledged or still pending. -/
structure ConsumerGroup.Accounts (entries : List (Entry ι α))
    (group : ConsumerGroup ι) : Prop where
  within : group.lastDelivered ≤ lastId entries
  known : ∀ id, id ∈ group.pending ∨ id ∈ group.acknowledged →
    ∃ entry ∈ entries, entry.id = id
  handed : ∀ id, id ∈ group.pending ∨ id ∈ group.acknowledged → id ≤ group.lastDelivered
  accounted : ∀ entry ∈ entries, entry.id ≤ group.lastDelivered →
    entry.id ∈ group.acknowledged ∨ entry.id ∈ group.pending

variable {entries : List (Entry ι α)} {entry : Entry ι α} {group : ConsumerGroup ι}

@[simp] theorem lastId_append_singleton : lastId (entries ++ [entry]) = entry.id := by
  simp [lastId]

namespace Ordered

theorem nil : Ordered ([] : List (Entry ι α)) where
  positive := by simp
  increasing := List.Pairwise.nil

theorem le_lastId (ordered : Ordered entries) (among : entry ∈ entries) :
    entry.id ≤ lastId entries := by
  rcases List.eq_nil_or_concat entries with empty | ⟨earlier, last, rfl⟩
  · simp [empty] at among
  · rw [List.concat_eq_append] at ordered among ⊢
    rw [lastId_append_singleton]
    exact ordered.increasing.le_last among

theorem append_singleton (ordered : Ordered entries) (later : lastId entries < entry.id) :
    Ordered (entries ++ [entry]) where
  positive := by
    intro other among
    rcases List.mem_append.mp among with before | same
    · exact ordered.positive other before
    · rw [List.mem_singleton.mp same]
      exact bot_le.trans_lt later
  increasing := by
    apply List.pairwise_append.mpr
    refine ⟨ordered.increasing, List.pairwise_singleton _ _, ?_⟩
    intro other among last same
    rw [List.mem_singleton.mp same]
    exact (ordered.le_lastId among).trans_lt later

end Ordered

namespace ConsumerGroup.Accounts

theorem start (ordered : Ordered entries) :
    Accounts entries { lastDelivered := (⊥ : ι) } where
  within := bot_le
  known := by simp
  handed := by simp
  accounted entry among delivered :=
    absurd (ordered.positive entry among) delivered.not_gt

theorem append_singleton (accounts : Accounts entries group)
    (later : lastId entries < entry.id) : Accounts (entries ++ [entry]) group where
  within := by
    rw [lastId_append_singleton]
    exact accounts.within.trans later.le
  known := by
    intro id held
    rcases accounts.known id held with ⟨other, among, same⟩
    exact ⟨other, List.mem_append_left _ among, same⟩
  handed := accounts.handed
  accounted := by
    intro other among delivered
    rcases List.mem_append.mp among with before | same
    · exact accounts.accounted other before delivered
    · rw [List.mem_singleton.mp same] at delivered
      exact absurd (delivered.trans accounts.within) later.not_ge

theorem deliver (accounts : Accounts entries group) (ordered : Ordered entries)
    (count : Nat) :
    Accounts entries (group.deliver ((group.undelivered entries).take count)) := by
  have increasing : Increasing (group.undelivered entries) :=
    ordered.increasing.filter _
  have member (other : Entry ι α) (taken : other ∈ (group.undelivered entries).take count) :
      other ∈ entries ∧ group.lastDelivered < other.id :=
    mem_undelivered.mp (List.mem_of_mem_take taken)
  have closed (other later : Entry ι α)
      (taken : later ∈ (group.undelivered entries).take count)
      (among : other ∈ group.undelivered entries) (below : other.id ≤ later.id) :
      other ∈ (group.undelivered entries).take count :=
    increasing.mem_take_of_le taken among below
  replace increasing := increasing.take (i := count)
  generalize (group.undelivered entries).take count = batch at increasing member closed ⊢
  rcases List.eq_nil_or_concat batch with rfl | ⟨earlier, last, rfl⟩
  · simpa [ConsumerGroup.deliver] using accounts
  · rw [List.concat_eq_append] at increasing member closed ⊢
    have fresh := member last (by simp)
    constructor
    · simpa [ConsumerGroup.deliver] using ordered.le_lastId fresh.1
    · intro id held
      rcases held with waiting | done
      · rcases List.mem_append.mp waiting with before | now
        · exact accounts.known id (.inl before)
        · rcases List.mem_map.mp now with ⟨other, taken, same⟩
          exact ⟨other, (member other taken).1, same⟩
      · exact accounts.known id (.inr done)
    · intro id held
      suffices id ≤ last.id by simpa [ConsumerGroup.deliver] using this
      rcases held with waiting | done
      · rcases List.mem_append.mp waiting with before | now
        · exact (accounts.handed id (.inl before)).trans fresh.2.le
        · rcases List.mem_map.mp now with ⟨other, taken, rfl⟩
          exact Increasing.le_last increasing taken
      · exact (accounts.handed id (.inr done)).trans fresh.2.le
    · intro other known delivered
      replace delivered : other.id ≤ last.id := by
        simpa [ConsumerGroup.deliver] using delivered
      rcases le_or_gt other.id group.lastDelivered with before | later
      · rcases accounts.accounted other known before with done | waiting
        · exact .inl done
        · exact .inr (List.mem_append_left _ waiting)
      · right
        apply List.mem_append_right
        apply List.mem_map_of_mem
        exact closed other last (by simp) (mem_undelivered.mpr ⟨known, later⟩) delivered

theorem acknowledge (accounts : Accounts entries group) (chosen : ι → Bool) :
    Accounts entries (group.acknowledge chosen) where
  within := accounts.within
  known id held := accounts.known id (held_of_acknowledge held)
  handed id held := accounts.handed id (held_of_acknowledge held)
  accounted := by
    intro entry among delivered
    rcases accounts.accounted entry among delivered with done | waiting
    · exact .inl (List.mem_append_right _ done)
    · cases choice : chosen entry.id with
      | true =>
          left
          exact mem_acknowledge.mpr (.inl ⟨waiting, choice⟩)
      | false =>
          right
          apply List.mem_filter.mpr
          simp [waiting, choice]

end ConsumerGroup.Accounts

end BuranBrew.Delivery

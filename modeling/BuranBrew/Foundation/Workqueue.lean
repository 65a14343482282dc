import Mathlib.Data.List.Basic

/-! # A FIFO queue of work items

An item is queued at most once: submitting it again changes nothing until it has been
taken out.
-/

namespace BuranBrew.Workqueue

variable {ι : Type} [DecidableEq ι] {item other : ι} {queue : List ι}

def submit (item : ι) (queue : List ι) : List ι :=
  if item ∈ queue then queue else queue ++ [item]

def cancel (item : ι) (queue : List ι) : List ι :=
  queue.filter (· ≠ item)

@[simp] theorem mem_submit : other ∈ submit item queue ↔ other ∈ queue ∨ other = item := by
  unfold submit
  split
  · rename_i queued
    constructor
    · exact .inl
    · rintro (among | rfl)
      · exact among
      · exact queued
  · simp

@[simp] theorem mem_cancel : other ∈ cancel item queue ↔ other ∈ queue ∧ other ≠ item := by
  simp [cancel]

theorem find?_submit {sought : ι → Bool} :
    (submit item queue).find? sought =
      (queue.find? sought).or (if item ∈ queue then none else [item].find? sought) := by
  unfold submit
  split
  · simp
  · simp [List.find?_append]

end BuranBrew.Workqueue

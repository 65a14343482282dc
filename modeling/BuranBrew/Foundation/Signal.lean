import Mathlib.Algebra.Order.Group.Basic

/-! # Signals

A signal is constant between its changes. It is given by its initial value and
the list of its changes, newest first.
-/

namespace BuranBrew.Signal

variable {τ α : Type}

def current (initial : α) : List (τ × α) → α
  | [] => initial
  | (_, value) :: _ => value

section Values

variable [LinearOrder τ]

def valueAt (initial : α) (instant : τ) : List (τ × α) → α
  | [] => initial
  | (time, value) :: earlier =>
      if time ≤ instant then value else valueAt initial instant earlier

theorem valueAt_append_of_lt {initial : α} {instant : τ} {added changes : List (τ × α)}
    (later : ∀ change ∈ added, instant < change.1) :
    valueAt initial instant (added ++ changes) = valueAt initial instant changes := by
  induction added with
  | nil => rfl
  | cons change added induction =>
      rcases change with ⟨time, value⟩
      rw [List.cons_append, valueAt, if_neg (not_le.mpr (later (time, value) (by simp)))]
      exact induction fun change among => later change (by simp [among])

theorem valueAt_of_forall {initial : α} {instant : τ} {changes : List (τ × α)}
    {property : α → Prop} (initially : property initial)
    (changed : ∀ change ∈ changes, property change.2) :
    property (valueAt initial instant changes) := by
  induction changes with
  | nil => exact initially
  | cons change earlier induction =>
      rcases change with ⟨time, value⟩
      unfold valueAt
      split_ifs
      · exact changed (time, value) (by simp)
      · exact induction fun change among => changed change (by simp [among])

end Values

section Durations

variable [AddCommGroup τ] [LinearOrder τ]

def span (start finish : τ) : τ :=
  max 0 (finish - start)

/-- How much of the time between two instants the value satisfies a test. -/
def timeSpent (test : α → Bool) (initial : α) (start finish : τ) : List (τ × α) → τ
  | [] => if test initial then span start finish else 0
  | (time, value) :: earlier =>
      (if test value then span (max start time) finish else 0) +
        timeSpent test initial start (min finish time) earlier

theorem span_nonneg (start finish : τ) : 0 ≤ span start finish :=
  le_max_left _ _

variable [IsOrderedAddMonoid τ]

section Span

variable {start finish : τ}

theorem span_of_le (ordered : start ≤ finish) : span start finish = finish - start :=
  max_eq_right (sub_nonneg.mpr ordered)

theorem span_of_ge (ordered : finish ≤ start) : span start finish = 0 :=
  max_eq_left (sub_nonpos.mpr ordered)

theorem span_split (start time finish : τ) :
    span start finish = span (max start time) finish + span start (min finish time) := by
  rcases le_total finish start with empty | ordered
  · rw [span_of_ge empty, span_of_ge (empty.trans (le_max_left start time)),
      span_of_ge ((min_le_left finish time).trans empty), add_zero]
  · rcases le_total time start with before | after
    · rw [max_eq_left before, span_of_ge ((min_le_right finish time).trans before),
        add_zero]
    · rw [max_eq_right after]
      rcases le_total finish time with late | early
      · rw [min_eq_left late, span_of_ge late, zero_add]
      · rw [min_eq_right early, span_of_le ordered, span_of_le early, span_of_le after]
        exact (sub_add_sub_cancel finish time start).symm

end Span

section TimeSpent

variable {test : α → Bool} {initial value : α} {changes : List (τ × α)}
  {start middle finish time : τ}

theorem timeSpent_nonneg : 0 ≤ timeSpent test initial start finish changes := by
  induction changes generalizing finish with
  | nil =>
      unfold timeSpent
      split_ifs
      · exact span_nonneg _ _
      · exact le_rfl
  | cons change earlier induction =>
      rcases change with ⟨time, value⟩
      unfold timeSpent
      apply add_nonneg
      · split_ifs
        · exact span_nonneg _ _
        · exact le_rfl
      · exact induction

theorem timeSpent_le_span :
    timeSpent test initial start finish changes ≤ span start finish := by
  induction changes generalizing finish with
  | nil =>
      unfold timeSpent
      split_ifs
      · exact le_rfl
      · exact span_nonneg _ _
  | cons change earlier induction =>
      rcases change with ⟨time, value⟩
      rw [span_split start time finish, timeSpent]
      apply add_le_add
      · split_ifs
        · exact le_rfl
        · exact span_nonneg _ _
      · exact induction

theorem timeSpent_of_ge (empty : finish ≤ start) :
    timeSpent test initial start finish changes = 0 :=
  le_antisymm (timeSpent_le_span.trans (span_of_ge empty).le) timeSpent_nonneg

theorem timeSpent_cons_of_le (before : finish ≤ time) :
    timeSpent test initial start finish ((time, value) :: changes) =
      timeSpent test initial start finish changes := by
  rw [timeSpent, min_eq_left before, span_of_ge (before.trans (le_max_right start time)),
    ite_self, zero_add]

theorem timeSpent_append_of_le {added : List (τ × α)}
    (before : ∀ change ∈ added, finish ≤ change.1) :
    timeSpent test initial start finish (added ++ changes) =
      timeSpent test initial start finish changes := by
  induction added with
  | nil => rfl
  | cons change added induction =>
      rcases change with ⟨time, value⟩
      rw [List.cons_append, timeSpent_cons_of_le (before (time, value) (by simp))]
      exact induction fun change among => before change (by simp [among])

theorem timeSpent_extend (past : ∀ change ∈ changes, change.1 ≤ middle)
    (started : start ≤ middle) (later : middle ≤ finish) :
    timeSpent test initial start finish changes =
      timeSpent test initial start middle changes +
        if test (current initial changes) then finish - middle else 0 := by
  cases changes with
  | nil =>
      change _ = _ + if test initial then finish - middle else 0
      unfold timeSpent
      cases test initial
      · exact (add_zero 0).symm
      · simp only [if_true]
        rw [span_of_le started, span_of_le (started.trans later), sub_add_sub_cancel']
  | cons change earlier =>
      rcases change with ⟨time, value⟩
      have changed : time ≤ middle := past (time, value) (by simp)
      change _ = _ + if test value then finish - middle else 0
      unfold timeSpent
      rw [min_eq_right changed, min_eq_right (changed.trans later)]
      cases test value
      · exact (add_zero _).symm
      · simp only [if_true]
        rw [span_of_le (max_le started changed),
          span_of_le ((max_le started changed).trans later), add_right_comm,
          sub_add_sub_cancel']

end TimeSpent

end Durations

end BuranBrew.Signal

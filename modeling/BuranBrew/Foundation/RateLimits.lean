import Mathlib.Data.List.Count
import Mathlib.Order.Lattice

/-! # Rate limits

How many events of a history a period may contain, wherever the period begins. When it ends
is a function of that.
-/

namespace BuranBrew.History

variable {α τ : Type} [LinearOrder τ]

section Definitions

variable (time : α → τ) (counts : α → Bool) (ends : τ → τ)

/-- No period contains more of the events that count. -/
def RateLimited (limit : ℕ) (history : List α) : Prop :=
  ∀ start, history.countP (fun event =>
    counts event && decide (start ≤ time event ∧ time event < ends start)) ≤ limit

/-- How many events may share a period with events from an instant on. -/
def recent (instant : τ) (history : List α) : ℕ :=
  history.countP fun event => counts event && decide (instant < ends (time event))

end Definitions

variable {time : α → τ} {counts : α → Bool} {ends : τ → τ} {instant : τ} {limit : ℕ} {event : α}
  {history : List α}

theorem RateLimited.nil : RateLimited time counts ends limit ([] : List α) := by
  intro start
  simp

theorem recent_cons_le :
    recent time counts ends instant (event :: history) ≤
      recent time counts ends instant history + (counts event).toNat := by
  unfold recent
  rw [List.countP_cons]
  cases counts event with
  | false => simp
  | true =>
      apply Nat.add_le_add_left
      split_ifs <;> simp

theorem recent_le_cons : recent time counts ends instant history ≤
    recent time counts ends instant (event :: history) :=
  (List.sublist_cons_self event history).countP_le

theorem recent_eq_zero
    (past : ∀ event ∈ history, counts event = true → ends (time event) ≤ instant) :
    recent time counts ends instant history = 0 := by
  apply List.countP_eq_zero.mpr
  intro event among
  cases counted : counts event with
  | false => simp
  | true => simpa using past event among counted

theorem RateLimited.cons_aside (limited : RateLimited time counts ends limit history)
    (aside : counts event = false) : RateLimited time counts ends limit (event :: history) := by
  intro start
  rw [List.countP_cons_of_neg (by simp [aside])]
  exact limited start

theorem RateLimited.cons (monotone : Monotone ends)
    (limited : RateLimited time counts ends limit history)
    (after : counts event = true → instant ≤ time event)
    (few : recent time counts ends instant (event :: history) ≤ limit) :
    RateLimited time counts ends limit (event :: history) := by
  intro start
  by_cases shown : counts event = true ∧ start ≤ time event ∧ time event < ends start
  · rcases shown with ⟨counted, -, before⟩
    refine Nat.le_trans (List.countP_mono_left fun other _ both => ?_) few
    simp only [Bool.and_eq_true, decide_eq_true_eq] at both ⊢
    refine ⟨both.1, ?_⟩
    calc instant ≤ time event := after counted
      _ < ends start := before
      _ ≤ ends (time other) := monotone both.2.1
  · rw [List.countP_cons_of_neg (by simpa using shown)]
    exact limited start

end BuranBrew.History

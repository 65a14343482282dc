import Mathlib.Logic.Basic

/-! # Transition systems

An executable step function takes a state and an action to the next state, or
refuses the action. Runs may be restricted to the actions that a predicate allows in
the state where they are taken.
-/

namespace BuranBrew.Transitions

variable {σ α : Type}

inductive Reaches (step : σ → α → Option σ) (allowed : σ → α → Prop) (start : σ) : σ → Prop
  | start : Reaches step allowed start start
  | next {state later : σ} {action : α} (reached : Reaches step allowed start state)
      (permitted : allowed state action) (taken : step state action = some later) :
      Reaches step allowed start later

/-- Any action may be taken wherever the step function accepts it. -/
def Unrestricted : σ → α → Prop := fun _ _ => True

/-- The state after a list of actions, each of which must be allowed. -/
def replay (step : σ → α → Option σ) (allowed : σ → α → Prop)
    [∀ state action, Decidable (allowed state action)] (state : σ) : List α → Option σ
  | [] => some state
  | action :: actions =>
      if allowed state action then
        (step state action).bind fun later => replay step allowed later actions
      else none

variable {step : σ → α → Option σ} {allowed : σ → α → Prop} {start state later : σ}

instance : ∀ (state : σ) (action : α), Decidable (Unrestricted state action) :=
  fun _ _ => isTrue trivial

/-- A run is found, with what can be decided of its last state, by evaluation. -/
theorem exists_replay [∀ state action, Decidable (allowed state action)] {actions : List α}
    {property : σ → Prop} [DecidablePred property]
    (evaluated : (replay step allowed state actions).any (fun later => property later)) :
    ∃ later, replay step allowed state actions = some later ∧ property later := by
  rcases (Option.any_eq_true _ _).mp evaluated with ⟨later, replayed, holds⟩
  exact ⟨later, replayed, of_decide_eq_true holds⟩

namespace Reaches

theorem invariant {invariant : σ → Prop} (initial : invariant start)
    (preserves : ∀ state action later, invariant state → allowed state action →
      step state action = some later → invariant later)
    (reached : Reaches step allowed start state) : invariant state := by
  induction reached with
  | start => exact initial
  | next _ permitted taken induction => exact preserves _ _ _ induction permitted taken

theorem weaken {allowed' : σ → α → Prop} (reached : Reaches step allowed start state)
    (weaker : ∀ state action, allowed state action → allowed' state action) :
    Reaches step allowed' start state := by
  induction reached with
  | start => exact .start
  | next _ permitted taken induction => exact induction.next (weaker _ _ permitted) taken

theorem of_replay [∀ state action, Decidable (allowed state action)] {actions : List α}
    (reached : Reaches step allowed start state)
    (replayed : replay step allowed state actions = some later) :
    Reaches step allowed start later := by
  induction actions generalizing state with
  | nil =>
      cases replayed
      exact reached
  | cons action actions induction =>
      unfold replay at replayed
      split at replayed
      · rename_i permitted
        rcases Option.bind_eq_some_iff.mp replayed with ⟨middle, taken, rest⟩
        exact induction (reached.next permitted taken) rest
      · cases replayed

end Reaches

/-- A run that never ends, resting where nothing happens. -/
structure Trace (step : σ → α → Option σ) (allowed : σ → α → Prop) (start : σ) where
  states : Nat → σ
  starts : states 0 = start
  goes : ∀ count, states (count + 1) = states count ∨
    ∃ action, allowed (states count) action ∧
      step (states count) action = some (states (count + 1))

theorem Trace.reaches (trace : Trace step allowed start) (count : Nat) :
    Reaches step allowed start (trace.states count) := by
  induction count with
  | zero =>
      rw [trace.starts]
      exact .start
  | succ count induction =>
      rcases trace.goes count with rests | ⟨action, permitted, taken⟩
      · rw [rests]
        exact induction
      · exact induction.next permitted taken

theorem Reaches.exists_trace (reached : Reaches step allowed start state) :
    ∃ (trace : Trace step allowed start) (count : Nat),
      ∀ other, count ≤ other → trace.states other = state := by
  induction reached with
  | start => exact ⟨⟨fun _ => start, rfl, fun _ => .inl rfl⟩, 0, fun _ _ => rfl⟩
  | @next state later action _ permitted taken induction =>
      rcases induction with ⟨trace, count, rests⟩
      let states (other : Nat) : σ := if other ≤ count then trace.states other else later
      have old (other : Nat) (atMost : other ≤ count) : states other = trace.states other :=
        if_pos atMost
      have new (other : Nat) (above : count < other) : states other = later :=
        if_neg (Nat.not_le_of_gt above)
      refine ⟨⟨states, (old 0 (Nat.zero_le count)).trans trace.starts, ?_⟩, count + 1, new⟩
      intro other
      rcases Nat.lt_trichotomy other count with before | rfl | after
      · rw [old other (Nat.le_of_lt before), old (other + 1) before]
        exact trace.goes other
      · right
        rw [old other (Nat.le_refl other), new (other + 1) (Nat.lt_succ_self other),
          rests other (Nat.le_refl other)]
        exact ⟨action, permitted, taken⟩
      · left
        rw [new other after, new (other + 1) (Nat.lt_succ_of_lt after)]

end BuranBrew.Transitions

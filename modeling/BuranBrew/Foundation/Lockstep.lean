import BuranBrew.Foundation.Execution

/-! # Two executions in lockstep

Rules for pairs of `EStateM` programs that end in the same way: both return, with
related values, or both raise the same exception. In either case the states they leave
behind are related.
-/

namespace BuranBrew.Execution

variable {ε σ α β γ δ : Type}

def Lockstep (related : σ → σ → Prop) (values : α → β → Prop) (one : EStateM ε σ α)
    (other : EStateM ε σ β) : Prop :=
  ∀ left right, related left right →
    match one.run left, other.run right with
    | .ok value final, .ok value' final' => values value value' ∧ related final final'
    | .error exception final, .error exception' final' =>
        exception = exception' ∧ related final final'
    | _, _ => False

abbrev Together (related : σ → σ → Prop) (one other : EStateM ε σ α) : Prop :=
  Lockstep related Eq one other

/-- The program raises what `raises` says of its state, if anything, and changes nothing
that `related` can see. -/
def Silent (related : σ → σ → Prop) (raises : σ → Option ε) (program : EStateM ε σ α) : Prop :=
  ∀ state, related state (finalState (program.run state)) ∧
    exceptionOf (program.run state) = raises state

namespace Lockstep

variable {related : σ → σ → Prop} {values : α → β → Prop} {one : EStateM ε σ α}
  {other : EStateM ε σ β}

theorem ends (locked : Lockstep related values one other) {left right : σ}
    (start : related left right) :
    exceptionOf (one.run left) = exceptionOf (other.run right) ∧
      related (finalState (one.run left)) (finalState (other.run right)) := by
  have both := locked left right start
  cases first : one.run left <;> cases second : other.run right <;>
    simp_all [exceptionOf]

theorem pure {value : α} {value' : β} (holds : values value value') :
    Lockstep related values (Pure.pure value : EStateM ε σ α) (Pure.pure value') :=
  fun _ _ start => ⟨holds, start⟩

theorem throw {exception : ε} :
    Lockstep related values (MonadExcept.throw exception : EStateM ε σ α)
      (MonadExcept.throw exception) :=
  fun _ _ start => ⟨rfl, start⟩

theorem modify {update update' : σ → σ}
    (holds : ∀ left right, related left right → related (update left) (update' right)) :
    Together related (modifyGet fun state => (.unit, update state) : EStateM ε σ PUnit)
      (modifyGet fun state => (.unit, update' state)) :=
  fun left right start => ⟨rfl, holds left right start⟩

theorem set {value value' : σ} (holds : related value value') :
    Together related (MonadStateOf.set value : EStateM ε σ PUnit) (MonadStateOf.set value') :=
  fun _ _ _ => ⟨rfl, holds⟩

theorem weaken {values' : α → β → Prop} (locked : Lockstep related values one other)
    (weaker : ∀ value value', values value value' → values' value value') :
    Lockstep related values' one other := by
  intro left right start
  have both := locked left right start
  cases ran : one.run left <;> cases ran' : other.run right <;>
    simp_all

theorem bind {results : γ → δ → Prop} {next : α → EStateM ε σ γ} {next' : β → EStateM ε σ δ}
    (first : Lockstep related values one other)
    (rest : ∀ value value', values value value' →
      Lockstep related results (next value) (next' value')) :
    Lockstep related results (one >>= next) (other >>= next') := by
  intro left right start
  have both := first left right start
  rw [EStateM.run_bind, EStateM.run_bind]
  cases ran : one.run left with
  | ok value final =>
      cases ran' : other.run right with
      | ok value' final' =>
          rw [ran, ran'] at both
          exact rest value value' both.1 final final' both.2
      | error exception' final' =>
          rw [ran, ran'] at both
          exact both.elim
  | error exception final =>
      cases ran' : other.run right with
      | ok value' final' =>
          rw [ran, ran'] at both
          exact both.elim
      | error exception' final' =>
          rw [ran, ran'] at both
          exact both

theorem get_bind {next next' : σ → EStateM ε σ γ} {results : γ → γ → Prop}
    (rest : ∀ left right, related left right →
      Lockstep related results (next left) (next' right)) :
    Lockstep related results (MonadState.get >>= next) (MonadState.get >>= next') :=
  fun left right start => rest left right start left right start

theorem tryCatch {handle : ε → EStateM ε σ α} {handle' : ε → EStateM ε σ β}
    (attempt : Lockstep related values one other)
    (recover : ∀ exception, Lockstep related values (handle exception) (handle' exception)) :
    Lockstep related values (MonadExcept.tryCatch one handle)
      (MonadExcept.tryCatch other handle') := by
  intro left right start
  have both := attempt left right start
  rw [run_tryCatch, run_tryCatch]
  cases ran : one.run left with
  | ok value final =>
      cases ran' : other.run right with
      | ok value' final' =>
          rw [ran, ran'] at both
          exact both
      | error exception' final' =>
          rw [ran, ran'] at both
          exact both.elim
  | error exception final =>
      cases ran' : other.run right with
      | ok value' final' =>
          rw [ran, ran'] at both
          exact both.elim
      | error exception' final' =>
          rw [ran, ran'] at both
          rcases both with ⟨rfl, related⟩
          exact recover exception final final' related

theorem ite {condition : Prop} [Decidable condition] {one' : EStateM ε σ α}
    {other' : EStateM ε σ β} (yes : condition → Lockstep related values one other)
    (no : ¬condition → Lockstep related values one' other') :
    Lockstep related values (if condition then one else one')
      (if condition then other else other') := by
  split
  · exact yes ‹_›
  · exact no ‹_›

theorem discard {one' : EStateM ε σ α} (together : Together related one one') :
    Together related (Functor.discard one) (Functor.discard one') :=
  bind together fun _ _ _ => pure rfl

end Lockstep

theorem Together.bind {related : σ → σ → Prop} {results : γ → δ → Prop}
    {one other : EStateM ε σ α} {next : α → EStateM ε σ γ} {next' : α → EStateM ε σ δ}
    (first : Together related one other)
    (rest : ∀ value, Lockstep related results (next value) (next' value)) :
    Lockstep related results (one >>= next) (other >>= next') := by
  apply Lockstep.bind first
  intro value value' same
  rw [← same]
  exact rest value

namespace Silent

variable {related : σ → σ → Prop} {raises : σ → Option ε}

theorem bind {program : EStateM ε σ α} {next : α → EStateM ε σ β}
    (equivalence : Equivalence related)
    (respects : ∀ left right, related left right → raises left = raises right)
    (first : Silent related raises program)
    (rest : ∀ value, Silent related raises (next value)) :
    Silent related raises (program >>= next) := by
  intro state
  have before := first state
  rw [EStateM.run_bind]
  cases ran : program.run state with
  | ok value final =>
      rw [ran] at before
      rcases rest value final with ⟨same, raised⟩
      constructor
      · exact equivalence.trans before.1 same
      · exact raised.trans (respects _ _ (equivalence.symm before.1))
  | error exception final =>
      rw [ran] at before
      exact before

theorem get_bind {next : σ → EStateM ε σ β}
    (rest : ∀ current, Silent related raises (next current)) :
    Silent related raises (MonadState.get >>= next) :=
  fun state => rest state state

/-- Silent programs that raise alike are in lockstep, whatever else they do. -/
theorem lockstep {raises' : σ → Option ε} {one : EStateM ε σ α} {other : EStateM ε σ β}
    (equivalence : Equivalence related)
    (alike : ∀ left right, related left right → raises left = raises' right)
    (first : Silent related raises one) (second : Silent related raises' other) :
    Lockstep related (fun _ _ => True) one other := by
  intro left right start
  rcases first left with ⟨same, raised⟩
  rcases second right with ⟨same', raised'⟩
  rw [alike left right start, ← raised'] at raised
  have final := equivalence.trans (equivalence.symm same) (equivalence.trans start same')
  cases ran : one.run left <;> cases ran' : other.run right <;>
    simp_all [exceptionOf]

end Silent

end BuranBrew.Execution

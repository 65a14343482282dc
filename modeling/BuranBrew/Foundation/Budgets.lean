import BuranBrew.Foundation.Execution
import Mathlib.Algebra.Order.Monoid.Unbundled.Basic

/-! # Budgets

What a program spends of a quantity that its state shows, such as the time, while it keeps
an invariant. What is spent before an exception counts as well.
-/

namespace BuranBrew.Execution

variable {σ ε α β τ : Type} [AddCommMonoid τ] [Preorder τ]

section Definitions

variable (spent : σ → τ) (invariant : σ → Prop)

def Until (limit : τ) (state : σ) : Prop := invariant state ∧ spent state ≤ limit

/-- However the program ends, it has kept the invariant and spent no more than `budget`. -/
def Spends (budget : τ) (program : EStateM ε σ α) : Prop :=
  ∀ limit, Ensures (Until spent invariant limit) program
    (fun _ => Until spent invariant (limit + budget))
    (fun _ => Until spent invariant (limit + budget))

end Definitions

variable {spent : σ → τ} {invariant : σ → Prop} {budget other : τ} {program : EStateM ε σ α}

omit [AddCommMonoid τ] in
theorem Until.mono {limit later : τ} {state : σ} (holds : Until spent invariant limit state)
    (before : limit ≤ later) : Until spent invariant later state :=
  ⟨holds.1, holds.2.trans before⟩

namespace Spends

theorem keeps (spends : Spends spent invariant budget program) : Keeps invariant program := by
  apply Ensures.each
  intro start satisfied
  have bounded := (spends (spent start)).startingAt ⟨satisfied, le_refl _⟩
  exact bounded.weaken (fun _ => id) (fun _ _ => And.left) (fun _ _ => And.left)

theorem within (spends : Spends spent invariant budget program) (limit : τ) :
    Ensures (Until spent invariant limit) program
      (fun _ => Until spent invariant (limit + budget)) (fun _ => invariant) :=
  (spends limit).raising fun _ _ => And.left

theorem still (spends : Spends spent invariant 0 program) (limit : τ) :
    Ensures (Until spent invariant limit) program (fun _ => Until spent invariant limit)
      (fun _ => invariant) := by
  have kept := spends.within limit
  rwa [add_zero] at kept

theorem of_keeps (keeps : ∀ limit, Keeps (Until spent invariant limit) program) :
    Spends spent invariant 0 program := by
  intro limit
  rw [add_zero]
  exact keeps limit

theorem pure (value : α) : Spends spent invariant 0 (Pure.pure value : EStateM ε σ α) :=
  of_keeps fun _ => Keeps.pure value

theorem throw (exception : ε) :
    Spends spent invariant 0 (MonadExcept.throw exception : EStateM ε σ α) :=
  of_keeps fun _ => Keeps.throw exception

theorem get : Spends spent invariant 0 (MonadState.get : EStateM ε σ σ) :=
  of_keeps fun _ => Keeps.get

theorem tryCatch {handle : ε → EStateM ε σ α}
    (attempt : Spends spent invariant budget program)
    (recover : ∀ exception, Spends spent invariant 0 (handle exception)) :
    Spends spent invariant budget (MonadExcept.tryCatch program handle) := by
  intro limit
  apply Ensures.tryCatch (attempt limit)
  intro exception
  have handled := recover exception (limit + budget)
  rwa [add_zero] at handled

section Ordered

variable [AddLeftMono τ]

theorem weaken (spends : Spends spent invariant budget program) (more : budget ≤ other) :
    Spends spent invariant other program := by
  intro limit
  have enough : limit + budget ≤ limit + other := add_le_add_right more limit
  exact (spends limit).weaken (fun _ => id) (fun _ _ holds => holds.mono enough)
    (fun _ _ holds => holds.mono enough)

theorem bind {next : α → EStateM ε σ β} (first : Spends spent invariant budget program)
    (nonneg : 0 ≤ other) (rest : ∀ value, Spends spent invariant other (next value)) :
    Spends spent invariant (budget + other) (program >>= next) := by
  intro limit
  have enough : limit + budget ≤ limit + budget + other := le_add_of_nonneg_right nonneg
  rw [← add_assoc]
  exact Ensures.bind ((first limit).raising fun _ _ holds => holds.mono enough)
    fun value => rest value (limit + budget)

theorem andThen {next : α → EStateM ε σ β} (first : Spends spent invariant budget program)
    (rest : ∀ value, Spends spent invariant 0 (next value)) :
    Spends spent invariant budget (program >>= next) := by
  have both := first.bind le_rfl rest
  rwa [add_zero] at both

theorem first {next : α → EStateM ε σ β} (free : Spends spent invariant 0 program)
    (nonneg : 0 ≤ budget) (rest : ∀ value, Spends spent invariant budget (next value)) :
    Spends spent invariant budget (program >>= next) := by
  have both := free.bind nonneg rest
  rwa [zero_add] at both

end Ordered

end Spends

end BuranBrew.Execution

import Mathlib.Logic.Basic

/-! # Executions whose state survives an exception

Pre- and postcondition rules for `EStateM`. The state left behind by an
exception is part of every specification, so an invariant that these rules
establish also holds wherever an execution was cut short.
-/

namespace BuranBrew.Execution

variable {ε σ α β : Type}

/-- The state in which an execution ended, whether it returned or raised. -/
def finalState : EStateM.Result ε σ α → σ
  | .ok _ state => state
  | .error _ state => state

@[simp] theorem finalState_ok (value : α) (state : σ) :
    finalState (.ok value state : EStateM.Result ε σ α) = state := rfl

@[simp] theorem finalState_error (exception : ε) (state : σ) :
    finalState (.error exception state : EStateM.Result ε σ α) = state := rfl

def exceptionOf : EStateM.Result ε σ α → Option ε
  | .ok _ _ => none
  | .error exception _ => some exception

def valueOf : EStateM.Result ε σ α → Option α
  | .ok value _ => some value
  | .error _ _ => none

theorem eq_error_of_exceptionOf {result : EStateM.Result ε σ α} {exception : ε}
    (raised : exceptionOf result = some exception) :
    result = .error exception (finalState result) := by
  cases result with
  | ok => cases raised
  | error => cases raised; rfl

theorem eq_ok_of_valueOf {result : EStateM.Result ε σ α} {value : α}
    (returned : valueOf result = some value) :
    result = .ok value (finalState result) := by
  cases result with
  | ok => cases returned; rfl
  | error => cases returned

@[simp] theorem run_throw (exception : ε) (state : σ) :
    EStateM.run (throw exception : EStateM ε σ α) state =
      .error exception state := rfl

theorem run_bind_of_ok {program : EStateM ε σ α} {next : α → EStateM ε σ β} {state final : σ}
    {value : α} (returns : program.run state = .ok value final) :
    (program >>= next).run state = (next value).run final := by
  rw [EStateM.run_bind, returns]

@[simp] theorem run_tryCatch (program : EStateM ε σ α)
    (handle : ε → EStateM ε σ α) (state : σ) :
    EStateM.run (tryCatch program handle) state =
      match EStateM.run program state with
      | .ok value final => .ok value final
      | .error exception final => EStateM.run (handle exception) final := by
  change EStateM.tryCatch program handle state = _
  unfold EStateM.tryCatch EStateM.run
  cases program state <;> rfl

@[simp] theorem finalState_discard (program : EStateM ε σ α) (state : σ) :
    finalState (EStateM.run (discard program) state) = finalState (program.run state) := by
  change finalState (EStateM.map (fun _ => PUnit.unit) program state) = _
  unfold EStateM.map EStateM.run
  cases program state <;> rfl

theorem run_discard_of_error {program : EStateM ε σ α} {state final : σ} {exception : ε}
    (raises : program.run state = .error exception final) :
    EStateM.run (discard program) state = .error exception final := by
  change EStateM.map (fun _ => PUnit.unit) program state = _
  unfold EStateM.run at raises
  rw [EStateM.map, raises]

/-- From every state satisfying `before`, a return satisfies `returned` and an
exception satisfies `raised`. -/
def Ensures (before : σ → Prop) (program : EStateM ε σ α)
    (returned : α → σ → Prop) (raised : ε → σ → Prop) : Prop :=
  ∀ state, before state →
    match program.run state with
    | .ok value final => returned value final
    | .error exception final => raised exception final

/-- The invariant survives the program, also when the program raises. -/
def Keeps (invariant : σ → Prop) (program : EStateM ε σ α) : Prop :=
  Ensures invariant program (fun _ => invariant) (fun _ => invariant)

abbrev Returns (before : σ → Prop) (program : EStateM ε σ α)
    (returned : α → σ → Prop) : Prop :=
  Ensures before program returned fun _ _ => False

namespace Ensures

variable {before before' : σ → Prop} {program : EStateM ε σ α}
  {returned returned' : α → σ → Prop} {raised raised' : ε → σ → Prop}

theorem weaken (holds : Ensures before program returned raised)
    (stronger : ∀ state, before' state → before state)
    (returns : ∀ value state, returned value state → returned' value state)
    (raises : ∀ exception state,
      raised exception state → raised' exception state) :
    Ensures before' program returned' raised' := by
  intro state satisfied
  have outcome := holds state (stronger state satisfied)
  cases result : program.run state with
  | ok value final =>
      rw [result] at outcome
      exact returns value final outcome
  | error exception final =>
      rw [result] at outcome
      exact raises exception final outcome

theorem strengthen (holds : Ensures before program returned raised)
    (stronger : ∀ state, before' state → before state) :
    Ensures before' program returned raised :=
  holds.weaken stronger (fun _ _ => id) (fun _ _ => id)

theorem returning (holds : Ensures before program returned raised)
    (returns : ∀ value state, returned value state → returned' value state) :
    Ensures before program returned' raised :=
  holds.weaken (fun _ => id) returns (fun _ _ => id)

theorem raising (holds : Ensures before program returned raised)
    (raises : ∀ exception state, raised exception state → raised' exception state) :
    Ensures before program returned raised' :=
  holds.weaken (fun _ => id) (fun _ _ => id) raises

theorem startingAt {start : σ} (holds : Ensures before program returned raised)
    (satisfied : before start) :
    Ensures (fun state => state = start) program returned raised :=
  fun state same => holds state (same ▸ satisfied)

theorem and (one : Ensures before program returned raised)
    (other : Ensures before program returned' raised') :
    Ensures before program (fun value state => returned value state ∧ returned' value state)
      (fun exception state => raised exception state ∧ raised' exception state) := by
  intro state satisfied
  have first := one state satisfied
  have second := other state satisfied
  cases result : program.run state with
  | ok value final =>
      rw [result] at first second
      exact ⟨first, second⟩
  | error exception final =>
      rw [result] at first second
      exact ⟨first, second⟩

theorem or (one : Ensures before program returned raised)
    (other : Ensures before' program returned raised) :
    Ensures (fun state => before state ∨ before' state) program returned raised :=
  fun state satisfied => satisfied.elim (one state) (other state)

theorem of_finalState {after : σ → Prop}
    (holds : ∀ state, before state → after (finalState (program.run state))) :
    Ensures before program (fun _ => after) (fun _ => after) := by
  intro state satisfied
  have outcome := holds state satisfied
  cases result : program.run state with
  | ok value final =>
      rw [result] at outcome
      exact outcome
  | error exception final =>
      rw [result] at outcome
      exact outcome

theorem finalState {after : σ → Prop}
    (holds : Ensures before program (fun _ => after) (fun _ => after)) {state : σ}
    (satisfied : before state) : after (Execution.finalState (program.run state)) := by
  have outcome := holds state satisfied
  cases result : program.run state with
  | ok value final => rw [result] at outcome; exact outcome
  | error exception final => rw [result] at outcome; exact outcome

theorem pure {value : α} (holds : ∀ state, before state → returned value state) :
    Ensures before (Pure.pure value : EStateM ε σ α) returned raised :=
  holds

theorem pureAt {start : σ} {value : α} (holds : returned value start) :
    Ensures (fun state => state = start) (Pure.pure value : EStateM ε σ α) returned raised :=
  fun _ same => same ▸ holds

theorem throw {exception : ε}
    (holds : ∀ state, before state → raised exception state) :
    Ensures before (MonadExcept.throw exception : EStateM ε σ α) returned raised :=
  holds

theorem modify {update : σ → σ} {returned : PUnit → σ → Prop}
    (holds : ∀ state, before state → returned .unit (update state)) :
    Ensures before (modify update : EStateM ε σ PUnit) returned raised :=
  holds

theorem get : Ensures before (MonadState.get : EStateM ε σ σ) (fun _ => before) raised :=
  fun _ satisfied => satisfied

theorem set {value : σ} {returned : PUnit → σ → Prop}
    (holds : ∀ state, before state → returned .unit value) :
    Ensures before (MonadStateOf.set value : EStateM ε σ PUnit) returned raised :=
  holds

theorem bind {middle : α → σ → Prop} {next : α → EStateM ε σ β}
    {finished : β → σ → Prop}
    (first : Ensures before program middle raised)
    (rest : ∀ value, Ensures (middle value) (next value) finished raised) :
    Ensures before (program >>= next) finished raised := by
  intro state satisfied
  have outcome := first state satisfied
  rw [EStateM.run_bind]
  cases result : program.run state with
  | ok value final =>
      rw [result] at outcome
      exact rest value final outcome
  | error exception final =>
      rw [result] at outcome
      exact outcome

/-- A program that begins by reading its state may be verified separately for
each state it can read. -/
theorem get_bind {next : σ → EStateM ε σ β} {finished : β → σ → Prop}
    (rest : ∀ current, before current →
      Ensures (fun state => state = current) (next current) finished raised) :
    Ensures before (MonadState.get >>= next) finished raised :=
  fun state satisfied => rest state satisfied state rfl

theorem each (holds : ∀ start, before start →
      Ensures (fun state => state = start) program returned raised) :
    Ensures before program returned raised :=
  fun state satisfied => holds state satisfied state rfl

theorem tryCatch {handle : ε → EStateM ε σ α} {caught : ε → σ → Prop}
    (attempt : Ensures before program returned caught)
    (recover : ∀ exception,
      Ensures (caught exception) (handle exception) returned raised) :
    Ensures before (MonadExcept.tryCatch program handle) returned raised := by
  intro state satisfied
  have outcome := attempt state satisfied
  rw [run_tryCatch]
  cases result : program.run state with
  | ok value final =>
      rw [result] at outcome
      exact outcome
  | error exception final =>
      rw [result] at outcome
      exact recover exception final outcome

theorem ite {condition : Prop} [Decidable condition] {other : EStateM ε σ α}
    (yes : condition → Ensures before program returned raised)
    (no : ¬condition → Ensures before other returned raised) :
    Ensures before (if condition then program else other) returned raised := by
  split
  · exact yes ‹_›
  · exact no ‹_›

theorem given {fact : Prop} (holds : fact → Ensures before program returned raised) :
    Ensures (fun state => fact ∧ before state) program returned raised :=
  fun state satisfied => holds satisfied.1 state satisfied.2

theorem given_exists {before : ι → σ → Prop}
    (holds : ∀ index, Ensures (before index) program returned raised) :
    Ensures (fun state => ∃ index, before index state) program returned raised :=
  fun state ⟨index, satisfied⟩ => holds index state satisfied

theorem exists_run (holds : Returns before program returned) {state : σ}
    (satisfied : before state) :
    ∃ value final, program.run state = .ok value final ∧ returned value final := by
  have outcome := holds state satisfied
  cases result : program.run state with
  | ok value final =>
      rw [result] at outcome
      exact ⟨value, final, rfl, outcome⟩
  | error exception final =>
      rw [result] at outcome
      exact outcome.elim

theorem keeping {invariant : σ → Prop} (holds : Returns before program returned)
    (keeps : Keeps invariant program) :
    Returns (fun state => before state ∧ invariant state) program
      (fun value state => returned value state ∧ invariant state) :=
  ((holds.strengthen fun _ => And.left).and (keeps.strengthen fun _ => And.right)).raising
    fun _ _ => And.left

theorem tryCatch_returns {handle : ε → EStateM ε σ α}
    (attempt : Returns before program returned) :
    Returns before (MonadExcept.tryCatch program handle) returned :=
  tryCatch attempt fun _ _ impossible => impossible.elim

end Ensures

namespace Keeps

variable {invariant : σ → Prop} {program : EStateM ε σ α}

theorem fallback {handled : ε → Bool} (value : α) (attempt : Keeps invariant program) :
    Keeps invariant (MonadExcept.tryCatch program fun exception =>
      if handled exception then Pure.pure value else MonadExcept.throw exception) := by
  refine Ensures.tryCatch attempt fun exception => ?_
  cases handled exception with
  | true => exact fun _ satisfied => satisfied
  | false => exact fun _ satisfied => satisfied

theorem finalState (holds : Keeps invariant program) {state : σ}
    (satisfied : invariant state) :
    invariant (Execution.finalState (program.run state)) :=
  Ensures.finalState holds satisfied

theorem pure (value : α) : Keeps invariant (Pure.pure value : EStateM ε σ α) :=
  fun _ satisfied => satisfied

theorem throw (exception : ε) :
    Keeps invariant (MonadExcept.throw exception : EStateM ε σ α) :=
  fun _ satisfied => satisfied

theorem bind {next : α → EStateM ε σ β} (first : Keeps invariant program)
    (rest : ∀ value, Keeps invariant (next value)) :
    Keeps invariant (program >>= next) :=
  Ensures.bind first rest

theorem get : Keeps invariant (MonadState.get : EStateM ε σ σ) :=
  fun _ satisfied => satisfied

theorem tryCatch {handle : ε → EStateM ε σ α} (attempt : Keeps invariant program)
    (recover : ∀ exception, Keeps invariant (handle exception)) :
    Keeps invariant (MonadExcept.tryCatch program handle) :=
  Ensures.tryCatch attempt recover

end Keeps

end BuranBrew.Execution

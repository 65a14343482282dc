import BuranBrew.Foundation.Execution

/-! # What a program may raise

Rules for the exceptions that leave a program, whatever state it starts in.
-/

namespace BuranBrew.Execution

variable {ε σ α β : Type}

def RaisesOnly (allowed : ε → Prop) (program : EStateM ε σ α) : Prop :=
  Ensures (fun _ => True) program (fun _ _ => True) (fun exception _ => allowed exception)

namespace RaisesOnly

variable {allowed : ε → Prop} {program : EStateM ε σ α}

theorem ensures (raisesOnly : RaisesOnly allowed program) {before : σ → Prop}
    {raised : ε → σ → Prop}
    (raises : ∀ exception state, allowed exception → raised exception state) :
    Ensures before program (fun _ _ => True) raised :=
  raisesOnly.weaken (fun _ _ => trivial) (fun _ _ => id) raises

theorem pure (value : α) : RaisesOnly allowed (Pure.pure value : EStateM ε σ α) :=
  Ensures.pure fun _ => id

theorem throw {exception : ε} (holds : allowed exception) :
    RaisesOnly allowed (MonadExcept.throw exception : EStateM ε σ α) :=
  Ensures.throw fun _ _ => holds

theorem get : RaisesOnly allowed (MonadState.get : EStateM ε σ σ) :=
  Ensures.get

theorem set (state : σ) : RaisesOnly allowed (MonadStateOf.set state : EStateM ε σ PUnit) :=
  Ensures.set fun _ => id

theorem modify (update : σ → σ) :
    RaisesOnly allowed (modify update : EStateM ε σ PUnit) :=
  Ensures.modify fun _ => id

theorem bind {next : α → EStateM ε σ β} (first : RaisesOnly allowed program)
    (rest : ∀ value, RaisesOnly allowed (next value)) :
    RaisesOnly allowed (program >>= next) :=
  Ensures.bind first rest

theorem tryCatch {handle : ε → EStateM ε σ α} {caught : ε → Prop}
    (attempt : RaisesOnly caught program)
    (recover : ∀ exception, caught exception → RaisesOnly allowed (handle exception)) :
    RaisesOnly allowed (MonadExcept.tryCatch program handle) := by
  apply Ensures.tryCatch attempt
  intro exception state raised
  exact recover exception raised state trivial

theorem fallback {handled : ε → Bool} (value : α)
    (attempt : RaisesOnly (fun exception => handled exception = true ∨ allowed exception)
      program) :
    RaisesOnly allowed (MonadExcept.tryCatch program fun exception =>
      if handled exception then Pure.pure value else MonadExcept.throw exception) := by
  apply attempt.tryCatch
  intro exception raised
  by_cases known : handled exception = true
  · rw [if_pos known]
    exact pure value
  · rw [if_neg known]
    exact throw (raised.resolve_left known)

end RaisesOnly

end BuranBrew.Execution

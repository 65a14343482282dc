import Mathlib.Data.List.Infix

/-! # Histories

A history lists events, newest first.
-/

namespace BuranBrew.History

variable {α : Type} {property other : α → List α → Prop} {event : α}
  {earlier history : List α}

/-- A property of every event and the history before it. -/
def Throughout (property : α → List α → Prop) (history : List α) : Prop :=
  ∀ event earlier, event :: earlier <:+ history → property event earlier

@[simp] theorem throughout_nil : Throughout property [] := by
  intro event earlier among
  simp at among

@[simp] theorem throughout_cons :
    Throughout property (event :: earlier) ↔
      property event earlier ∧ Throughout property earlier := by
  constructor
  · intro holds
    constructor
    · exact holds event earlier (List.suffix_refl _)
    · exact fun other before among => holds other before
        (among.trans (List.suffix_cons event earlier))
  · intro holds other before among
    rw [List.suffix_cons_iff] at among
    rcases among with same | among
    · cases same
      exact holds.1
    · exact holds.2 other before among

end BuranBrew.History

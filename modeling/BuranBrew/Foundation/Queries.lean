import Mathlib.Data.List.Sort
import Mathlib.Data.List.Nodup
import Mathlib.Order.MinMax

/-! # Queries

The clauses of a query over the rows of a table. An order by a key that no two rows
share leaves no choice of the latest row.
-/

namespace BuranBrew.Queries

variable {α κ γ : Type} [LinearOrder κ] [DecidableEq γ]

def orderByDesc (key : α → κ) (rows : List α) : List α :=
  rows.insertionSort fun row other => key other ≤ key row

/-- `ORDER BY key DESC LIMIT 1`. -/
def latest (key : α → κ) (rows : List α) : Option α :=
  (orderByDesc key rows).head?

/-- `DISTINCT ON (group)`: the first row of every group. -/
def distinctOn (group : α → γ) : List α → List α
  | [] => []
  | row :: rows => row :: (distinctOn group rows).filter fun other => group other ≠ group row

structure IsLatest (key : α → κ) (rows : List α) (row : α) : Prop where
  mem : row ∈ rows
  key_le : ∀ other ∈ rows, key other ≤ key row

section Latest

variable {key : α → κ} {rows : List α} {row other : α} {among : α → Bool}

theorem mem_orderByDesc (key : α → κ) : row ∈ orderByDesc key rows ↔ row ∈ rows :=
  List.mem_insertionSort _

theorem orderByDesc_pairwise (key : α → κ) (rows : List α) :
    (orderByDesc key rows).Pairwise fun row other => key other ≤ key row := by
  have total : Std.Total fun row other : α => key other ≤ key row :=
    ⟨fun row other => le_total (key other) (key row)⟩
  have transitive : IsTrans α fun row other => key other ≤ key row :=
    ⟨fun _ _ _ first second => second.trans first⟩
  exact List.pairwise_insertionSort _ rows

theorem isLatest_of_find? (found : (orderByDesc key rows).find? among = some row) :
    IsLatest key (rows.filter among) row := by
  rcases List.find?_eq_some_iff_append.mp found with ⟨chosen, before, after, split, skipped⟩
  have ordered := orderByDesc_pairwise key rows
  rw [split, List.pairwise_append] at ordered
  constructor
  · rw [List.mem_filter, ← mem_orderByDesc key, split]
    exact ⟨by simp, chosen⟩
  · intro other mem
    rcases List.mem_filter.mp mem with ⟨mem, kind⟩
    rw [← mem_orderByDesc key, split, List.mem_append, List.mem_cons] at mem
    rcases mem with early | same | late
    · simpa [kind] using skipped other early
    · rw [same]
    · exact (List.pairwise_cons.mp ordered.2.1).1 other late

theorem isLatest_of_latest (found : latest key rows = some row) : IsLatest key rows row := by
  have first : (orderByDesc key rows).find? (fun _ => true) = some row := by
    rw [← List.head?_filter, List.filter_true]
    exact found
  simpa using isLatest_of_find? first

theorem IsLatest.unique (distinct : (rows.map key).Nodup) (latest : IsLatest key rows row)
    (latest' : IsLatest key rows other) : row = other :=
  List.inj_on_of_nodup_map distinct latest.mem latest'.mem
    (le_antisymm (latest'.key_le row latest.mem) (latest.key_le other latest'.mem))

theorem latest_eq_none : latest key rows = none ↔ rows = [] := by
  rw [latest, List.head?_eq_none_iff, ← List.length_eq_zero_iff, orderByDesc,
    List.length_insertionSort, List.length_eq_zero_iff]

theorem latest_eq_some (distinct : (rows.map key).Nodup) :
    latest key rows = some row ↔ IsLatest key rows row := by
  constructor
  · exact isLatest_of_latest
  · intro isLatest
    rcases found : latest key rows with _ | other
    · rw [latest_eq_none] at found
      subst found
      cases isLatest.mem
    · rw [(isLatest_of_latest found).unique distinct isLatest]

theorem find?_orderByDesc (distinct : (rows.map key).Nodup) :
    (orderByDesc key rows).find? among = latest key (rows.filter among) := by
  rcases found : (orderByDesc key rows).find? among with _ | row
  · symm
    rw [latest_eq_none, List.filter_eq_nil_iff]
    intro row mem
    exact List.find?_eq_none.mp found row ((mem_orderByDesc key).mpr mem)
  · symm
    rw [latest_eq_some (distinct.sublist (List.filter_sublist.map key))]
    exact isLatest_of_find? found

end Latest

section DistinctOn

variable {group : α → γ} {rows : List α} {row : α}

theorem mem_distinctOn :
    row ∈ distinctOn group rows ↔
      rows.find? (fun other => group other = group row) = some row := by
  induction rows with
  | nil => simp [distinctOn]
  | cons first rows induction =>
      rw [distinctOn, List.mem_cons, List.mem_filter, induction]
      by_cases same : group first = group row
      · have goes : group row = group first := same.symm
        simp [same, eq_comm]
      · have other : row ≠ first := by
          intro same
          subst same
          exact same rfl
        simp [same, other, Ne.symm same]

theorem find?_distinctOn (value : γ) :
    (distinctOn group rows).find? (fun row => group row = value) =
      rows.find? fun row => group row = value := by
  induction rows with
  | nil => rfl
  | cons first rows induction =>
      rw [distinctOn]
      by_cases same : group first = value
      · simp [same]
      · simp only [List.find?_cons, same, decide_false, List.find?_filter, ← induction]
        congr 1
        funext row
        by_cases here : group row = value
        · simp [here, Ne.symm same]
        · simp [here]

end DistinctOn

section Aggregates

instance lawfulOrderMin : Std.LawfulOrderMin κ :=
  .of_le_min_iff (fun _ _ _ => le_min_iff) min_choice

instance lawfulOrderMax : Std.LawfulOrderMax κ :=
  .of_max_le_iff (fun _ _ _ => max_le_iff) max_choice

variable {values : List κ} {value bound default : κ}

theorem getD_min?_lt (mem : value ∈ values) :
    values.min?.getD default < bound ↔ ∃ value ∈ values, value < bound := by
  rcases found : values.min? with _ | least
  · rw [List.min?_eq_none_iff] at found
    subst found
    cases mem
  · rw [List.min?_eq_some_iff] at found
    constructor
    · intro below
      exact ⟨least, found.1, below⟩
    · intro one
      rcases one with ⟨value, mem, below⟩
      exact (found.2 value mem).trans_lt below

theorem max?_lt : (∀ greatest ∈ values.max?, greatest < bound) ↔
    ∀ value ∈ values, value < bound := by
  rcases found : values.max? with _ | greatest
  · rw [List.max?_eq_none_iff] at found
    simp [found]
  · rw [List.max?_eq_some_iff] at found
    constructor
    · intro below value mem
      exact (found.2 value mem).trans_lt (below greatest rfl)
    · intro below other same
      cases same
      exact below greatest found.1

end Aggregates

end BuranBrew.Queries

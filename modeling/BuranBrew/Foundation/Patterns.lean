import Mathlib.Data.List.Basic
import Mathlib.Data.List.Infix
import Mathlib.Data.List.TakeWhile

/-! # Patterns of quantified character classes

A backtracking matcher: a quantified class takes as many characters as it can, and gives
them back one by one until the rest of the pattern matches. A pattern that begins with a
character that it does not accept again matches at places that do not overlap, so that
searching on behind every match leaves none out.
-/

namespace BuranBrew.Patterns

variable {χ : Type}

inductive Quantifier
  | one
  | optional
  | star
  | plus
  deriving DecidableEq, Repr

def Quantifier.admits : Quantifier → Nat → Bool
  | .one, count => count = 1
  | .optional, count => count ≤ 1
  | .star, _ => true
  | .plus, count => 0 < count

/-- A class of characters with a quantifier, inside or outside the group. -/
structure Item (χ : Type) where
  accepts : χ → Bool
  quantifier : Quantifier := .one
  grouped : Bool := false

abbrev Pattern (χ : Type) := List (Item χ)

namespace Item

variable (item : Item χ) (input : List χ)

def most : Nat :=
  match item.quantifier with
  | .one | .optional => min 1 (input.takeWhile item.accepts).length
  | .star | .plus => (input.takeWhile item.accepts).length

/-- The counts that are tried in turn, the greedy one first. -/
def tries : List Nat :=
  (List.range (item.most input + 1)).reverse.filter item.quantifier.admits

def group (taken : List χ) : List χ := if item.grouped then taken else []

end Item

/-- The text of the group and the input behind the match, for a match at the beginning. -/
def matchAt : Pattern χ → List χ → Option (List χ × List χ)
  | [], input => some ([], input)
  | item :: items, input =>
      (item.tries input).findSome? fun count =>
        (matchAt items (input.drop count)).map fun found =>
          (item.group (input.take count) ++ found.1, found.2)

/-- The groups of the matches, each the leftmost one after `skip` characters and after those
before, for a pattern that does not match the empty text. -/
def search (pattern : Pattern χ) : Nat → List χ → List (List χ)
  | _, [] => []
  | skip + 1, _ :: input => search pattern skip input
  | 0, char :: input =>
      match matchAt pattern (char :: input) with
      | some (group, rest) => group :: search pattern (input.length - rest.length) input
      | none => search pattern 0 input

def findall (pattern : Pattern χ) (input : List χ) : List (List χ) :=
  search pattern 0 input

/-! ## What is matched -/

/-- The texts that a pattern describes, and the text of the group in each. -/
inductive Describes : Pattern χ → List χ → List χ → Prop
  | nil : Describes [] [] []
  | cons {item : Item χ} {items : Pattern χ} {taken text group : List χ}
      (accepted : ∀ char ∈ taken, item.accepts char = true)
      (admitted : item.quantifier.admits taken.length = true)
      (rest : Describes items text group) :
      Describes (item :: items) (taken ++ text) (item.group taken ++ group)

namespace Item

variable {item : Item χ} {input : List χ} {count : Nat}

theorem mem_tries : count ∈ item.tries input ↔
    count ≤ (input.takeWhile item.accepts).length ∧ item.quantifier.admits count = true := by
  rw [tries, List.mem_filter, List.mem_reverse, List.mem_range, Nat.lt_succ_iff]
  apply and_congr_left
  intro admitted
  cases known : item.quantifier with
  | one | optional =>
      simp only [known, Quantifier.admits, decide_eq_true_eq] at admitted
      simp only [most, known]
      omega
  | star | plus => simp only [most, known]

theorem take_eq (atMost : count ≤ (input.takeWhile item.accepts).length) :
    input.take count = (input.takeWhile item.accepts).take count := by
  have run := List.prefix_iff_eq_take.mp (List.takeWhile_prefix item.accepts (l := input))
  rw [run, List.take_take, Nat.min_eq_left atMost]

theorem accepts_of_mem_take (atMost : count ≤ (input.takeWhile item.accepts).length) :
    ∀ char ∈ input.take count, item.accepts char = true := by
  intro char taken
  rw [take_eq atMost] at taken
  exact List.mem_takeWhile_imp (List.mem_of_mem_take taken)

theorem length_take (atMost : count ≤ (input.takeWhile item.accepts).length) :
    (input.take count).length = count := by
  rw [take_eq atMost, List.length_take, Nat.min_eq_left atMost]

theorem length_le_run {taken rest : List χ}
    (accepted : ∀ char ∈ taken, item.accepts char = true) :
    taken.length ≤ ((taken ++ rest).takeWhile item.accepts).length := by
  rw [List.takeWhile_append_of_pos accepted, List.length_append]
  exact Nat.le_add_right _ _

end Item

section Matching

variable {item : Item χ} {items : Pattern χ} {pattern : Pattern χ}
  {input text group rest : List χ}

theorem describes_of_matchAt (found : matchAt pattern input = some (group, rest)) :
    ∃ text, input = text ++ rest ∧ Describes pattern text group := by
  induction pattern generalizing input group with
  | nil =>
      cases found
      exact ⟨[], rfl, .nil⟩
  | cons item items induction =>
      rcases List.exists_of_findSome?_eq_some found with ⟨count, tried, matched⟩
      rcases Option.map_eq_some_iff.mp matched with ⟨⟨inner, behind⟩, later, same⟩
      cases same
      rcases Item.mem_tries.mp tried with ⟨atMost, admitted⟩
      rcases induction later with ⟨text, split, described⟩
      refine ⟨input.take count ++ text, ?_, .cons ?_ ?_ described⟩
      · rw [List.append_assoc, ← split, List.take_append_drop]
      · exact Item.accepts_of_mem_take atMost
      · rw [Item.length_take atMost]
        exact admitted

theorem matchAt_of_describes (described : Describes pattern text group) (rest : List χ) :
    ∃ found, matchAt pattern (text ++ rest) = some found := by
  induction described with
  | nil => exact ⟨_, rfl⟩
  | @cons item items taken text group accepted admitted _ induction =>
      rcases induction with ⟨found, matched⟩
      apply Option.isSome_iff_exists.mp
      rw [matchAt, List.append_assoc, List.findSome?_isSome_iff]
      refine ⟨taken.length, Item.mem_tries.mpr ⟨Item.length_le_run accepted, admitted⟩, ?_⟩
      rw [List.drop_left, matched]
      rfl

theorem matchAt_eq_none_iff : matchAt pattern input = none ↔
    ∀ text group rest, input = text ++ rest → ¬Describes pattern text group := by
  constructor
  · rintro none text group rest rfl described
    rcases matchAt_of_describes described rest with ⟨found, matched⟩
    rw [none] at matched
    cases matched
  · intro absent
    cases found : matchAt pattern input with
    | none => rfl
    | some found =>
        rcases describes_of_matchAt found with ⟨text, split, described⟩
        exact absurd described (absent _ _ _ split)

theorem Item.head?_tries (admitted : item.quantifier.admits (item.most input) = true) :
    ∃ fewer, item.tries input = item.most input :: fewer := by
  rw [Item.tries, List.range_succ, List.reverse_append]
  exact ⟨_, List.filter_cons_of_pos admitted⟩

/-- Nothing is given back when the rest of the pattern matches behind all that an item can
take. -/
theorem matchAt_greedy {taken behind : List χ}
    (most : item.most (taken ++ rest) = taken.length)
    (admitted : item.quantifier.admits taken.length = true)
    (found : matchAt items rest = some (group, behind)) :
    matchAt (item :: items) (taken ++ rest) = some (item.group taken ++ group, behind) := by
  rw [← most] at admitted
  rcases Item.head?_tries admitted with ⟨fewer, tries⟩
  rw [matchAt, tries, most, List.findSome?_cons, List.drop_left, List.take_left, found]
  rfl

theorem Item.most_eq_length {taken : List χ}
    (repeated : item.quantifier = .star ∨ item.quantifier = .plus)
    (accepted : ∀ char ∈ taken, item.accepts char = true)
    (ended : ∀ char ∈ rest.head?, item.accepts char = false) :
    item.most (taken ++ rest) = taken.length := by
  have run : (taken ++ rest).takeWhile item.accepts = taken := by
    rw [List.takeWhile_append_of_pos accepted]
    cases rest with
    | nil => simp
    | cons head rest => simp [ended head rfl]
  rcases repeated with star | plus
  · simp only [Item.most, star, run]
  · simp only [Item.most, plus, run]

/-! ## Literal text -/

section Literal

variable [DecidableEq χ]

def literal (text : List χ) : Pattern χ :=
  text.map fun char => { accepts := (· = char) }

theorem matchAt_literal (text : List χ) (found : matchAt items rest = some (group, input)) :
    matchAt (literal text ++ items) (text ++ rest) = some (group, input) := by
  induction text with
  | nil => exact found
  | cons char text induction =>
      have most : (⟨(· = char), .one, false⟩ : Item χ).most ([char] ++ (text ++ rest)) =
          [char].length := by
        simp [Item.most]
      have greedy := matchAt_greedy most rfl induction
      exact greedy

theorem describes_literal {text : List χ}
    (described : Describes (literal text ++ items) input group) :
    ∃ rest, input = text ++ rest ∧ Describes items rest group := by
  induction text generalizing input with
  | nil => exact ⟨input, rfl, described⟩
  | cons char text induction =>
      cases described with
      | @cons _ _ taken input group accepted admitted later =>
          have one : taken.length = 1 := of_decide_eq_true admitted
          rcases List.length_eq_one_iff.mp one with ⟨head, rfl⟩
          have same : head = char := of_decide_eq_true (accepted head List.mem_cons_self)
          rcases induction later with ⟨rest, split, described⟩
          exact ⟨rest, by rw [same, split]; rfl, described⟩

end Literal

end Matching

/-! ## Searching -/

/-- The pattern begins with a single character that occurs nowhere else in a match. -/
structure Delimited (first : Item χ) (items : Pattern χ) : Prop where
  single : first.quantifier = .one
  only : ∀ text group, Describes items text group →
    ∀ char ∈ text, first.accepts char = false

section Searching

variable {first : Item χ} {items : Pattern χ} {input : List χ}

def groupAt (pattern : Pattern χ) (input : List χ) : Option (List χ) :=
  (matchAt pattern input).map Prod.fst

theorem Delimited.matchAt_nil (delimited : Delimited first items) :
    matchAt (first :: items) [] = none := by
  rw [matchAt_eq_none_iff]
  intro text group rest split described
  cases described with
  | cons accepted admitted later =>
      have empty := (List.append_eq_nil_iff.mp (List.append_eq_nil_iff.mp split.symm).1).1
      simp [empty, delimited.single, Quantifier.admits] at admitted

theorem Delimited.matchAt_cons (delimited : Delimited first items) {char : χ}
    {group rest : List χ}
    (found : matchAt (first :: items) (char :: input) = some (group, rest)) :
    ∃ text, input = text ++ rest ∧ ∀ char ∈ text, first.accepts char = false := by
  rcases describes_of_matchAt found with ⟨text, split, described⟩
  cases described with
  | @cons _ _ taken text group accepted admitted later =>
      have one : taken.length = 1 := by
        simpa [delimited.single, Quantifier.admits] using admitted
      rcases List.length_eq_one_iff.mp one with ⟨head, rfl⟩
      cases split
      exact ⟨text, rfl, delimited.only _ _ later⟩

theorem Delimited.matchAt_of_rejected (delimited : Delimited first items) {char : χ}
    (rejected : first.accepts char = false) :
    matchAt (first :: items) (char :: input) = none := by
  rw [matchAt_eq_none_iff]
  intro text group rest split described
  cases described with
  | @cons _ _ taken text group accepted admitted later =>
      have one : taken.length = 1 := by
        simpa [delimited.single, Quantifier.admits] using admitted
      rcases List.length_eq_one_iff.mp one with ⟨head, rfl⟩
      cases split
      simp [accepted] at rejected

theorem Delimited.filterMap_tails (delimited : Delimited first items) {text : List χ}
    (rejected : ∀ char ∈ text, first.accepts char = false) (rest : List χ) :
    (text ++ rest).tails.filterMap (groupAt (first :: items)) =
      rest.tails.filterMap (groupAt (first :: items)) := by
  induction text with
  | nil => rfl
  | cons char text induction =>
      have none : matchAt (first :: items) (char :: (text ++ rest)) = none :=
        delimited.matchAt_of_rejected (rejected char List.mem_cons_self)
      rw [List.cons_append, List.tails_cons, List.filterMap_cons_none]
      · exact induction fun other among => rejected other (List.mem_cons_of_mem _ among)
      · rw [groupAt, none]
        rfl

theorem search_skip (pattern : Pattern χ) (text rest : List χ) :
    search pattern text.length (text ++ rest) = search pattern 0 rest := by
  induction text with
  | nil => rfl
  | cons char text induction => exact induction

theorem Delimited.findall_eq (delimited : Delimited first items) (input : List χ) :
    findall (first :: items) input = input.tails.filterMap (groupAt (first :: items)) := by
  unfold findall
  induction length : input.length using Nat.strong_induction_on generalizing input with
  | _ count induction =>
      subst length
      cases input with
      | nil => simp [search, groupAt, delimited.matchAt_nil]
      | cons char input =>
          rw [List.tails_cons, search]
          cases found : matchAt (first :: items) (char :: input) with
          | none =>
              rw [List.filterMap_cons_none (by simp [groupAt, found])]
              exact induction _ (Nat.lt_succ_self _) input rfl
          | some matched =>
              rcases matched with ⟨group, rest⟩
              rcases delimited.matchAt_cons found with ⟨text, rfl, rejected⟩
              have shorter : rest.length < (char :: (text ++ rest)).length := by
                simp only [List.length_cons, List.length_append]
                omega
              have grouped : groupAt (first :: items) (char :: (text ++ rest)) = some group := by
                rw [groupAt, found]
                rfl
              rw [List.filterMap_cons_some grouped, delimited.filterMap_tails rejected]
              simp only [List.length_append, Nat.add_sub_cancel]
              rw [search_skip, induction _ shorter rest rfl]

theorem getLast?_filterMap_tails {γ : Type} {at? : List χ → Option γ} {last : γ} :
    (input.tails.filterMap at?).getLast? = some last ↔
      ∃ after, after <:+ input ∧ at? after = some last ∧
        ∀ later, later <:+ after → later ≠ after → at? later = none := by
  induction input with
  | nil =>
      cases found : at? [] <;> simp [found]
  | cons char input induction =>
      have split : (char :: input).tails.filterMap at? =
          (at? (char :: input)).toList ++ input.tails.filterMap at? := by
        rw [List.tails_cons, List.filterMap_cons]
        cases at? (char :: input) <;> rfl
      rw [split, List.getLast?_append, Option.or_eq_some_iff, List.getLast?_eq_none_iff,
        List.filterMap_eq_nil_iff, induction]
      constructor
      · rintro (⟨after, within, found, none⟩ | ⟨none, found⟩)
        · exact ⟨after, within.trans (List.suffix_cons char input), found, none⟩
        · refine ⟨char :: input, List.suffix_rfl, ?_, ?_⟩
          · cases known : at? (char :: input) with
            | none => simp [known] at found
            | some first => simpa [known] using found
          · intro later within other
            rcases List.suffix_cons_iff.mp within with same | inside
            · exact absurd same other
            · exact none later ((List.mem_tails _ _).mpr inside)
      · rintro ⟨after, within, found, none⟩
        rcases List.suffix_cons_iff.mp within with rfl | inside
        · right
          refine ⟨fun later among => ?_, by simp [found]⟩
          have inside := (List.mem_tails _ _).mp among
          apply none later (inside.trans (List.suffix_cons char input))
          rintro rfl
          exact absurd inside.length_le (by simp)
        · exact .inl ⟨after, inside, found, none⟩

/-- The last group that is found belongs to the last place where the pattern matches. -/
theorem Delimited.getLast?_findall (delimited : Delimited first items) {group : List χ} :
    (findall (first :: items) input).getLast? = some group ↔
      ∃ after, after <:+ input ∧ groupAt (first :: items) after = some group ∧
        ∀ later, later <:+ after → later ≠ after → groupAt (first :: items) later = none := by
  rw [delimited.findall_eq, getLast?_filterMap_tails]

end Searching

end BuranBrew.Patterns

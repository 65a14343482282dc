import BuranBrew.Foundation.Patterns
import BuranBrew.Host.Emitter
import BuranBrew.Telemetry.RedisPort

/-! # `ChipTool`

Every call runs `chip-tool`, which is another program; a value that was read is the last one
in what it has printed.
-/

namespace BuranBrew.Host

open Numerals Patterns
open BuranBrew.Telemetry (Text isPySpace pyLines strip)

/-- The decimal digits and their values, which depend on the version of Unicode. -/
structure Decimals where
  value : Char → Option Nat
  ascii : ∀ char, char.toNat < 128 →
    value char = if char.isDigit then some (char.toNat - '0'.toNat) else none
  space : ∀ char, isPySpace char = true → value char = none

def Decimals.basic : Decimals where
  value char := if char.isDigit then some (char.toNat - '0'.toNat) else none
  ascii _ _ := rfl
  space char space := by
    apply if_neg
    intro isDigit
    have bounds := Char.isDigit_iff_toNat.mp isDigit
    have lower : 48 ≤ char.toNat := bounds.1
    have upper : char.toNat ≤ 57 := bounds.2
    simp [isPySpace] at space
    omega

inductive Failure
  | runtimeError (message : String)
  | timeoutExpired
  | osError
  | valueError
  deriving DecidableEq, Repr

def Failure.exn : Failure → Exn
  | .runtimeError _ => .runtimeError
  | .timeoutExpired => .timeoutExpired
  | .osError => .osError
  | .valueError => .otherException

/-- How `subprocess.run` ends. -/
inductive Process
  | completed (returncode : Int) (stdout stderr : Text)
  | timeoutExpired
  | osError
  /-- What it has printed is not text. -/
  | unicodeDecodeError
  deriving DecidableEq, Repr

namespace Decimals

variable (decimals : Decimals)

def isDecimal (char : Char) : Bool := (decimals.value char).isSome

/-- `int` refuses longer numerals. -/
def maxStrDigits : Nat := 4300

def digits : Text → Text
  | '-' :: digits => digits
  | digits => digits

/-- `int(number)` for a sign, if any, and decimal digits. -/
def int (number : Text) : Except Failure Int :=
  let digits := digits number
  if digits.length > maxStrDigits then .error .valueError
  else
    match digits.mapM decimals.value with
    | some values =>
        let magnitude : Nat := values.foldl (fun total digit => 10 * total + digit) 0
        .ok (if number.head? = some '-' then -magnitude else magnitude)
    | none => .error .valueError

end Decimals

structure ChipTool where
  chipTool : String
  storageDir : String
  deriving DecidableEq, Repr

namespace ChipTool

variable (self : ChipTool) (decimals : Decimals) (subprocess : List String → Process)

def tail (stderr : Text) : Text :=
  match strip isPySpace stderr with
  | [] => ['?']
  | stripped => (pyLines stripped).getLast?.getD ['?']

def failureMessage (args : List String) (returncode : Int) (stderr : Text) : String :=
  "chip-tool " ++ " ".intercalate args ++ " rc=" ++ formatInt returncode ++ ": " ++
    String.ofList (tail stderr)

def run (args : List String) : Except Failure Text :=
  match subprocess (self.chipTool :: args ++ ["--storage-directory", self.storageDir]) with
  | .completed returncode stdout stderr =>
      if returncode ≠ 0 then .error (.runtimeError (failureMessage args returncode stderr))
      else .ok stdout
  | .timeoutExpired => .error .timeoutExpired
  | .osError => .error .osError
  | .unicodeDecodeError => .error .valueError

def label : Text := "MeasuredValue:".toList

def white : Item Char := { accepts := isPySpace, quantifier := .star }

def minus : Item Char := { accepts := (· = '-'), quantifier := .optional, grouped := true }

def digit : Item Char :=
  { accepts := decimals.isDecimal, quantifier := .plus, grouped := true }

def measuredRe : Pattern Char := literal label ++ [white, minus, digit decimals]

/-- `_read` from the search on. -/
def lastValue (node endpoint : Int) (output : Text) : Except Failure Int :=
  match (findall (measuredRe decimals) output).getLast? with
  | none =>
      .error (.runtimeError ("no MeasuredValue in output for " ++ formatInt node ++ "/" ++
        formatInt endpoint))
  | some number => decimals.int number

def read (cluster : String) (node endpoint : Int) : Except Failure Int := do
  let output ← self.run subprocess
    [cluster, "read", "measured-value", formatInt node, formatInt endpoint]
  lastValue decimals node endpoint output

def readTempCenti (node endpoint : Int) : Except Failure Int :=
  self.read decimals subprocess "temperaturemeasurement" node endpoint

def readGravityMilli (node endpoint : Int) : Except Failure Int :=
  self.read decimals subprocess "relativehumiditymeasurement" node endpoint

def setPlug (node : Int) (on : Bool) : Except Failure Unit := do
  let _ ← self.run subprocess ["onoff", if on then "on" else "off", formatInt node, "1"]
  return ()

/-! ## Fields -/

def Field (number text : Text) : Prop :=
  ∃ spaces negative digits rest, text = label ++ (spaces ++ (number ++ rest)) ∧
    number = signed negative digits ∧ (∀ char ∈ spaces, isPySpace char = true) ∧
    digits ≠ [] ∧ (∀ char ∈ digits, decimals.isDecimal char = true) ∧
    ∀ char ∈ rest.head?, decimals.isDecimal char = false

def LastField (number output : Text) : Prop :=
  ∃ text, text <:+ output ∧ Field decimals number text ∧
    ∀ later, later <:+ text → later ≠ text → ∀ other, ¬Field decimals other later

section Fields

variable {decimals} {number text output group : Text}

theorem isDecimal_of_ascii {char : Char} (ascii : char.toNat < 128) :
    decimals.isDecimal char = char.isDigit := by
  rw [Decimals.isDecimal, decimals.ascii char ascii]
  cases char.isDigit <;> rfl

theorem isDecimal_of_isPySpace {char : Char} (space : isPySpace char = true) :
    decimals.isDecimal char = false := by
  rw [Decimals.isDecimal, decimals.space char space]
  rfl

@[simp] theorem white_group (taken : Text) : white.group taken = [] := rfl

@[simp] theorem minus_group (taken : Text) : minus.group taken = taken := rfl

@[simp] theorem digit_group (taken : Text) : (digit decimals).group taken = taken := rfl

theorem describes_numeral (described : Describes [white, minus, digit decimals] text group) :
    ∃ spaces negative digits, text = spaces ++ group ∧ group = signed negative digits ∧
      (∀ char ∈ spaces, isPySpace char = true) ∧ digits ≠ [] ∧
      ∀ char ∈ digits, decimals.isDecimal char = true := by
  cases described with
  | @cons _ _ spaces _ _ spacious _ described =>
  cases described with
  | @cons _ _ sign _ _ minus optional described =>
  cases described with
  | @cons _ _ digits _ _ decimal plus described =>
  cases described with
  | nil =>
      have atMostOne : sign.length ≤ 1 := of_decide_eq_true optional
      have some : 0 < digits.length := of_decide_eq_true plus
      have signs : ∃ negative, sign ++ digits = signed negative digits := by
        cases sign with
        | nil => exact ⟨false, rfl⟩
        | cons char others =>
            have none : others = [] := by simpa using atMostOne
            have same : char = '-' := of_decide_eq_true (minus char List.mem_cons_self)
            exact ⟨true, by rw [none, same]; rfl⟩
      rcases signs with ⟨negative, signs⟩
      refine ⟨spaces, negative, digits, ?_, ?_, spacious, List.ne_nil_of_length_pos some, decimal⟩
      · simp
      · simpa using signs

theorem matchAt_numeral {spaces digits rest : Text} (negative : Bool)
    (spacious : ∀ char ∈ spaces, isPySpace char = true) (some : digits ≠ [])
    (decimal : ∀ char ∈ digits, decimals.isDecimal char = true)
    (ended : ∀ char ∈ rest.head?, decimals.isDecimal char = false) :
    matchAt [white, minus, digit decimals] (spaces ++ (signed negative digits ++ rest)) =
      .some (signed negative digits, rest) := by
  rcases List.exists_cons_of_ne_nil some with ⟨head, others, first⟩
  have decimalHead : decimals.isDecimal head = true := decimal head (by simp [first])
  have minusDecimal : decimals.isDecimal '-' = false := isDecimal_of_ascii (by decide)
  have digitsMatched : matchAt [digit decimals] (digits ++ rest) = .some (digits, rest) := by
    have most : (digit decimals).most (digits ++ rest) = digits.length :=
      Item.most_eq_length (.inr rfl) decimal ended
    have admitted : (digit decimals).quantifier.admits digits.length = true :=
      decide_eq_true (List.length_pos_of_ne_nil some)
    have nothing : matchAt ([] : Pattern Char) rest = .some ([], rest) := rfl
    simpa using matchAt_greedy most admitted nothing
  have signMatched : matchAt [minus, digit decimals] (signed negative digits ++ rest) =
      .some (signed negative digits, rest) := by
    cases negative with
    | false =>
        have other : head ≠ '-' := by
          rintro rfl
          rw [minusDecimal] at decimalHead
          cases decimalHead
        have most : minus.most ([] ++ (digits ++ rest)) = ([] : Text).length := by
          simp [Item.most, minus, first, other]
        exact matchAt_greedy most rfl digitsMatched
    | true =>
        have most : minus.most (['-'] ++ (digits ++ rest)) = ['-'].length := by
          simp [Item.most, minus]
        exact matchAt_greedy most rfl digitsMatched
  have most : white.most (spaces ++ (signed negative digits ++ rest)) = spaces.length := by
    refine Item.most_eq_length (.inl rfl) spacious ?_
    cases negative with
    | false =>
        intro char among
        simp only [signed, first] at among
        cases among
        by_contra space
        rw [isDecimal_of_isPySpace (Bool.not_eq_false _ ▸ space)] at decimalHead
        cases decimalHead
    | true =>
        intro char among
        cases among
        decide
  exact matchAt_greedy most rfl signMatched

/-- The label, white space, a sign and digits up to the last one match. -/
theorem groupAt_of_field (field : Field decimals number text) :
    groupAt (measuredRe decimals) text = some number := by
  rcases field with ⟨spaces, negative, digits, rest, rfl, rfl, spacious, some, decimal, ended⟩
  have matched := matchAt_literal label (matchAt_numeral negative spacious some decimal ended)
  rw [groupAt, measuredRe, matched]
  rfl

theorem signed_append (negative : Bool) (digits more : Text) :
    signed negative digits ++ more = signed negative (digits ++ more) := by
  cases negative <;> rfl

theorem groupAt_eq_some_iff :
    groupAt (measuredRe decimals) text = some number ↔ Field decimals number text := by
  constructor
  · intro found
    rcases Option.map_eq_some_iff.mp found with ⟨⟨group, rest⟩, matched, rfl⟩
    rcases describes_of_matchAt matched with ⟨shown, rfl, described⟩
    rcases describes_literal described with ⟨behind, rfl, numeral⟩
    rcases describes_numeral numeral with ⟨spaces, negative, digits, rfl, rfl, spacious, some,
      decimal⟩
    -- The numeral goes on as long as there are digits.
    have field : Field decimals (signed negative (digits ++ rest.takeWhile decimals.isDecimal))
        (label ++ (spaces ++ signed negative digits) ++ rest) := by
      refine ⟨spaces, negative, _, rest.dropWhile decimals.isDecimal, ?_, rfl, spacious, ?_, ?_,
        ?_⟩
      · rw [← signed_append, List.append_assoc, List.append_assoc, List.append_assoc,
          List.takeWhile_append_dropWhile]
      · exact List.append_ne_nil_of_left_ne_nil some _
      · intro char among
        rcases List.mem_append.mp among with early | late
        · exact decimal char early
        · exact List.mem_takeWhile_imp late
      · intro char among
        have stops := List.head?_dropWhile_not decimals.isDecimal rest
        rw [Option.mem_def.mp among] at stops
        simpa using stops
    have same := (groupAt_of_field field).symm.trans found
    rw [← Option.some.inj same]
    exact field
  · exact groupAt_of_field

theorem not_isDecimal_M : decimals.isDecimal 'M' = false := isDecimal_of_ascii (by decide)

theorem delimited : Delimited { accepts := (· = 'M') }
    (literal "easuredValue:".toList ++ [white, minus, digit decimals]) where
  single := rfl
  only text group described := by
    rcases describes_literal described with ⟨behind, rfl, numeral⟩
    rcases describes_numeral numeral with ⟨spaces, negative, digits, rfl, rfl, spacious, -,
      decimal⟩
    have name : 'M' ∉ "easuredValue:".toList := by decide
    have space : 'M' ∉ spaces := fun among => absurd (spacious _ among) (by decide)
    have digit : 'M' ∉ digits := by
      intro among
      have isDecimal := decimal _ among
      rw [not_isDecimal_M] at isDecimal
      cases isDecimal
    have sign : 'M' ∉ signed negative digits := by
      cases negative with
      | false => exact digit
      | true => simpa [signed] using digit
    intro char among
    apply decide_eq_false
    rintro rfl
    simp only [List.mem_append] at among
    rcases among with among | among | among
    · exact name among
    · exact space among
    · exact sign among

theorem getLast?_findall_measuredRe :
    (findall (measuredRe decimals) output).getLast? = some number ↔
      LastField decimals number output := by
  have split : measuredRe decimals = { accepts := (· = 'M') } ::
      (literal "easuredValue:".toList ++ [white, minus, digit decimals]) := rfl
  rw [split, delimited.getLast?_findall, ← split]
  simp only [groupAt_eq_some_iff, Option.eq_none_iff_forall_ne_some, ne_eq, LastField]

end Fields

/-! ## Numerals -/

section Numerals

variable {decimals} {digits : Text}

def magnitude (decimals : Decimals) (digits : Text) : Nat :=
  (digits.map fun char => (decimals.value char).getD 0).foldl
    (fun total digit => 10 * total + digit) 0

theorem mapM_value (decimal : ∀ char ∈ digits, decimals.isDecimal char = true) :
    digits.mapM decimals.value = some (digits.map fun char => (decimals.value char).getD 0) := by
  induction digits with
  | nil => rfl
  | cons char digits induction =>
      rcases Option.isSome_iff_exists.mp (decimal char List.mem_cons_self) with ⟨digit, known⟩
      have rest := induction fun other among => decimal other (List.mem_cons_of_mem _ among)
      rw [List.mapM_cons, rest, known]
      simp [known]

theorem head?_ne_minus (decimal : ∀ char ∈ digits, decimals.isDecimal char = true) :
    digits.head? ≠ some '-' := by
  intro minus
  have isDecimal := decimal _ (List.mem_of_mem_head? minus)
  rw [isDecimal_of_ascii (by decide)] at isDecimal
  exact absurd isDecimal (by decide)

theorem int_signed (negative : Bool)
    (decimal : ∀ char ∈ digits, decimals.isDecimal char = true) :
    decimals.int (signed negative digits) =
      if digits.length > Decimals.maxStrDigits then .error .valueError
      else .ok (if negative then -(magnitude decimals digits : Int)
        else magnitude decimals digits) := by
  have noMinus := head?_ne_minus decimal
  have unsigned : Decimals.digits (signed negative digits) = digits := by
    cases negative with
    | true => rfl
    | false =>
        simp only [signed, Bool.false_eq_true, if_false, Decimals.digits]
        split
        · exact absurd rfl noMinus
        · rfl
  have sign : (signed negative digits).head? = some '-' ↔ negative = true := by
    cases negative with
    | true => simp [signed]
    | false => simpa [signed] using noMinus
  simp only [Decimals.int, unsigned, mapM_value decimal, sign, magnitude]

theorem value_of_isDigit {char : Char} (isDigit : char.isDigit = true) :
    decimals.value char = some (char.toNat - '0'.toNat) := by
  have ascii : char.toNat < 128 := by
    have bounds := Char.isDigit_iff_toNat.mp isDigit
    exact bounds.2.trans_lt (by decide)
  rw [decimals.ascii char ascii, if_pos isDigit]

theorem magnitude_toDigits (value : Nat) :
    magnitude decimals (Nat.toDigits 10 value) = value := by
  have isDigit (char : Char) (among : char ∈ Nat.toDigits 10 value) : char.isDigit = true :=
    Nat.isDigit_of_mem_toDigits (by decide) (by decide) among
  have values : (Nat.toDigits 10 value).map (fun char => (decimals.value char).getD 0) =
      (Nat.toDigits 10 value).map (fun char => char.toNat - '0'.toNat) := by
    apply List.map_congr_left
    intro char among
    rw [value_of_isDigit (isDigit char among)]
    rfl
  rw [magnitude, values, List.foldl_map]
  exact Nat.ofDigitChars_ten_toDigits

/-- What `str` prints, `int` reads, unless it is too long. -/
theorem int_formatInt (value : Int) :
    decimals.int (formatInt value).toList =
      if (Nat.toDigits 10 value.natAbs).length > Decimals.maxStrDigits then .error .valueError
      else .ok value := by
  have isDigit (char : Char) (among : char ∈ Nat.toDigits 10 value.natAbs) :
      decimals.isDecimal char = true := by
    rw [Decimals.isDecimal, value_of_isDigit
      (Nat.isDigit_of_mem_toDigits (by decide) (by decide) among)]
    rfl
  have signed : (if decide (value < 0) = true then -(value.natAbs : Int) else value.natAbs) =
      value := by
    split
    · have negative := of_decide_eq_true ‹_›
      omega
    · have nonneg := of_decide_eq_false (Bool.eq_false_of_not_eq_true ‹_›)
      omega
  rw [formatInt, String.toList_ofList, int_signed _ isDigit, magnitude_toDigits, signed]

end Numerals

/-! ## Reads -/

def readEnds (cluster : String) (node endpoint : Int) : Process :=
  subprocess [self.chipTool, cluster, "read", "measured-value", formatInt node,
    formatInt endpoint, "--storage-directory", self.storageDir]

variable {self decimals subprocess} {cluster : String} {node endpoint value : Int}
  {output : Text}

theorem lastValue_eq_ok_iff :
    lastValue decimals node endpoint output = .ok value ↔
      ∃ number, LastField decimals number output ∧ decimals.int number = .ok value := by
  simp only [← getLast?_findall_measuredRe]
  unfold lastValue
  cases (findall (measuredRe decimals) output).getLast? <;> simp

theorem int_eq_error {number : Text} {failure : Failure}
    (raised : decimals.int number = .error failure) : failure = .valueError := by
  unfold Decimals.int at raised
  dsimp only at raised
  split at raised
  · cases raised
    rfl
  · split at raised
    · cases raised
    · cases raised
      rfl

theorem lastValue_caught_iff :
    (∃ failure, lastValue decimals node endpoint output = .error failure ∧
        failure.exn.isCommandFailure = true) ↔
      ∀ number, ¬LastField decimals number output := by
  simp only [← getLast?_findall_measuredRe]
  unfold lastValue
  cases (findall (measuredRe decimals) output).getLast? with
  | none => exact ⟨fun _ number => by simp, fun _ => ⟨_, rfl, rfl⟩⟩
  | some number =>
      constructor
      · rintro ⟨failure, raised, caught⟩
        rw [int_eq_error raised] at caught
        cases caught
      · exact fun absent => absurd rfl (absent number)

variable (decimals) in
theorem read_of_completed {returncode : Int} {stdout stderr : Text}
    (ended : self.readEnds subprocess cluster node endpoint =
      .completed returncode stdout stderr) :
    returncode = 0 ∧ self.read decimals subprocess cluster node endpoint =
        lastValue decimals node endpoint stdout ∨
      returncode ≠ 0 ∧ ∃ message, self.read decimals subprocess cluster node endpoint =
        .error (.runtimeError message) := by
  change subprocess (self.chipTool ::
    [cluster, "read", "measured-value", formatInt node, formatInt endpoint] ++
      ["--storage-directory", self.storageDir]) = _ at ended
  unfold read run
  rw [ended]
  by_cases success : returncode = 0
  · left
    refine ⟨success, ?_⟩
    rw [success]
    rfl
  · right
    refine ⟨success, failureMessage
      [cluster, "read", "measured-value", formatInt node, formatInt endpoint] returncode
      stderr, ?_⟩
    dsimp only
    rw [if_pos success]
    rfl

variable (decimals) in
theorem read_of_not_completed
    (ended : ∀ returncode stdout stderr, self.readEnds subprocess cluster node endpoint ≠
      .completed returncode stdout stderr) :
    ∃ failure, self.read decimals subprocess cluster node endpoint = .error failure ∧
      (failure.exn.isCommandFailure = true ↔
        self.readEnds subprocess cluster node endpoint = .timeoutExpired) := by
  have passed : subprocess (self.chipTool ::
      [cluster, "read", "measured-value", formatInt node, formatInt endpoint] ++
        ["--storage-directory", self.storageDir]) =
      self.readEnds subprocess cluster node endpoint := rfl
  unfold read run
  rw [passed]
  cases outcome : self.readEnds subprocess cluster node endpoint with
  | completed returncode stdout stderr => exact absurd outcome (ended _ _ _)
  | timeoutExpired => exact ⟨_, rfl, by simp [Failure.exn, Exn.isCommandFailure]⟩
  | osError => exact ⟨_, rfl, by simp [Failure.exn, Exn.isCommandFailure]⟩
  | unicodeDecodeError => exact ⟨_, rfl, by simp [Failure.exn, Exn.isCommandFailure]⟩

theorem read_eq_ok_iff :
    self.read decimals subprocess cluster node endpoint = .ok value ↔
      ∃ stdout stderr number,
        self.readEnds subprocess cluster node endpoint = .completed 0 stdout stderr ∧
        LastField decimals number stdout ∧ decimals.int number = .ok value := by
  constructor
  · intro returned
    by_cases completed : ∃ returncode stdout stderr,
        self.readEnds subprocess cluster node endpoint = .completed returncode stdout stderr
    · rcases completed with ⟨returncode, stdout, stderr, ended⟩
      rcases read_of_completed decimals ended with
        ⟨rfl, same⟩ | ⟨-, message, raised⟩
      · rw [same, lastValue_eq_ok_iff] at returned
        rcases returned with ⟨number, last, converted⟩
        exact ⟨stdout, stderr, number, ended, last, converted⟩
      · rw [raised] at returned
        cases returned
    · simp only [not_exists] at completed
      rcases read_of_not_completed decimals completed with ⟨failure, raised, -⟩
      rw [raised] at returned
      cases returned
  · rintro ⟨stdout, stderr, number, ended, last, converted⟩
    rcases read_of_completed decimals ended with ⟨-, same⟩ | ⟨failed, -⟩
    · rw [same, lastValue_eq_ok_iff]
      exact ⟨number, last, converted⟩
    · exact absurd rfl failed

theorem read_caught_iff :
    (∃ failure, self.read decimals subprocess cluster node endpoint = .error failure ∧
        failure.exn.isCommandFailure = true) ↔
      self.readEnds subprocess cluster node endpoint = .timeoutExpired ∨
      ∃ returncode stdout stderr,
        self.readEnds subprocess cluster node endpoint =
          .completed returncode stdout stderr ∧
        (returncode ≠ 0 ∨ ∀ number, ¬LastField decimals number stdout) := by
  by_cases completed : ∃ returncode stdout stderr,
      self.readEnds subprocess cluster node endpoint = .completed returncode stdout stderr
  · rcases completed with ⟨returncode, stdout, stderr, ended⟩
    rcases read_of_completed decimals ended with
      ⟨rfl, same⟩ | ⟨failed, message, raised⟩
    · simp [same, ended, lastValue_caught_iff]
    · simp [raised, ended, failed, Failure.exn, Exn.isCommandFailure]
  · simp only [not_exists] at completed
    rcases read_of_not_completed decimals completed with ⟨failure, raised, caught⟩
    simp [raised, completed, caught]

variable (self decimals subprocess cluster node endpoint) in
/-- A read returns the last value of the attribute that a successful run of the program has
printed, and nothing else. The control loop catches what it raises exactly if the program has
taken too long, has failed, or has printed no value. -/
theorem read_returns_last_value :
    (∀ value, self.read decimals subprocess cluster node endpoint = .ok value ↔
      ∃ stdout stderr number,
        self.readEnds subprocess cluster node endpoint = .completed 0 stdout stderr ∧
        LastField decimals number stdout ∧ decimals.int number = .ok value) ∧
    ((∃ failure, self.read decimals subprocess cluster node endpoint = .error failure ∧
        failure.exn.isCommandFailure = true) ↔
      self.readEnds subprocess cluster node endpoint = .timeoutExpired ∨
      ∃ returncode stdout stderr,
        self.readEnds subprocess cluster node endpoint =
          .completed returncode stdout stderr ∧
        (returncode ≠ 0 ∨ ∀ number, ¬LastField decimals number stdout)) :=
  ⟨fun _ => read_eq_ok_iff, read_caught_iff⟩

end ChipTool

end BuranBrew.Host

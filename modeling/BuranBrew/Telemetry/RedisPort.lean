import Mathlib.Data.List.DropRight
import Mathlib.Logic.Function.Basic

/-! # The Redis port

The model and the telemetry scripts each have a parser of `host.env`: the model's lets
the last assignment win over the inherited environment, the scripts' lets the inherited
environment win over the first assignment.
-/

namespace BuranBrew.Telemetry

abbrev Text := List Char

def apostrophe : Char := Char.ofNat 39

def quotationMark : Char := Char.ofNat 34

def newline : Char := Char.ofNat 10

def nul : Char := Char.ofNat 0

/-- What is left of a text without the members of a class at its ends. -/
def strip (among : Char → Bool) (text : Text) : Text :=
  (text.dropWhile among).rdropWhile among

/-- The text before the first occurrence of a separator, or all of it. -/
def before (separator : Char) (text : Text) : Text :=
  text.takeWhile (· ≠ separator)

def after (separator : Char) (text : Text) : Text :=
  (text.dropWhile (· ≠ separator)).tail

def redisPortKey : Text := "REDIS_PORT".toList

/-! ## `_load_host_env_defaults` -/

def isPySpace (char : Char) : Bool :=
  let code := char.toNat
  (9 ≤ code && code ≤ 13) || (28 ≤ code && code ≤ 32) || code == 0x85 || code == 0xA0 ||
    code == 0x1680 || (0x2000 ≤ code && code ≤ 0x200A) || code == 0x2028 ||
    code == 0x2029 || code == 0x202F || code == 0x205F || code == 0x3000

/-- Python's `str.splitlines` ends a line at these. -/
def isPyLineBoundary (char : Char) : Bool :=
  let code := char.toNat
  (10 ≤ code && code ≤ 13) || (28 ≤ code && code ≤ 30) || code == 0x85 ||
    code == 0x2028 || code == 0x2029

/-- `read_text().splitlines()`, but for an empty line after each CR LF and at the end, which
the loop skips. -/
def pyLines (text : Text) : List Text :=
  text.splitOnP isPyLineBoundary

def isQuote (char : Char) : Bool :=
  char == apostrophe || char == quotationMark

/-- The value that the loop over the lines stores for a line. -/
def pyAssigned (line : Text) : Option Text :=
  let line := strip isPySpace line
  if line = [] ∨ line.head? = some '#' ∨ '=' ∉ line then none
  else
    let key := strip isPySpace (before '=' line)
    if key ≠ redisPortKey then none
    else
      let value := strip isQuote (strip isPySpace (before '#' (after '=' line)))
      if value = [] then none else some value

/-- `values["REDIS_PORT"]` after the loop. -/
def loadValues : List Text → Option Text → Option Text
  | [], value => value
  | line :: lines, value =>
      match pyAssigned line with
      | some assigned => loadValues lines (some assigned)
      | none => loadValues lines value

inductive PyError
  | runtimeError (message : String)
  | valueError (message : String)
  deriving DecidableEq, Repr

/-- `REDIS_PORT` in `os.environ` after `_load_host_env_defaults`, for a `host.env` that
exists. Whatever was inherited is replaced. -/
def loadHostEnvDefaults (path : String) (text : Text) : Except PyError Text :=
  match loadValues (pyLines text) none with
  | none => .error (.runtimeError (path ++ ": missing required setting(s): REDIS_PORT"))
  | some value => if nul ∈ value then .error (.valueError "embedded null byte") else .ok value

/-! ## `env.sh` -/

inductive PortKey
  | redis
  | postgres
  | grafana
  deriving DecidableEq, Repr

def PortKey.ofText (text : Text) : Option PortKey :=
  if text = redisPortKey then some .redis
  else if text = "POSTGRES_PORT".toList then some .postgres
  else if text = "GRAFANA_PORT".toList then some .grafana
  else none

/-- Exported variables; `none` is unset. -/
abbrev Environ := PortKey → Option Text

/-- `[:space:]` in the POSIX locale. -/
def isPosixSpace (char : Char) : Bool :=
  let code := char.toNat
  (9 ≤ code && code ≤ 13) || code == 32

/-- What `read -r` returns in turn; it drops NUL. -/
def shellLines (text : Text) : List Text :=
  (text.filter (· ≠ nul)).splitOn newline

def unquoteValue (value : Text) : Text :=
  let enclosed (quote : Char) : Prop :=
    2 ≤ value.length ∧ value.head? = some quote ∧ value.getLast? = some quote
  if enclosed quotationMark ∨ enclosed apostrophe then value.tail.dropLast else value

def IsDecimal (value : Text) : Prop :=
  value ≠ [] ∧ ∀ char ∈ value, char.isDigit = true

-- Along the text: there are too many characters to try them all.
instance : DecidablePred IsDecimal :=
  fun value => @instDecidableAnd _ _ inferInstance (List.decidableBAll _ value)

section Shell

-- `[:space:]`, which depends on the locale.
variable (isSpace : Char → Bool)

/-- The port that the loop of `_load_telemetry_ports` finds in a line. -/
def shellAssigned (line : Text) : Option (PortKey × Text) :=
  let line := strip isSpace line
  if line = [] ∨ line.head? = some '#' ∨ '=' ∉ line then none
  else
    match PortKey.ofText (strip isSpace (before '=' line)) with
    | none => none
    | some key =>
        let value := unquoteValue (strip isSpace (before '#' (after '=' line)))
        if IsDecimal value then some (key, value) else none

def loadTelemetryPorts : List Text → Environ → Environ
  | [], environ => environ
  | line :: lines, environ =>
      match shellAssigned isSpace line with
      | none => loadTelemetryPorts lines environ
      | some (key, value) =>
          if environ key = none then
            loadTelemetryPorts lines (Function.update environ key (some value))
          else loadTelemetryPorts lines environ

def PortKey.fallback : PortKey → Text
  | .redis => "6379".toList
  | .postgres => "5433".toList
  | .grafana => "3000".toList

def exportedPorts (text : Text) (inherited : Environ) (key : PortKey) : Text :=
  match loadTelemetryPorts isSpace (shellLines text) inherited key with
  | none | some [] => key.fallback
  | some value => value

end Shell

/-! ## Which line counts -/

section Lines

variable {parse : Text → Option Text} {lines : List Text} {value other : Text}

def FirstAssigns (parse : Text → Option Text) (lines : List Text) (value : Text) : Prop :=
  ∃ earlier line later, lines = earlier ++ line :: later ∧ parse line = some value ∧
    ∀ other ∈ earlier, parse other = none

def LastAssigns (parse : Text → Option Text) (lines : List Text) (value : Text) : Prop :=
  ∃ earlier line later, lines = earlier ++ line :: later ∧ parse line = some value ∧
    ∀ other ∈ later, parse other = none

theorem firstAssigns_iff : FirstAssigns parse lines value ↔
    lines.findSome? parse = some value := by
  rw [List.findSome?_eq_some_iff]
  rfl

theorem lastAssigns_iff : LastAssigns parse lines value ↔
    lines.reverse.findSome? parse = some value := by
  rw [List.findSome?_eq_some_iff]
  constructor
  · intro first
    rcases first with ⟨earlier, line, later, rfl, assigns, silent⟩
    refine ⟨later.reverse, line, earlier.reverse, by simp, assigns, ?_⟩
    simpa using silent
  · intro found
    rcases found with ⟨later, line, earlier, split, assigns, silent⟩
    refine ⟨earlier.reverse, line, later.reverse, ?_, assigns, by simpa using silent⟩
    simpa using congrArg List.reverse split

theorem loadValues_eq (lines : List Text) (value : Option Text) :
    loadValues lines value = (lines.reverse.findSome? pyAssigned).or value := by
  induction lines generalizing value with
  | nil => rfl
  | cons line lines induction =>
      rw [List.reverse_cons, List.findSome?_append, loadValues]
      cases assigned : pyAssigned line with
      | none => simp [induction, assigned]
      | some port => simp [induction, assigned]

/-- The model ends up with what the last line assigns that assigns something. -/
theorem lastAssigns_iff_of_loaded {path : String} {text port : Text}
    (loaded : loadHostEnvDefaults path text = .ok port) :
    LastAssigns pyAssigned (pyLines text) value ↔ port = value := by
  unfold loadHostEnvDefaults at loaded
  rw [loadValues_eq, Option.or_none] at loaded
  rw [lastAssigns_iff]
  split at loaded
  · cases loaded
  · rename_i last found
    split at loaded
    · cases loaded
    · cases loaded
      rw [found, Option.some.injEq]

end Lines

section Agreement

variable (isSpace : Char → Bool)

def shellRedis (line : Text) : Option Text :=
  match shellAssigned isSpace line with
  | some (.redis, value) => some value
  | _ => none

/-- The inherited environment wins over the file, and the first line over the others. -/
theorem loadTelemetryPorts_redis (lines : List Text) (environ : Environ) :
    loadTelemetryPorts isSpace lines environ .redis =
      (environ .redis).or (lines.findSome? (shellRedis isSpace)) := by
  induction lines generalizing environ with
  | nil => simp [loadTelemetryPorts]
  | cons line lines induction =>
      rw [loadTelemetryPorts, List.findSome?_cons]
      cases assigned : shellAssigned isSpace line with
      | none => simp [shellRedis, assigned, induction]
      | some assignment =>
          rcases assignment with ⟨key, value⟩
          have other (different : key ≠ .redis) : shellRedis isSpace line = none := by
            unfold shellRedis
            rw [assigned]
            cases key with
            | redis => exact absurd rfl different
            | postgres => rfl
            | grafana => rfl
          by_cases redis : key = .redis
          · subst redis
            cases unset : environ .redis with
            | none => simp [shellRedis, assigned, induction, unset]
            | some inherited => simp [induction, unset]
          · dsimp only
            split
            · simp [induction, other redis, Function.update_of_ne (Ne.symm redis)]
            · simp [induction, other redis]

theorem isDecimal_of_shellRedis {line value : Text}
    (assigned : shellRedis isSpace line = some value) : IsDecimal value := by
  unfold shellRedis at assigned
  split at assigned
  · rename_i port parsed
    cases assigned
    simp only [shellAssigned] at parsed
    split at parsed
    · cases parsed
    · split at parsed
      · cases parsed
      · split at parsed
        · rename_i decimal
          cases parsed
          exact decimal
        · cases parsed
  · cases assigned

/-- `REDIS_PORT` as `env.sh` exports it when it has inherited a port or none. -/
theorem exportedPorts_redis {text : Text} {inherited : Environ}
    (decimal : ∀ port ∈ inherited .redis, IsDecimal port) :
    exportedPorts isSpace text inherited .redis =
      ((inherited .redis).or
        ((shellLines text).findSome? (shellRedis isSpace))).getD "6379".toList := by
  unfold exportedPorts
  rw [loadTelemetryPorts_redis]
  have ported {port : Text} (decimal : IsDecimal port) (fallback : Text) :
      (match some port with | none | some [] => fallback | some value => value) = port := by
    cases port with
    | nil => exact absurd rfl decimal.1
    | cons => rfl
  cases set : inherited .redis with
  | some port => exact ported (decimal port set) _
  | none =>
      cases found : (shellLines text).findSome? (shellRedis isSpace) with
      | none => rfl
      | some port =>
          rcases List.exists_of_findSome?_eq_some found with ⟨line, _, assigned⟩
          exact ported (isDecimal_of_shellRedis isSpace assigned) _

/-- The condition under which the two parsers of `host.env` come to the same port. With an
inherited port, the last line that assigns something for the model assigns that port.
Without one, it assigns the decimal of the first line that has one for `env.sh`, or 6379 if
there is no such line. -/
def PortsAgree (text : Text) : Option Text → Prop
  | some port => LastAssigns pyAssigned (pyLines text) port
  | none => (∃ port, FirstAssigns (shellRedis isSpace) (shellLines text) port ∧
        LastAssigns pyAssigned (pyLines text) port) ∨
      (∀ line ∈ shellLines text, shellRedis isSpace line = none) ∧
        LastAssigns pyAssigned (pyLines text) "6379".toList

theorem redis_ports_agree_iff {path : String} {text port : Text} {inherited : Environ}
    (decimal : ∀ port ∈ inherited .redis, IsDecimal port)
    (loaded : loadHostEnvDefaults path text = .ok port) :
    port = exportedPorts isSpace text inherited .redis ↔
      PortsAgree isSpace text (inherited .redis) := by
  rw [exportedPorts_redis isSpace decimal]
  unfold PortsAgree
  simp only [lastAssigns_iff_of_loaded loaded, firstAssigns_iff]
  cases inherited .redis with
  | some inherited => simp
  | none =>
      cases found : (shellLines text).findSome? (shellRedis isSpace) with
      | some first =>
          have assigns : ¬∀ line ∈ shellLines text, shellRedis isSpace line = none := by
            rw [← List.findSome?_eq_none_iff, found]
            exact nofun
          constructor
          · exact fun same => .inl ⟨first, rfl, same⟩
          · intro agree
            rcases agree with ⟨_, ⟨⟩, same⟩ | ⟨silent, _⟩
            · exact same
            · exact absurd silent assigns
      | none =>
          have silent := List.findSome?_eq_none_iff.mp found
          simpa using fun _ => silent

end Agreement

def quotedPort : Text :=
  "# ports\nREDIS_PORT = '6380'  # not the default\nGRAFANA_PORT=3000\n".toList

theorem redis_ports_agree_quoted :
    loadHostEnvDefaults "host.env" quotedPort = .ok "6380".toList ∧
      "6380".toList = exportedPorts isPosixSpace quotedPort (fun _ => none) .redis := by
  have loaded : loadHostEnvDefaults "host.env" quotedPort = .ok "6380".toList := by
    decide +kernel
  have agree : PortsAgree isPosixSpace quotedPort none := by
    left
    refine ⟨"6380".toList, firstAssigns_iff.mpr ?_, lastAssigns_iff.mpr ?_⟩
    · decide +kernel
    · decide +kernel
  exact ⟨loaded, (redis_ports_agree_iff isPosixSpace (by simp) loaded).mpr agree⟩

/-- The scripts keep an inherited port, which the model overrides. -/
theorem inherited_port_disagrees :
    loadHostEnvDefaults "host.env" "REDIS_PORT=6379\n".toList = .ok "6379".toList ∧
      exportedPorts isPosixSpace "REDIS_PORT=6379\n".toList
        (fun key => if key = .redis then some "6380".toList else none) .redis =
          "6380".toList := by
  decide +kernel

end BuranBrew.Telemetry

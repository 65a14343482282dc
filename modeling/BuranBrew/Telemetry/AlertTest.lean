import BuranBrew.Telemetry.Alerts

/-! # What `alert-test` validates

The freshness predicates of the script are the conditions of the rules. The temperature
and the gravity predicates are so but for `NaN`, and the predicate for an ineffective
controller is so unless what it takes for the run of `HEAT` and `COOL` is not the run
since the last `IDLE`.
-/

namespace BuranBrew.Telemetry

open Queries Time

namespace Float64

variable {value other : Float64} {limit : ℚ}

theorem lt_finite : value < .finite limit ↔ value.FallsBelow limit := by
  rcases value with value | ⟨_ | _⟩ | _ <;>
    simp [lt_iff_rank, rank, FallsBelow, Prod.Lex.toLex_lt_toLex]

theorem gt_finite : value > .finite limit ↔ value.Exceeds limit ∨ value = .nan := by
  rcases value with value | ⟨_ | _⟩ | _ <;>
    simp [gt_iff_lt, lt_iff_rank, rank, Exceeds, Prod.Lex.toLex_lt_toLex]

def Incomparable (value other : Float64) : Prop :=
  value = .nan ∨ other = .nan ∨ ∃ sign, value = .infinite sign ∧ other = .infinite sign

theorem absSub_eq_nan : absSub value other = .nan ↔ Incomparable value other := by
  rcases value with value | ⟨_ | _⟩ | _ <;> rcases other with other | ⟨_ | _⟩ | _ <;>
    simp [absSub, Incomparable]

end Float64

section Freshness

variable {now : Time} (contents : Contents now)

/-- Three minutes are 180 seconds, and a table without rows is stale in both units. -/
theorem ageS_gt_iff (ts : Option Time) :
    AlertTest.ageS now ts > 180 ↔ (Float64.finite (AlertRules.ageMin now ts)).Exceeds 3 := by
  rcases ts with _ | ts
  · norm_num [AlertTest.ageS, AlertRules.ageMin, Float64.Exceeds]
  · have unit : epochSince now ts > 180 ↔ epochSince now ts / 60 > 3 := by
      constructor <;> intro older <;> linarith
    exact unit

theorem Contents.distinct_filter (among : Row .sensor → Bool) :
    (((contents.tables .sensor).filter among).map Row.ts).Nodup :=
  (contents.distinct .sensor).sublist (List.filter_sublist.map _)

theorem find?_latestSensor {metric : String}
    (known : metric ∈ ["ambient", "internal", "gravity"]) :
    (AlertTest.latestSensor contents.tables).find? (fun row => row.metric = metric) =
      latest Row.ts (ofMetric contents.tables metric) := by
  rw [AlertTest.latestSensor, find?_distinctOn,
    find?_orderByDesc (contents.distinct_filter _), List.filter_filter, ofMetric]
  congr 2
  funext row
  by_cases same : row.metric = metric
  · simpa [same] using known
  · simp [same]

theorem sensorStale_iff {metric : String}
    (known : metric ∈ ["ambient", "internal", "gravity"]) :
    AlertTest.sensorStale now contents.tables metric ↔
      (Float64.finite (AlertRules.sensorAgeMin now contents.tables metric)).Exceeds 3 := by
  rw [AlertTest.sensorStale, AlertTest.latestTs, find?_latestSensor contents known]
  exact ageS_gt_iff _

end Freshness

section Temperature

variable {now : Time} (contents : Contents now)

theorem mem_latestSensor {metric : String}
    (known : metric ∈ ["ambient", "internal", "gravity"]) (row : Row .sensor) :
    row ∈ AlertTest.latestSensor contents.tables ∧ row.metric = metric ↔
      latest Row.ts (ofMetric contents.tables metric) = some row := by
  rw [← find?_latestSensor contents known]
  constructor
  · intro chosen
    rcases chosen with ⟨mem, rfl⟩
    rw [AlertTest.latestSensor, find?_distinctOn]
    exact mem_distinctOn.mp mem
  · intro found
    have same : row.metric = metric := by simpa using List.find?_some found
    exact ⟨List.mem_of_find?_eq_some found, same⟩

theorem dangerTemp_iff :
    AlertTest.dangerTemp now contents.tables ↔
      ∃ row ∈ latest Row.ts (ofMetric contents.tables "internal"), row.ts > now - minutes 3 ∧
        (row.value.FallsBelow 5 ∨ row.value.Exceeds 30 ∨ row.value = .nan) := by
  unfold AlertTest.dangerTemp
  apply exists_congr
  intro row
  rw [← and_assoc, mem_latestSensor contents (by simp), Float64.lt_finite, Float64.gt_finite]
  rfl

theorem temperature_fires_iff (tables : Tables) :
    AlertRules.fires now tables .dangerTemp ↔
      ∃ row ∈ latest Row.ts (ofMetric tables "internal"), row.ts > now - minutes 3 ∧
        (row.value.FallsBelow 5 ∨ row.value.Exceeds 30) := by
  have moderate : ¬((Float64.finite 20).FallsBelow 5 ∨ (Float64.finite 20).Exceeds 30) := by
    norm_num [Float64.FallsBelow, Float64.Exceeds]
  unfold AlertRules.fires AlertRules.temperatureC
  rcases latest Row.ts (ofMetric tables "internal") with _ | row
  · simpa using moderate
  · by_cases fresh : row.ts > now - minutes 3
    · simp [fresh]
    · simpa [fresh] using moderate

/-- The script and the rule differ on a reading that is not a number. -/
theorem dangerTemp_agrees_iff :
    (AlertTest.dangerTemp now contents.tables ↔
        AlertRules.fires now contents.tables .dangerTemp) ↔
      ∀ row ∈ latest Row.ts (ofMetric contents.tables "internal"),
        row.ts > now - minutes 3 → row.value ≠ .nan := by
  rw [dangerTemp_iff, temperature_fires_iff]
  constructor
  · intro agree row found fresh undefined
    rcases agree.mp ⟨row, found, fresh, .inr (.inr undefined)⟩ with ⟨other, found', _, limits⟩
    have same : row = other := Option.some.inj (found.symm.trans found')
    rw [← same, undefined] at limits
    exact limits.elim id id
  · intro defined
    constructor
    · intro alert
      rcases alert with ⟨row, found, fresh, low | high | undefined⟩
      · exact ⟨row, found, fresh, .inl low⟩
      · exact ⟨row, found, fresh, .inr high⟩
      · exact absurd undefined (defined row found fresh)
    · intro alert
      rcases alert with ⟨row, found, fresh, low | high⟩
      · exact ⟨row, found, fresh, .inl low⟩
      · exact ⟨row, found, fresh, .inr (.inl high)⟩

end Temperature

section Gravity

variable {now : Time} (tables : Tables)

/-- The two latest readings of the gravity, and the times within which they are compared. -/
def FreshPair (now : Time) (tables : Tables) (current previous : Row .sensor) : Prop :=
  (∃ rest, orderByDesc Row.ts (ofMetric tables "gravity") = current :: previous :: rest) ∧
    current.ts > now - minutes 3 ∧ previous.ts > now - hours 1

theorem gravityPair_of_order {current previous : Row .sensor} {rest : List (Row .sensor)}
    (order : orderByDesc Row.ts (ofMetric tables "gravity") = current :: previous :: rest) :
    gravityPair tables =
      ⟨some current.value, some previous.value, some current.ts, some previous.ts⟩ := by
  simp [gravityPair, lastTwoGravity, order]

theorem freshPair_iff :
    ((∃ ts ∈ (gravityPair tables).currentTs, ts > now - minutes 3) ∧
        ∃ ts ∈ (gravityPair tables).previousTs, ts > now - hours 1) ↔
      ∃ current previous, FreshPair now tables current previous := by
  rcases order : orderByDesc Row.ts (ofMetric tables "gravity") with
    _ | ⟨current, _ | ⟨previous, rest⟩⟩
  · simp [gravityPair, lastTwoGravity, order, FreshPair]
  · simp [gravityPair, lastTwoGravity, order, FreshPair]
  · simp [gravityPair_of_order tables order, FreshPair, order]

theorem FreshPair.jump {tables : Tables} {current previous : Row .sensor}
    (fresh : FreshPair now tables current previous) :
    (gravityPair tables).jump = some (current.value.absSub previous.value) := by
  rcases fresh.1 with ⟨rest, order⟩
  rw [gravityPair_of_order tables order]
  rfl

theorem FreshPair.sgJump_iff {tables : Tables} {current previous : Row .sensor}
    (fresh : FreshPair now tables current previous) :
    AlertTest.sgJump now tables ↔
      current.value.absSub previous.value > .finite (5 / 1000) := by
  have within := (freshPair_iff tables).mpr ⟨current, previous, fresh⟩
  constructor
  · intro alert
    rcases alert with ⟨_, _, jump, found, high⟩
    rw [fresh.jump] at found
    cases found
    exact high
  · intro high
    exact ⟨within.1, within.2, _, fresh.jump, high⟩

theorem FreshPair.jump_fires_iff {tables : Tables} {current previous : Row .sensor}
    (fresh : FreshPair now tables current previous) :
    AlertRules.fires now tables .sgJump ↔
      (current.value.absSub previous.value).Exceeds (5 / 1000) := by
  have within := (freshPair_iff tables).mpr ⟨current, previous, fresh⟩
  rw [AlertRules.fires, AlertRules.jumpSg, if_pos within, fresh.jump]
  simp

/-- The script and the rule differ on a pair whose difference is not a number. -/
theorem sgJump_agrees_iff :
    (AlertTest.sgJump now tables ↔ AlertRules.fires now tables .sgJump) ↔
      ∀ current previous, FreshPair now tables current previous →
        ¬current.value.Incomparable previous.value := by
  by_cases within : ∃ current previous, FreshPair now tables current previous
  · rcases within with ⟨current, previous, fresh⟩
    rw [fresh.sgJump_iff, fresh.jump_fires_iff, Float64.gt_finite]
    constructor
    · intro agree current' previous' fresh' undefined
      rcases fresh.1 with ⟨rest, order⟩
      rcases fresh'.1 with ⟨rest', order'⟩
      rw [order] at order'
      cases order'
      rw [← Float64.absSub_eq_nan] at undefined
      rw [undefined] at agree
      exact agree.mp (.inr rfl)
    · intro defined
      have number := defined current previous fresh
      rw [← Float64.absSub_eq_nan] at number
      simp [number]
  · constructor
    · intro _ current previous fresh
      exact absurd ⟨current, previous, fresh⟩ within
    · intro _
      rw [← freshPair_iff] at within
      have none : ¬(Float64.finite 0).Exceeds (5 / 1000) := by
        norm_num [Float64.Exceeds]
      constructor
      · intro alert
        exact absurd ⟨alert.1, alert.2.1⟩ within
      · intro alert
        rw [AlertRules.fires, AlertRules.jumpSg, if_neg within] at alert
        simp [none] at alert

end Gravity

section Control

variable (now : Time) (tables : Tables)

/-- The controller acts, and its last `IDLE` is at least two hours old. -/
def Acting : Prop :=
  (∃ current ∈ latestControl tables, isActive current ∧ current.ts > now - minutes 3) ∧
    ∀ row ∈ tables .control, row.action = "IDLE" → row.ts ≤ now - hours 2

def Ended (row : Row .control) : Prop :=
  ∃ idle ∈ tables .control, idle.action = "IDLE" ∧ row.ts < idle.ts

/-- The controller acted between three and two hours ago. -/
def ActedBefore : Prop :=
  ∃ row ∈ tables .control,
    isActive row ∧ row.ts > now - hours 3 ∧ row.ts < now - hours 2

/-- The run that has not ended began more than two hours ago. -/
def RunsLong : Prop :=
  ∃ row ∈ tables .control, isActive row ∧ row.ts < now - hours 2 ∧ ¬Ended tables row

variable {now} {tables}

theorem epochSince_gt_iff {ts : Time} : epochSince now ts > 7200 ↔ ts < now - hours 2 := by
  have scaled : epochSince now ts > 7200 ↔ ((now - ts : Int) : ℚ) > (7200 * 1000000000 : Int) := by
    rw [epochSince, gt_iff_lt, gt_iff_lt, lt_div_iff₀ (by norm_num)]
    norm_num
  rw [scaled, gt_iff_lt, Int.cast_lt, hours_eq]
  constructor <;> intro older <;> linarith

theorem isActive.ne_idle {row : Row .control} (active : isActive row) : row.action ≠ "IDLE" := by
  intro idle
  rw [isActive, idle] at active
  exact absurd active (by decide)

variable (contents : Contents now) {current : Row .control}

theorem Contents.le_latest (found : latestControl contents.tables = some current)
    {row : Row .control} (mem : row ∈ contents.tables .control) : row.ts ≤ current.ts :=
  (isLatest_of_latest found).key_le row mem

/-- The script looks for any action that is between three and two hours old. -/
theorem controllerIneffective_iff :
    AlertTest.controllerIneffective now contents.tables ↔
      Acting now contents.tables ∧ ActedBefore now contents.tables := by
  have since (current : Row .control) (found : latestControl contents.tables = some current)
      (active : isActive current) (fresh : current.ts > now - minutes 3) :
      epochSince now ((AlertTest.activeSince now contents.tables).getD current.ts) > 7200 ↔
        ActedBefore now contents.tables := by
    have mem := (isLatest_of_latest found).mem
    have recent : current.ts > now - hours 3 := by
      rw [minutes_eq] at fresh
      rw [hours_eq]
      linarith
    rw [epochSince_gt_iff, AlertTest.activeSince,
      getD_min?_lt (List.mem_map_of_mem (List.mem_filter.mpr ⟨mem, by simp [active, recent]⟩))]
    simp [ActedBefore, and_assoc]
  constructor
  · intro alert
    rcases alert with ⟨current, found, active, fresh, quiet, long⟩
    constructor
    · constructor
      · exact ⟨current, found, active, fresh⟩
      · intro row mem idle
        by_contra late
        exact quiet ⟨row, mem, idle, not_le.mp late, contents.le_latest found mem⟩
    · exact (since current found active fresh).mp long
  · intro holds
    rcases holds with ⟨⟨⟨current, found, active, fresh⟩, quiet⟩, acted⟩
    apply Exists.intro current
    apply And.intro found
    apply And.intro active
    apply And.intro fresh
    constructor
    · intro idled
      rcases idled with ⟨row, mem, idle, late, _⟩
      exact absurd (quiet row mem idle) (not_le.mpr late)
    · exact (since current found active fresh).mpr acted

/-- All rows count for the run, since none comes after the latest. -/
theorem Contents.idleTs_lt_iff (found : latestControl contents.tables = some current)
    {row : Row .control} (mem : row ∈ contents.tables .control) (active : isActive row) :
    (∀ idle ∈ AlertRules.idleTs contents.tables, row.ts > idle) ↔
      ¬Ended contents.tables row := by
  have earlier : (∀ idle ∈ AlertRules.idleTs contents.tables, row.ts > idle) ↔
      ∀ idle ∈ contents.tables .control, idle.action = "IDLE" → idle.ts < row.ts := by
    rw [AlertRules.idleTs]
    simp only [gt_iff_lt, max?_lt, List.mem_map, List.mem_filter, found, Option.mem_some_iff,
      exists_eq_left', decide_eq_true_eq]
    constructor
    · intro before idle mem action
      exact before idle.ts ⟨idle, ⟨mem, action, contents.le_latest found mem⟩, rfl⟩
    · intro before _ listed
      rcases listed with ⟨idle, ⟨mem, action, _⟩, rfl⟩
      exact before idle mem action
  rw [earlier]
  constructor
  · intro before ended
    rcases ended with ⟨idle, mem, action, after⟩
    exact absurd (before idle mem action) (not_lt.mpr after.le)
  · intro running idle memIdle action
    have notAfter : idle.ts ≤ row.ts :=
      not_lt.mp fun after => running ⟨idle, memIdle, action, after⟩
    apply lt_of_le_of_ne notAfter
    intro same
    have one := List.inj_on_of_nodup_map (contents.distinct .control) memIdle mem same
    exact active.ne_idle (one ▸ action)

/-- The rule looks for the beginning of the run since the last `IDLE`. -/
theorem ineffective_fires_iff :
    AlertRules.fires now contents.tables .controllerIneffective ↔
      Acting now contents.tables ∧ RunsLong now contents.tables := by
  have since (current : Row .control) (found : latestControl contents.tables = some current)
      (active : isActive current) :
      epochSince now ((AlertRules.activeSince contents.tables current).getD current.ts) > 7200 ↔
        RunsLong now contents.tables := by
    have mem := (isLatest_of_latest found).mem
    have running : ∀ idle ∈ AlertRules.idleTs contents.tables, current.ts > idle := by
      rw [contents.idleTs_lt_iff found mem active]
      intro ended
      rcases ended with ⟨idle, mem, _, after⟩
      exact absurd (contents.le_latest found mem) (not_le.mpr after)
    rw [epochSince_gt_iff, AlertRules.activeSince,
      getD_min?_lt (List.mem_map_of_mem
        (List.mem_filter.mpr ⟨mem, decide_eq_true ⟨active, le_rfl, running⟩⟩))]
    constructor
    · intro began
      rcases began with ⟨_, listed, older⟩
      rcases List.mem_map.mp listed with ⟨row, selected, rfl⟩
      rcases List.mem_filter.mp selected with ⟨mem, kind⟩
      rcases of_decide_eq_true kind with ⟨active, _, after⟩
      exact ⟨row, mem, active, older, (contents.idleTs_lt_iff found mem active).mp after⟩
    · intro long
      rcases long with ⟨row, mem, active, older, running⟩
      apply Exists.intro row.ts
      apply And.intro _ older
      apply List.mem_map_of_mem
      rw [List.mem_filter, decide_eq_true_eq]
      exact ⟨mem, active, contents.le_latest found mem,
        (contents.idleTs_lt_iff found mem active).mpr running⟩
  unfold AlertRules.fires AlertRules.activeRunS
  rcases found : latestControl contents.tables with _ | current
  · simp [Float64.Exceeds, Acting, found]
  · by_cases acts : isActive current ∧ current.ts > now - minutes 3
    · dsimp only
      rw [if_pos acts]
      apply (since current found acts.1).trans
      constructor
      · intro long
        apply And.intro _ long
        constructor
        · exact ⟨current, found, acts⟩
        · rcases long with ⟨row, _, _, older, running⟩
          intro idle mem action
          have before : idle.ts ≤ row.ts :=
            not_lt.mp fun after => running ⟨idle, mem, action, after⟩
          exact before.trans older.le
      · exact fun holds => holds.2
    · simp [Float64.Exceeds, Acting, found, acts]

def ActedInEndedRun (now : Time) (tables : Tables) : Prop :=
  ActedBefore now tables ∧
    ∀ row ∈ tables .control, isActive row → row.ts < now - hours 2 → Ended tables row

def SilentDuringRun (now : Time) (tables : Tables) : Prop :=
  (∃ row ∈ tables .control,
      isActive row ∧ row.ts ≤ now - hours 3 ∧ ¬Ended tables row) ∧
    ∀ row ∈ tables .control, row.ts ≤ now - hours 3 ∨ row.ts ≥ now - hours 2

theorem actedInEndedRun_iff {tables : Tables} :
    ActedInEndedRun now tables ↔ ActedBefore now tables ∧ ¬RunsLong now tables := by
  simp only [ActedInEndedRun, RunsLong, not_exists, not_and, not_not]

theorem silentDuringRun_iff :
    SilentDuringRun now contents.tables ↔
      RunsLong now contents.tables ∧ ¬ActedBefore now contents.tables := by
  constructor
  · intro holds
    rcases holds with ⟨⟨row, mem, active, old, running⟩, silent⟩
    constructor
    · have older : row.ts < now - hours 2 := by
        rw [hours_eq] at old ⊢
        linarith
      exact ⟨row, mem, active, older, running⟩
    · intro acted
      rcases acted with ⟨other, mem, _, late, early⟩
      rcases silent other mem with before | after
      · exact absurd late (not_lt.mpr before)
      · exact absurd early (not_lt.mpr after)
  · intro holds
    rcases holds with ⟨⟨row, mem, active, older, running⟩, idle⟩
    have outside (other : Row .control) (mem : other ∈ contents.tables .control)
        (active : isActive other) : other.ts ≤ now - hours 3 ∨ other.ts ≥ now - hours 2 := by
      by_contra within
      rw [not_or, not_le, not_le] at within
      exact idle ⟨other, mem, active, within.1, within.2⟩
    have old : row.ts ≤ now - hours 3 :=
      (outside row mem active).resolve_right (not_le.mpr older)
    constructor
    · exact ⟨row, mem, active, old, running⟩
    · intro other memOther
      by_cases idle : other.action = "IDLE"
      · left
        have notAfter : other.ts ≤ row.ts :=
          not_lt.mp fun after => running ⟨other, memOther, idle, after⟩
        exact notAfter.trans old
      · apply outside other memOther
        have known := contents.actions other memOther
        simp only [List.mem_cons, List.not_mem_nil, or_false] at known
        simpa [isActive, idle] using known

/-- The script looks at what happened between three and two hours ago, the rule at the run
since the last `IDLE`. -/
theorem controllerIneffective_agrees_iff :
    (AlertTest.controllerIneffective now contents.tables ↔
        AlertRules.fires now contents.tables .controllerIneffective) ↔
      ¬(Acting now contents.tables ∧
        (ActedInEndedRun now contents.tables ∨ SilentDuringRun now contents.tables)) := by
  rw [controllerIneffective_iff, ineffective_fires_iff, actedInEndedRun_iff,
    silentDuringRun_iff]
  by_cases acting : Acting now contents.tables <;>
    by_cases acted : ActedBefore now contents.tables <;>
      by_cases long : RunsLong now contents.tables <;> simp [acting, acted, long]

end Control

/-- The readings are numbers, and a controller that acts and has not idled for two hours
did not act in the hour before in an ended run alone, nor was it silent then within the
present run. -/
structure Comparable (now : Time) (tables : Tables) : Prop where
  temperature : ∀ row ∈ latest Row.ts (ofMetric tables "internal"),
    row.ts > now - minutes 3 → row.value ≠ .nan
  gravity : ∀ current previous, FreshPair now tables current previous →
    ¬current.value.Incomparable previous.value
  control : ¬(Acting now tables ∧
    (ActedInEndedRun now tables ∨ SilentDuringRun now tables))

/-- On such contents, and on no others, the script computes the conditions of the
provisioned rules. -/
theorem alert_test_validates_rules_iff {now : Time} (contents : Contents now) :
    (∀ rule, AlertTest.actualAlert now contents.tables rule ↔
        AlertRules.fires now contents.tables rule) ↔
      Comparable now contents.tables := by
  constructor
  · intro agree
    exact
      { temperature := (dangerTemp_agrees_iff contents).mp (agree .dangerTemp)
        gravity := (sgJump_agrees_iff contents.tables).mp (agree .sgJump)
        control := (controllerIneffective_agrees_iff contents).mp
          (agree .controllerIneffective) }
  · intro comparable rule
    cases rule with
    | ambientStale => exact sensorStale_iff contents (by simp)
    | internalStale => exact sensorStale_iff contents (by simp)
    | gravityStale => exact sensorStale_iff contents (by simp)
    | controlStale => exact ageS_gt_iff _
    | dangerTemp => exact (dangerTemp_agrees_iff contents).mpr comparable.temperature
    | sgJump => exact (sgJump_agrees_iff contents.tables).mpr comparable.gravity
    | controllerIneffective =>
        exact (controllerIneffective_agrees_iff contents).mpr comparable.control

def heatedTwice : Contents (hours 3) where
  tables
    | .sensor => []
    | .control =>
        [.control (minutes 30) "HEAT" none [] "1-0",
          .control (minutes 50) "IDLE" none [] "2-0",
          .control (minutes 120) "HEAT" none [] "3-0",
          .control (minutes 179) "HEAT" none [] "4-0"]
  distinct stream := by cases stream <;> decide
  past stream := by cases stream <;> decide
  actions := by decide

theorem heated_twice_fires_in_test_only :
    ¬∀ (now : Time) (contents : Contents now) (rule : Rule),
      AlertTest.actualAlert now contents.tables rule ↔
        AlertRules.fires now contents.tables rule := by
  intro agree
  have alert : AlertTest.actualAlert (hours 3) heatedTwice.tables .controllerIneffective := by
    decide +kernel
  have calm : ¬AlertRules.fires (hours 3) heatedTwice.tables .controllerIneffective := by
    decide +kernel
  exact calm ((agree (hours 3) heatedTwice .controllerIneffective).mp alert)

end BuranBrew.Telemetry

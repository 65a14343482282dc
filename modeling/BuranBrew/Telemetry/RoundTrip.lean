import BuranBrew.Host.Emitter
import BuranBrew.Telemetry.Draining
import BuranBrew.Telemetry.Numerals

/-! # From the emitter to the archive

The emitter writes numbers out in Python and the archiver reads them back in Go. An
integer survives this unchanged and a reading up to its fourth decimal.
-/

namespace BuranBrew.Telemetry

open Delivery Execution Host Numerals

/-! ## Fields -/

namespace Values

theorem lookup_cons (key value other : String) (values : Values) :
    List.lookup other ((key, value) :: values) =
      if other = key then some value else values.lookup other := by
  rw [List.lookup_cons]
  by_cases same : other = key
  · rw [beq_iff_eq.mpr same, if_pos same]
  · rw [beq_false_of_ne same, if_neg same]

theorem lookup_put (key value other : String) (values : Values) :
    (values.put key value).lookup other =
      if other = key then some value else values.lookup other := by
  induction values with
  | nil => exact lookup_cons key value other []
  | cons pair rest induction =>
      rcases pair with ⟨first, current⟩
      unfold put
      split
      · rename_i same
        rw [lookup_cons, lookup_cons, same]
        split
        · rfl
        · rfl
      · split
        · rw [lookup_cons]
        · rename_i different _
          rw [lookup_cons, lookup_cons, induction]
          split
          · rename_i same
            rw [if_neg (same ▸ Ne.symm different)]
          · rfl

/-- The last value of a key counts. -/
theorem lookup_ofFields (fields : Fields) (key : String) :
    (ofFields fields).lookup key = fields.reverse.lookup key := by
  have general (values : Values) :
      (fields.foldl (fun values pair => values.put pair.1 pair.2) values).lookup key =
        (fields.reverse.lookup key).or (values.lookup key) := by
    induction fields generalizing values with
    | nil => rfl
    | cons pair rest induction =>
        rw [List.foldl_cons, induction, lookup_put, List.reverse_cons, List.lookup_append,
          List.lookup_singleton, Option.or_assoc]
        congr 1
        by_cases same : key = pair.1
        · simp [same]
        · simp [same]
  rw [ofFields, general]
  exact Option.or_none

theorem mem_put {key value : String} {pair : String × String} {values : Values}
    (among : pair ∈ values.put key value) : pair = (key, value) ∨ pair ∈ values := by
  induction values with
  | nil => exact .inl (List.mem_singleton.mp among)
  | cons first rest induction =>
      unfold put at among
      split at among
      · rcases List.mem_cons.mp among with new | old
        · exact .inl new
        · exact .inr (List.mem_cons_of_mem _ old)
      · split at among
        · exact List.mem_cons.mp among
        · rcases List.mem_cons.mp among with old | later
          · exact .inr (old ▸ List.mem_cons_self)
          · rcases induction later with new | old
            · exact .inl new
            · exact .inr (List.mem_cons_of_mem _ old)

theorem mem_foldl_put {fields : Fields} {pair : String × String} (values : Values)
    (among : pair ∈ fields.foldl (fun values pair => values.put pair.1 pair.2) values) :
    pair ∈ fields ∨ pair ∈ values := by
  induction fields generalizing values with
  | nil => exact .inr among
  | cons first rest induction =>
      rcases induction _ among with later | before
      · exact .inl (List.mem_cons_of_mem _ later)
      · rcases mem_put before with new | old
        · exact .inl (new ▸ List.mem_cons_self)
        · exact .inr old

theorem mem_ofFields {fields : Fields} {pair : String × String}
    (among : pair ∈ ofFields fields) : pair ∈ fields := by
  rcases mem_foldl_put [] among with known | none
  · exact known
  · cases none

end Values

/-! ## Numbers -/

theorem parseInt_formatInt {value : Int} (above : -2 ^ 63 < value) (below : value < 2 ^ 63) :
    Strconv.parseInt (formatInt value) = (value, none) := by
  have fits : value.natAbs < 2 ^ 63 := by omega
  rw [formatInt, Strconv.parseInt_signed _ fits]
  by_cases negative : value < 0
  · have magnitude : -(value.natAbs : Int) = value := by omega
    simp only [negative, decide_true, if_true, magnitude]
  · have magnitude : (value.natAbs : Int) = value := by omega
    simp only [negative, decide_false, Bool.false_eq_true, if_false, magnitude]

theorem parseFloat_formatFixed {decimals : Nat} (positive : 0 < decimals) {value : ℚ}
    (inRange : |rounded decimals value| < Strconv.overflow) :
    Strconv.parseFloat (formatFixed decimals value) =
      (.finite (rounded decimals value), none) := by
  have same : rounded decimals value =
      (if decide (value < 0) = true then -((units decimals value).natAbs : ℚ)
        else (units decimals value).natAbs) / 10 ^ decimals := by
    rw [rounded]
    congr 1
    have exactly := congrArg (Int.cast (R := ℚ)) (units_eq decimals value)
    by_cases negative : value < 0
    · simpa [negative] using exactly
    · simpa [negative] using exactly
  rw [same] at inRange ⊢
  exact Strconv.parseFloat_signed _ positive _ inRange

/-- A millisecond count of the system clock is far inside the range of `int64`. -/
theorem nowMs_bounds (timeNs : Int64) :
    -2 ^ 44 ≤ Emitter.nowMs timeNs ∧ Emitter.nowMs timeNs < 2 ^ 44 := by
  have above := timeNs.le_toInt
  have below := timeNs.toInt_lt
  unfold Emitter.nowMs
  omega

theorem rounded_inRange {value : ℚ} (finite : IsFinite value) :
    |rounded 4 value| < Strconv.overflow := by
  have near := abs_rounded_sub_le 4 value
  have triangle := abs_sub_abs_le_abs_sub (rounded 4 value) value
  have gap : (2 : ℚ) ^ 971 = 2 ^ 970 + 2 ^ 970 := by rw [pow_succ, mul_two]
  have wide : (1 : ℚ) ≤ 2 ^ 970 := one_le_pow₀ one_le_two
  unfold IsFinite at finite
  unfold Strconv.overflow
  rw [gap] at finite
  -- The powers are too large to be evaluated.
  generalize (2 : ℚ) ^ 1024 = top at *
  generalize (2 : ℚ) ^ 970 = ulp at *
  linarith only [near, triangle, wide, finite]

/-! ## Texts -/

theorem fitsText_signed {unsigned : List Char}
    (plain : ∀ char ∈ unsigned, char.isDigit = true ∨ char = '.') (negative : Bool) :
    FitsText (String.ofList (signed negative unsigned)) := by
  unfold FitsText
  rw [String.toList_ofList]
  exact not_mem_signed plain negative (by decide) (by decide) (by decide)

theorem fitsText_formatInt (value : Int) : FitsText (formatInt value) :=
  fitsText_signed (fun char among => .inl (Strconv.isDigit_of_mem_decimal char among)) _

theorem fitsText_formatFixed (decimals : Nat) (value : ℚ) :
    FitsText (formatFixed decimals value) :=
  fitsText_signed (mem_fixedPoint _ _) _

theorem EntryId.fitsText (id : EntryId) : FitsText id.text := by
  have absent (value : Nat) : Char.ofNat 0 ∉ Nat.toDigits 10 value := by
    intro among
    exact absurd (Strconv.isDigit_of_mem_decimal _ among) (by decide)
  unfold FitsText EntryId.text
  rw [String.toList_ofList]
  intro among
  rcases List.mem_append.mp among with millis | rest
  · exact absent _ millis
  · rcases List.mem_cons.mp rest with dash | seq
    · exact absurd dash (by decide)
    · exact absent _ seq

/-! ## Rows -/

section Rows

variable {emitter : Emitter} {timeNs : Int64} {stream : StreamName} {fields : Fields}
variable (id : EntryId)

theorem stamp_eq (timeNs : Int64) (sent : fields.reverse.lookup "ts_ms" =
    some (formatInt (Emitter.nowMs timeNs))) :
    stamp ⟨id, fields⟩ = .unixMilli (Emitter.nowMs timeNs) := by
  have bounds := nowMs_bounds timeNs
  unfold stamp Archiver.field
  rw [Values.lookup_ofFields, sent, Option.getD_some,
    parseInt_formatInt (by omega) (by omega)]

theorem fitsTimestamptz_nowMs (timeNs : Int64) :
    FitsTimestamptz (.unixMilli (Emitter.nowMs timeNs)) := by
  have bounds := nowMs_bounds timeNs
  change (-210866803200000000000 : Int) ≤ Emitter.nowMs timeNs * 1000000 ∧
    Emitter.nowMs timeNs * 1000000 < 9224318016000000000000
  omega

theorem parseInt_of_fitsInteger {value : Int} (fits : FitsInteger value) :
    Strconv.parseInt (formatInt value) = (value, none) := by
  unfold FitsInteger at fits
  exact parseInt_formatInt (by omega) (by omega)

theorem sensor_wellFormed {metric : String} {value : ℚ} (finite : IsFinite value)
    (sent : emitter.sensor timeNs metric value = some (stream, fields)) :
    ¬Malformed stream ⟨id, fields⟩ := by
  rcases emitter.xAdd_eq_some sent with ⟨rfl, rfl⟩
  simp [Malformed, Archiver.field, Values.lookup_ofFields,
    parseFloat_formatFixed (by decide : 0 < 4) (rounded_inRange finite)]

theorem sensor_row {metric : String} {value : ℚ} (node : FitsInteger emitter.node)
    (finite : IsFinite value)
    (sent : emitter.sensor timeNs metric value = some (.sensor, fields)) :
    rowFor .sensor ⟨id, fields⟩ =
      .sensor (.unixMilli (Emitter.nowMs timeNs)) emitter.node metric
        (.finite (rounded 4 value)) id.text := by
  rcases emitter.xAdd_eq_some sent with ⟨-, rfl⟩
  rw [rowFor, stamp_eq id timeNs (by simp [List.lookup_cons])]
  simp [Archiver.field, Values.lookup_ofFields, List.lookup_cons, Strconv.atoi,
    parseInt_of_fitsInteger node,
    parseFloat_formatFixed (by decide : 0 < 4) (rounded_inRange finite)]

theorem sensor_fits {metric : String} (node : FitsInteger emitter.node)
    (text : FitsText metric) (value : Float64) :
    (Row.sensor (.unixMilli (Emitter.nowMs timeNs)) emitter.node metric value id.text).Fits :=
  ⟨fitsTimestamptz_nowMs timeNs, node, text, id.fitsText⟩

variable {action reason : String} {diffCenti : Int} {effort dutyCycle activeS windowS : ℚ}

theorem control_wellFormed (someAction : action ≠ "")
    (sent : emitter.control timeNs action diffCenti effort dutyCycle activeS windowS reason =
      some (stream, fields)) :
    ¬Malformed stream ⟨id, fields⟩ := by
  rcases emitter.xAdd_eq_some sent with ⟨rfl, rfl⟩
  simp [Malformed, Archiver.field, Values.lookup_ofFields, List.lookup_cons, someAction]

theorem control_row (diff : FitsInteger diffCenti)
    (sent : emitter.control timeNs action diffCenti effort dutyCycle activeS windowS reason =
      some (.control, fields)) :
    rowFor .control ⟨id, fields⟩ =
      .control (.unixMilli (Emitter.nowMs timeNs)) action (some diffCenti) (.ofFields fields)
        id.text := by
  rcases emitter.xAdd_eq_some sent with ⟨-, rfl⟩
  rw [rowFor, stamp_eq id timeNs (by simp [List.lookup_cons])]
  simp [Archiver.field, Values.lookup_ofFields, List.lookup_cons,
    parseInt_of_fitsInteger diff]

theorem control_fits (diff : FitsInteger diffCenti) (actionText : FitsText action)
    (reasonText : FitsText reason)
    (sent : emitter.control timeNs action diffCenti effort dutyCycle activeS windowS reason =
      some (.control, fields)) :
    (Row.control (.unixMilli (Emitter.nowMs timeNs)) action (some diffCenti)
      (.ofFields fields) id.text).Fits := by
  have diffs : ∀ diff ∈ some diffCenti, FitsInteger diff := by
    intro diff' same
    cases same
    exact diff
  have pairs : ∀ pair ∈ fields, FitsText pair.1 ∧ FitsText pair.2 := by
    rcases emitter.xAdd_eq_some sent with ⟨-, rfl⟩
    simp only [List.forall_mem_cons, fitsText_formatInt, fitsText_formatFixed, actionText,
      reasonText, and_true]
    decide
  exact ⟨fitsTimestamptz_nowMs timeNs, actionText, diffs,
    fun pair among => pairs pair (Values.mem_ofFields among), id.fitsText⟩

end Rows

/-! ## The records of the control loop -/

/-- What a record must meet to fit the columns. -/
def InRange : Host.Telemetry → Prop
  | .control _ diffCenti .. => FitsInteger diffCenti
  | .sensor metric value => FitsText metric ∧ IsFinite value
  | .state .. => True

theorem fitsText_action (action : Action) : FitsText action.text := by
  cases action <;> decide

theorem fitsText_reason (reason : Reason) : FitsText reason.text := by
  cases reason <;> decide

/-- No record of the control loop blocks the archiver. -/
theorem sent_acceptable {emitter : Emitter} (node : FitsInteger emitter.node)
    {timeNs : Int64} {record : Host.Telemetry} (inRange : InRange record)
    {stream : StreamName} {fields : Fields}
    (sent : emitter.send timeNs record = some (stream, fields)) (id : EntryId) :
    Acceptable stream ⟨id, fields⟩ := by
  right
  cases record with
  | control action diffCenti effort dutyCycle activeS windowS reason =>
      rcases emitter.xAdd_eq_some sent with ⟨rfl, -⟩
      rw [control_row id inRange sent]
      exact control_fits id inRange (fitsText_action action) (fitsText_reason reason) sent
  | sensor metric value =>
      rcases emitter.xAdd_eq_some sent with ⟨rfl, -⟩
      rw [sensor_row id node inRange.2 sent]
      exact sensor_fits id node inRange.1 _
  | state => cases sent

/-! ## The round trip -/

/-- Hundredths with an offset of ten-thousandths are whole ten-thousandths. -/
theorem rounded_centi (centi offset : Int) :
    rounded 4 (centi / 100 + offset / 10000) = centi / 100 + offset / 10000 := by
  have whole : (centi / 100 + offset / 10000 : ℚ) =
      ((centi * 100 + offset : Int) : ℚ) / 10 ^ 4 := by
    push_cast
    ring
  rw [whole, rounded_units]

theorem rounded_milli (milli offset : Int) :
    rounded 4 (milli / 1000 + offset / 10000) = milli / 1000 + offset / 10000 := by
  have whole : (milli / 1000 + offset / 10000 : ℚ) =
      ((milli * 10 + offset : Int) : ℚ) / 10 ^ 4 := by
    push_cast
    ring
  rw [whole, rounded_units]

theorem produce_tables (store : Store) (productions : List Production) :
    (productions.foldl Store.produce store).tables = store.tables := by
  induction productions generalizing store with
  | nil => rfl
  | cons production productions induction => exact induction (store.produce production)

theorem point_tables (environment : Environment)
    (tables : (stream : StreamName) → List (Row stream)) :
    Keeps (fun world => world.store.tables = tables) (Archiver.point environment) := by
  intro world same
  have produced := (produce_tables world.store (environment.produces world)).trans same
  simp only [Archiver.point, EStateM.run_bind, EStateM.run_get, EStateM.run_set]
  cases environment.crashes world with
  | false => exact produced
  | true => exact produced

theorem exec_inserts {environment : Environment} {stream : StreamName} {row : Row stream}
    {world after : World}
    (succeeds : (Archiver.exec environment row).run world = .ok none after) :
    after.store.tables stream = inserted row (world.store.tables stream) := by
  have done : Ensures (fun state => state.store.tables = world.store.tables)
      (Archiver.exec environment row)
      (fun error final => error = none →
        final.store.tables stream = inserted row (world.store.tables stream))
      (fun _ _ => True) := by
    apply Ensures.bind ((point_tables environment _).raising fun _ _ _ => trivial)
    intro _ current same
    simp only [EStateM.run_bind, EStateM.run_get]
    cases environment.execInsert current stream row with
    | done =>
        intro _
        rw [← same]
        exact Store.insert_tables_same row
    | failed tookEffect =>
        cases tookEffect with
        | false => exact fun reported => by cases reported
        | true => exact fun reported => by cases reported
  have outcome := done world rfl
  rw [succeeds] at outcome
  exact outcome rfl

/-- An entry of the emitter is never dropped: it is inserted as what was emitted, and
that fits the columns. -/
theorem emitted_is_archived (environment : Environment) (emitter : Emitter)
    (node : FitsInteger emitter.node) (timeNs : Int64) (id : EntryId) (stream : StreamName)
    (fields : Fields) :
    (∀ metric value, IsFinite value →
      emitter.sensor timeNs metric value = some (stream, fields) →
      let row := Row.sensor (.unixMilli (Emitter.nowMs timeNs)) emitter.node metric
        (.finite (rounded 4 value)) id.text
      Archiver.insert environment stream id.text (.ofFields fields) =
          Archiver.exec environment row ∧
        (∀ world after, (Archiver.insert environment stream id.text (.ofFields fields)).run
            world = .ok none after →
          after.store.tables .sensor = inserted row (world.store.tables .sensor)) ∧
        (FitsText metric → row.Fits) ∧
        |rounded 4 value - value| ≤ 1 / 20000 ∧
        (∀ centi offset : Int, value = centi / 100 + offset / 10000 →
          rounded 4 value = value) ∧
        ∀ milli offset : Int, value = milli / 1000 + offset / 10000 →
          rounded 4 value = value) ∧
    ∀ action diffCenti effort dutyCycle activeS windowS reason, action ≠ "" →
      FitsInteger diffCenti →
      emitter.control timeNs action diffCenti effort dutyCycle activeS windowS reason =
        some (stream, fields) →
      let row := Row.control (.unixMilli (Emitter.nowMs timeNs)) action (some diffCenti)
        (.ofFields fields) id.text
      Archiver.insert environment stream id.text (.ofFields fields) =
          Archiver.exec environment row ∧
        (∀ world after, (Archiver.insert environment stream id.text (.ofFields fields)).run
            world = .ok none after →
          after.store.tables .control = inserted row (world.store.tables .control)) ∧
        (FitsText action → FitsText reason → row.Fits) := by
  constructor
  · intro metric value finite sent
    have wellFormed := sensor_wellFormed id finite sent
    rcases emitter.xAdd_eq_some sent with ⟨rfl, -⟩
    have inserted := Archiver.insert_eq environment .sensor ⟨id, fields⟩
    rw [if_neg wellFormed, sensor_row id node finite sent] at inserted
    have near := abs_rounded_sub_le 4 value
    norm_num at near
    refine ⟨inserted, ?_, fun text => sensor_fits id node text _, near, ?_, ?_⟩
    · intro world after succeeds
      exact exec_inserts (inserted ▸ succeeds)
    · intro centi offset same
      rw [same, rounded_centi]
    · intro milli offset same
      rw [same, rounded_milli]
  · intro action diffCenti effort dutyCycle activeS windowS reason someAction diff sent
    have wellFormed := control_wellFormed id someAction sent
    rcases emitter.xAdd_eq_some sent with ⟨rfl, -⟩
    have inserted := Archiver.insert_eq environment .control ⟨id, fields⟩
    rw [if_neg wellFormed, control_row id diff sent] at inserted
    refine ⟨inserted, ?_, fun actionText reasonText =>
      control_fits id diff actionText reasonText sent⟩
    intro world after succeeds
    exact exec_inserts (inserted ▸ succeeds)

theorem emitted_is_archived_cold :
    (Archiver.insert .calm .sensor (EntryId.text ⟨5, 0⟩)
        (.ofFields [("ts_ms", "1700000000123"), ("node", "1"), ("metric", "ambient"),
          ("value", "-3.2500")]) =
      Archiver.exec .calm (.sensor (.unixMilli 1700000000123) 1 "ambient"
        (.finite (-13 / 4)) (EntryId.text ⟨5, 0⟩))) ∧
    ∃ fields, fields.lookup "diff_centi" = some "-125" ∧
      Archiver.insert .calm .control (EntryId.text ⟨5, 0⟩) (.ofFields fields) =
        Archiver.exec .calm (.control (.unixMilli 1700000000123) "HEAT" (some (-125))
          (.ofFields fields) (EntryId.text ⟨5, 0⟩)) := by
  let emitter : Emitter := ⟨1, true⟩
  have now : Emitter.nowMs 1700000000123456789 = 1700000000123 := by decide
  have sensorSent : emitter.sensor 1700000000123456789 "ambient" (-13 / 4) =
      some (.sensor, [("ts_ms", "1700000000123"), ("node", "1"), ("metric", "ambient"),
        ("value", "-3.2500")]) := by decide +kernel
  have controlSent : emitter.control 1700000000123456789 "HEAT" (-125) (3 / 10) (3 / 10) 180
      600 "duty-on" = some (.control,
        [("ts_ms", "1700000000123"), ("action", "HEAT"), ("diff_centi", "-125"),
          ("source", "model"), ("effort", "0.3000"), ("duty_cycle", "0.3000"),
          ("active_s", "180.0"), ("window_s", "600.0"), ("reason", "duty-on")]) := by
    decide +kernel
  have sensor := (emitted_is_archived .calm emitter (by decide) _ ⟨5, 0⟩ _ _).1 _ _
    (by decide +kernel) sensorSent
  have control := (emitted_is_archived .calm emitter (by decide) _ ⟨5, 0⟩ _ _).2 _ _ _ _ _ _ _
    (by decide) (by decide) controlSent
  have exactly : rounded 4 (-13 / 4) = -13 / 4 := sensor.2.2.2.2.1 (-325) 0 (by norm_num)
  rw [now] at sensor control
  rw [exactly] at sensor
  exact ⟨sensor.1, _, rfl, control.1⟩

end BuranBrew.Telemetry

import BuranBrew.Foundation.CCode

/-! # The ambient sensor

`ambient_read_centi_c` converts what the driver of the BME680 returns.
-/

namespace BuranBrew.Device

open CCode Execution

/-- `struct sensor_value`: whole degrees and millionths. -/
structure SensorValue where
  val1 : Int32
  val2 : Int32
  deriving DecidableEq, Repr

structure Bme680 where
  sampleFetch : Int
  channelGet : Int
  t : SensorValue
  deriving DecidableEq, Repr

/-- The object is `*out`. -/
def ambientReadCentiC (ready : Bool) (driver : Bme680) : C Int16 Int := do
  if !ready then return -1
  if driver.sampleFetch < 0 then return -1
  if driver.channelGet < 0 then return -1
  let whole ← int (driver.t.val1.toInt * 100)
  let centi ← int (whole + driver.t.val2.toInt.tdiv 10000)
  set (Int16.ofInt centi)
  return 0

def Bme680.Reads (ready : Bool) (driver : Bme680) : Prop :=
  ready = true ∧ 0 ≤ driver.sampleFetch ∧ 0 ≤ driver.channelGet

instance (ready : Bool) (driver : Bme680) : Decidable (driver.Reads ready) :=
  inferInstanceAs (Decidable (_ ∧ _ ∧ _))

namespace SensorValue

/-- In millionths of °C. -/
def micro (t : SensorValue) : Int := t.val1.toInt * 1000000 + t.val2.toInt

/-- As drivers report values: the parts have the same sign, and the second is a fraction. -/
structure Normal (t : SensorValue) : Prop where
  fraction : -1000000 < t.val2.toInt ∧ t.val2.toInt < 1000000
  positive : 0 < t.val1.toInt → 0 ≤ t.val2.toInt
  negative : t.val1.toInt < 0 → t.val2.toInt ≤ 0

theorem Normal.tdiv_micro {t : SensorValue} (normal : t.Normal) :
    t.val1.toInt * 100 + t.val2.toInt.tdiv 10000 = t.micro.tdiv 10000 := by
  have split : t.micro = t.val2.toInt + t.val1.toInt * 100 * 10000 := by
    unfold micro
    omega
  rw [split]
  rcases lt_trichotomy t.val1.toInt 0 with below | zero | above
  · have second := normal.negative below
    have fraction : t.val2.toInt.tdiv 10000 = -(-t.val2.toInt / 10000) := by
      rw [← Int.tdiv_eq_ediv_of_nonneg (by omega), Int.neg_tdiv, neg_neg]
    have whole : (t.val2.toInt + t.val1.toInt * 100 * 10000).tdiv 10000 =
        -(-(t.val2.toInt + t.val1.toInt * 100 * 10000) / 10000) := by
      rw [← Int.tdiv_eq_ediv_of_nonneg (by omega), Int.neg_tdiv, neg_neg]
    rw [fraction, whole]
    omega
  · rw [zero]
    simp
  · have second := normal.positive above
    rw [Int.tdiv_eq_ediv_of_nonneg (by omega), Int.tdiv_eq_ediv_of_nonneg (by omega)]
    omega

end SensorValue

/-- Within the range of an `int16_t`, a reading is the driver's value, truncated. -/
theorem ambientReadCentiC_run {ready : Bool} {driver : Bme680} (out : Int16)
    (normal : driver.t.Normal) (inRange : |driver.t.micro| < 327680000) :
    (ambientReadCentiC ready driver).run out =
      if driver.Reads ready then .ok 0 (Int16.ofInt (driver.t.micro.tdiv 10000))
      else .ok (-1) out := by
  have bounds := abs_lt.mp inRange
  have fraction := normal.fraction
  unfold SensorValue.micro at bounds
  have whole : (int (driver.t.val1.toInt * 100)).run out =
      .ok (driver.t.val1.toInt * 100) out := int_run out (by omega) (by omega)
  have quotient : -100 ≤ driver.t.val2.toInt.tdiv 10000 ∧
      driver.t.val2.toInt.tdiv 10000 ≤ 100 := by
    constructor
    · exact le_trans (by decide) (Int.tdiv_le_tdiv (by decide) (by omega : -1000000 ≤ _))
    · exact (Int.tdiv_le_tdiv (by decide) (by omega : _ ≤ (1000000 : Int))).trans (by decide)
  have centi : (int (driver.t.val1.toInt * 100 + driver.t.val2.toInt.tdiv 10000)).run out =
      .ok (driver.t.micro.tdiv 10000) out := by
    rw [← normal.tdiv_micro]
    exact int_run out (by omega) (by omega)
  unfold ambientReadCentiC
  cases ready with
  | false => rfl
  | true =>
      by_cases fetched : driver.sampleFetch < 0
      · have fails : ¬driver.Reads true := fun reads => reads.2.1.not_gt fetched
        simp only [if_neg fails, Bool.not_true, Bool.false_eq_true, if_false, fetched, if_true]
        rfl
      · by_cases got : driver.channelGet < 0
        · have fails : ¬driver.Reads true := fun reads => reads.2.2.not_gt got
          simp only [if_neg fails, Bool.not_true, Bool.false_eq_true, if_false, fetched, got,
            if_true]
          rfl
        · have reads : driver.Reads true := ⟨rfl, not_lt.mp fetched, not_lt.mp got⟩
          simp only [if_pos reads, Bool.not_true, Bool.false_eq_true, if_false, fetched, got]
          rw [run_bind_of_ok whole, run_bind_of_ok centi]
          rfl

end BuranBrew.Device

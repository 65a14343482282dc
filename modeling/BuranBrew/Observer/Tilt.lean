import BuranBrew.Foundation.CCode
import BuranBrew.Foundation.Saturation
import Mathlib.Algebra.Order.Ring.Cast

/-! # Frames of the Tilt

`tilt_black_decode` takes the manufacturer data of an advert for a frame of the black
Tilt, or refuses it.
-/

namespace BuranBrew.Observer

open CCode Execution Saturation

/-! ## Decoding -/

def tiltBlackPrefixLen : Nat := 20

def tiltIbeaconMinLen : Nat := 25

def tiltBlackPrefix : List UInt8 :=
  [0x4C, 0x00, 0x02, 0x15,
    0xA4, 0x95, 0xBB, 0x30, 0xC5, 0xB1, 0x4B, 0x44,
    0xB5, 0x12, 0x13, 0x70, 0xF0, 0x2D, 0x74, 0xDE]

/-- The objects that `temp_centi_c` and `gravity_x1000` point to. -/
structure TiltOutputs where
  tempCentiC : Int16
  gravityX1000 : UInt16
  deriving DecidableEq, Repr

/-- `((uint16_t)mfg[index] << 8) | mfg[index + 1]`, computed as an `int`. -/
def uint16At (mfg : List UInt8) (index : Nat) : C TiltOutputs UInt16 := do
  let high ← load mfg index
  let shifted ← int ((high.toNat <<< 8 : Nat) : Int)
  let low ← load mfg (index + 1)
  return UInt16.ofNat (shifted.toNat ||| low.toNat)

/-- `((int32_t)temp_f - 32) * 500 / 9`. -/
def centiOf (tempF : UInt16) : C TiltOutputs Int := do
  let difference ← int ((tempF.toNat : Int) - 32)
  let product ← int (difference * 500)
  int (product.tdiv 9)

/-- The pointer `mfg` is none where it is NULL. -/
def tiltBlackDecode (mfg : Option (List UInt8)) (len : UInt8) : C TiltOutputs Bool := do
  match mfg with
  | none => return false
  | some mfg =>
      if len.toNat < tiltIbeaconMinLen then return false
      if (← memcmp mfg tiltBlackPrefix tiltBlackPrefixLen) ≠ 0 then return false
      let tempF ← uint16At mfg 20
      let gravityX1k ← uint16At mfg 22
      let centi ← centiOf tempF
      let centi := if centi > 32767 then 32767 else centi
      let centi := if centi < -32768 then -32768 else centi
      modify fun outputs => { outputs with tempCentiC := Int16.ofInt centi }
      modify fun outputs => { outputs with gravityX1000 := gravityX1k }
      return true

/-! ## Conversion -/

/-- In hundredths of °C, as far as an `int16_t` reaches. -/
def exactCentiC (tempF : ℚ) : ℚ := clamp ((tempF - 32) * 500 / 9) (-32768) 32767

def limitedCentiC (tempF : Int) : Int :=
  clamp (((tempF - 32) * 500).tdiv 9) (-32768) 32767

theorem limitedCentiC_range (tempF : Int) :
    -32768 ≤ limitedCentiC tempF ∧ limitedCentiC tempF ≤ 32767 := by
  constructor
  · exact low_le_clamp
  · apply clamp_le_high
    decide

theorem limitedCentiC_mono {tempF tempF' : Int} (warmer : tempF ≤ tempF') :
    limitedCentiC tempF ≤ limitedCentiC tempF' := by
  apply clamp_mono
  apply Int.tdiv_le_tdiv (by decide)
  omega

/-- Truncation costs less than a hundredth of a degree, on both sides of freezing. -/
theorem abs_limitedCentiC_sub_lt (tempF : Int) :
    |(limitedCentiC tempF : ℚ) - exactCentiC tempF| < 1 := by
  have truncated := abs_tdiv_sub_lt ((tempF - 32) * 500) (by decide : (0 : Int) < 9)
  push_cast at truncated
  have cast : (limitedCentiC tempF : ℚ) =
      clamp ((((tempF - 32) * 500).tdiv 9 : Int) : ℚ) (-32768) 32767 := by
    unfold limitedCentiC clamp
    push_cast
    rfl
  rw [cast, exactCentiC]
  exact abs_clamp_sub_clamp_le.trans_lt truncated

example : limitedCentiC 25 = -388 ∧ limitedCentiC 33 = 55 := by decide

theorem toInt_limitedCentiC (tempF : Int) :
    (Int16.ofInt (limitedCentiC tempF)).toInt = limitedCentiC tempF := by
  have range := limitedCentiC_range tempF
  apply Int16.toInt_ofInt_of_le
  · omega
  · omega

/-! ## Runs -/

section Runs

variable {mfg : List UInt8} {index : Nat} (outputs : TiltOutputs)

theorem uint16At_run (inside : index + 1 < mfg.length) :
    (uint16At mfg index).run outputs = .ok (UInt16.ofNat (bigEndian mfg index)) outputs := by
  have high := load_run outputs (Nat.lt_of_succ_lt inside)
  have low := load_run outputs inside
  have byte := (mfg.getD index 0).toNat_lt
  have shifted : (int (((mfg.getD index 0).toNat <<< 8 : Nat) : Int)).run outputs =
      .ok (((mfg.getD index 0).toNat <<< 8 : Nat) : Int) outputs := by
    rw [Nat.shiftLeft_eq]
    apply int_run
    · omega
    · omega
  rw [uint16At, run_bind_of_ok high, run_bind_of_ok shifted, run_bind_of_ok low,
    EStateM.run_pure, Int.toNat_natCast, shift_or]

theorem centiOf_run (tempF : UInt16) :
    (centiOf tempF).run outputs = .ok ((((tempF.toNat : Int) - 32) * 500).tdiv 9) outputs := by
  have range := tempF.toNat_lt
  have difference : (int ((tempF.toNat : Int) - 32)).run outputs =
      .ok ((tempF.toNat : Int) - 32) outputs := int_run outputs (by omega) (by omega)
  have product : (int (((tempF.toNat : Int) - 32) * 500)).run outputs =
      .ok (((tempF.toNat : Int) - 32) * 500) outputs := int_run outputs (by omega) (by omega)
  have least : (-16000 : Int).tdiv 9 ≤ (((tempF.toNat : Int) - 32) * 500).tdiv 9 :=
    Int.tdiv_le_tdiv (by decide) (by omega)
  have most : (((tempF.toNat : Int) - 32) * 500).tdiv 9 ≤ (32751500 : Int).tdiv 9 :=
    Int.tdiv_le_tdiv (by decide) (by omega)
  have quotient : (int ((((tempF.toNat : Int) - 32) * 500).tdiv 9)).run outputs =
      .ok ((((tempF.toNat : Int) - 32) * 500).tdiv 9) outputs := by
    apply int_run
    · exact le_trans (by decide) least
    · exact most.trans_lt (by decide)
  rw [centiOf, run_bind_of_ok difference, run_bind_of_ok product, quotient]

theorem limit_eq_clamp (centi : Int) :
    (if (if centi > 32767 then 32767 else centi) < -32768 then -32768
      else if centi > 32767 then 32767 else centi) = clamp centi (-32768) 32767 := by
  unfold clamp
  omega

end Runs

/-! ## What is decoded -/

/-- The data of an element of an advert, with its length in a `uint8_t`. -/
structure Payload where
  bytes : List UInt8
  fits : bytes.length < 256
  deriving DecidableEq, Repr

namespace Payload

variable (mfg : Payload)

def len : UInt8 := UInt8.ofNat mfg.bytes.length

theorem toNat_len : mfg.len.toNat = mfg.bytes.length :=
  UInt8.toNat_ofNat_of_lt' mfg.fits

def IsTiltBlack : Prop :=
  25 ≤ mfg.bytes.length ∧ mfg.bytes.take 20 = tiltBlackPrefix

instance : Decidable mfg.IsTiltBlack := inferInstanceAs (Decidable (_ ∧ _))

def outputs : TiltOutputs where
  tempCentiC := Int16.ofInt (limitedCentiC (bigEndian mfg.bytes 20))
  gravityX1000 := UInt16.ofNat (bigEndian mfg.bytes 22)

variable {mfg} (before : TiltOutputs)

theorem tiltBlackDecode_of_short (short : mfg.bytes.length < 25) :
    (tiltBlackDecode (some mfg.bytes) mfg.len).run before = .ok false before := by
  have refused : mfg.len.toNat < tiltIbeaconMinLen := mfg.toNat_len.trans_lt short
  simp only [tiltBlackDecode, if_pos refused]
  rfl

theorem tiltBlackDecode_of_long (long : 25 ≤ mfg.bytes.length) :
    (tiltBlackDecode (some mfg.bytes) mfg.len).run before =
      if mfg.bytes.take 20 = tiltBlackPrefix then .ok true mfg.outputs else .ok false before := by
  have enough : ¬mfg.len.toNat < tiltIbeaconMinLen := by
    rw [toNat_len]
    exact long.not_gt
  have prefixRead : tiltBlackPrefixLen ≤ mfg.bytes.length := le_trans (by decide) long
  rcases memcmp_run before prefixRead (by decide : tiltBlackPrefixLen ≤ tiltBlackPrefix.length)
    with ⟨result, compared, found⟩
  simp only [tiltBlackDecode, if_neg enough]
  rw [run_bind_of_ok compared]
  by_cases frame : mfg.bytes.take 20 = tiltBlackPrefix
  · have same : result = 0 := found.mpr frame
    rw [if_pos frame, if_neg (not_not_intro same),
      run_bind_of_ok (uint16At_run before (by omega)),
      run_bind_of_ok (uint16At_run before (by omega)),
      run_bind_of_ok (centiOf_run before _),
      UInt16.toNat_ofNat_of_lt' (bigEndian_lt mfg.bytes 20), limit_eq_clamp]
    rfl
  · have different : result ≠ 0 := fun same => frame (found.mp same)
    rw [if_neg frame, if_pos different]
    rfl

theorem tiltBlackDecode_run (mfg : Payload) (before : TiltOutputs) :
    (tiltBlackDecode (some mfg.bytes) mfg.len).run before =
      if mfg.IsTiltBlack then .ok true mfg.outputs else .ok false before := by
  rcases Nat.lt_or_ge mfg.bytes.length 25 with short | long
  · rw [tiltBlackDecode_of_short before short, if_neg]
    intro frame
    exact short.not_ge frame.1
  · rw [tiltBlackDecode_of_long before long]
    simp only [IsTiltBlack, long, true_and]

theorem tiltBlackDecode_eq_true {after : TiltOutputs}
    (accepts : (tiltBlackDecode (some mfg.bytes) mfg.len).run before = .ok true after) :
    mfg.IsTiltBlack ∧ after = mfg.outputs := by
  rw [tiltBlackDecode_run] at accepts
  split at accepts
  · cases accepts
    exact ⟨‹_›, rfl⟩
  · cases accepts

theorem toInt_outputs_tempCentiC :
    mfg.outputs.tempCentiC.toInt = limitedCentiC (bigEndian mfg.bytes 20) :=
  toInt_limitedCentiC _

theorem toNat_outputs_gravityX1000 :
    mfg.outputs.gravityX1000.toNat = bigEndian mfg.bytes 22 :=
  UInt16.toNat_ofNat_of_lt' (bigEndian_lt mfg.bytes 22)

theorem outputs_tempCentiC_mono {other : Payload}
    (warmer : bigEndian mfg.bytes 20 ≤ bigEndian other.bytes 20) :
    mfg.outputs.tempCentiC ≤ other.outputs.tempCentiC := by
  rw [Int16.le_iff_toInt_le, toInt_outputs_tempCentiC, toInt_outputs_tempCentiC]
  exact limitedCentiC_mono (Int.ofNat_le.mpr warmer)

/-- Only the first 24 bytes are read, once the data is long enough. -/
theorem tiltBlackDecode_run_congr {other : Payload}
    (long : 25 ≤ mfg.bytes.length ↔ 25 ≤ other.bytes.length)
    (same : mfg.bytes.take 24 = other.bytes.take 24) :
    (tiltBlackDecode (some other.bytes) other.len).run before =
      (tiltBlackDecode (some mfg.bytes) mfg.len).run before := by
  have prefixes : mfg.bytes.take 20 = other.bytes.take 20 := by
    have shorter := congrArg (List.take 20) same
    rwa [List.take_take, List.take_take] at shorter
  have numbers : ∀ index, index + 1 < 24 →
      bigEndian mfg.bytes index = bigEndian other.bytes index := by
    intro index inside
    rw [← bigEndian_take inside, same, bigEndian_take inside]
  have outputs : mfg.outputs = other.outputs := by
    rw [Payload.outputs, Payload.outputs, numbers 20 (by decide),
      numbers 22 (by decide)]
  have frames : other.IsTiltBlack ↔ mfg.IsTiltBlack := by
    rw [IsTiltBlack, IsTiltBlack, long, prefixes]
  rw [tiltBlackDecode_run, tiltBlackDecode_run, outputs]
  exact if_congr frames rfl rfl

end Payload

/-- Frames of the black Tilt are accepted, and nothing else. No byte outside of the data
is read and no `int` overflows, as the code returns; of an accepted frame the bytes from
index 24 on do not matter. -/
theorem tilt_frames_decoded (mfg : Payload) (before : TiltOutputs) :
    ∃ accepted after,
      (tiltBlackDecode (some mfg.bytes) mfg.len).run before = .ok accepted after ∧
      (accepted = true ↔
        25 ≤ mfg.bytes.length ∧ mfg.bytes.take 20 = tiltBlackPrefix) ∧
      (accepted = false → after = before) ∧
      (accepted = true →
        after.gravityX1000.toNat = bigEndian mfg.bytes 22 ∧
        |(after.tempCentiC.toInt : ℚ) - exactCentiC (bigEndian mfg.bytes 20)| < 1 ∧
        ∀ (other : Payload) (before' after' : TiltOutputs),
          (tiltBlackDecode (some other.bytes) other.len).run before' = .ok true after' →
          bigEndian mfg.bytes 20 ≤ bigEndian other.bytes 20 →
          after.tempCentiC ≤ after'.tempCentiC) ∧
      ∀ other : Payload, (25 ≤ mfg.bytes.length ↔ 25 ≤ other.bytes.length) →
        mfg.bytes.take 24 = other.bytes.take 24 →
        (tiltBlackDecode (some other.bytes) other.len).run before = .ok accepted after := by
  have run := mfg.tiltBlackDecode_run before
  by_cases frame : mfg.IsTiltBlack
  · rw [if_pos frame] at run
    refine ⟨true, mfg.outputs, run, iff_of_true rfl frame, nofun, fun _ => ⟨?_, ?_, ?_⟩, ?_⟩
    · exact Payload.toNat_outputs_gravityX1000
    · rw [Payload.toInt_outputs_tempCentiC]
      exact_mod_cast abs_limitedCentiC_sub_lt (bigEndian mfg.bytes 20)
    · intro other before' after' accepts warmer
      rw [(Payload.tiltBlackDecode_eq_true before' accepts).2]
      exact Payload.outputs_tempCentiC_mono warmer
    · intro other long same
      rw [Payload.tiltBlackDecode_run_congr before long same, run]
  · rw [if_neg frame] at run
    refine ⟨false, before, run, iff_of_false nofun frame, fun _ => rfl, nofun, ?_⟩
    intro other long same
    rw [Payload.tiltBlackDecode_run_congr before long same, run]

def freezingFrame : Payload :=
  ⟨tiltBlackPrefix ++ [0x00, 0x19, 0x03, 0xF2, 0xC5], by decide⟩

theorem tilt_frames_decoded_freezing :
    ∃ after, (tiltBlackDecode (some freezingFrame.bytes) freezingFrame.len).run ⟨0, 0⟩ =
        .ok true after ∧
      after.gravityX1000.toNat = 1010 ∧
      |(after.tempCentiC.toInt : ℚ) - exactCentiC 25| < 1 := by
  rcases tilt_frames_decoded freezingFrame ⟨0, 0⟩ with
    ⟨accepted, after, run, accepts, -, decoded, -⟩
  have accepted := accepts.mpr (by decide)
  subst accepted
  exact ⟨after, run, (decoded rfl).1, by exact_mod_cast (decoded rfl).2.1⟩

end BuranBrew.Observer

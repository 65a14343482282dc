import BuranBrew.Foundation.FloatingPoint
import Mathlib.Data.List.Chain
import Mathlib.Data.List.Induction

/-! # Exponential moving averages in floating point

The first sample is taken as it is; every later one moves the average by a fixed share of
the difference. A share below one moves it between the two, whatever is rounded. The whole
difference may be rounded up and move it past the sample.
-/

namespace BuranBrew.Smoothing

def smooth (round : ℚ → ℚ) (weight : ℚ) (previous : Option ℚ) (sample : ℚ) : ℚ :=
  match previous with
  | none => sample
  | some previous => round (previous + round (weight * round (sample - previous)))

def smoothAll (round : ℚ → ℚ) (weight : ℚ) (previous : Option ℚ) (samples : List ℚ) :
    Option ℚ :=
  samples.foldl (fun previous sample => some (smooth round weight previous sample)) previous

def average (round : ℚ → ℚ) (weight : ℚ) (samples : List ℚ) : Option ℚ :=
  smoothAll round weight none samples

theorem smoothAll_append (round : ℚ → ℚ) (weight : ℚ) (previous : Option ℚ)
    (samples later : List ℚ) :
    smoothAll round weight previous (samples ++ later) =
      smoothAll round weight (smoothAll round weight previous samples) later :=
  List.foldl_append

section Rounding

open FloatingPoint Format

variable {format : Format} {weight difference previous sample low high : ℚ}

theorem le_one_sub_unitRoundoff (fine : format.Fine) (member : format.Member weight)
    (small : weight < 1) : weight ≤ 1 - format.unitRoundoff := by
  rcases le_or_gt weight (1 / 2) with less | more
  · linarith [format.unitRoundoff_le_half]
  · have positive : 0 < weight := one_half_pos.trans more
    have half : (-1 : ℤ) ≤ Int.log 2 weight :=
      (Int.zpow_le_iff_le_log Nat.one_lt_two positive).mp (by norm_num; linarith)
    have upper : format.exponent weight ≤ 0 := by
      have unit := fine.normal.exponent
      rw [abs_one, Int.log_one_right] at unit
      have precise := format.precision_pos
      have mono := format.exponent_le_exponent positive small.le
      omega
    have lower : -(format.precision : ℤ) ≤ format.exponent weight := by
      rw [exponent, abs_of_pos positive]
      omega
    rcases zpow_eq_mul upper with ⟨units, whole⟩
    rcases member.multiple with ⟨digits, multiple⟩
    rw [zpow_zero] at whole
    have fewer : digits < units := by
      have less : (digits : ℚ) * format.ulp weight < units * format.ulp weight := by
        rw [← multiple]
        exact small.trans_eq whole
      exact_mod_cast lt_of_mul_lt_mul_right less (format.ulp_pos weight).le
    have below : weight ≤ 1 - format.ulp weight := by
      have step : (digits : ℚ) ≤ units - 1 := by exact_mod_cast Int.le_sub_one_of_lt fewer
      calc weight = digits * format.ulp weight := multiple
        _ ≤ (units - 1) * format.ulp weight :=
          mul_le_mul_of_nonneg_right step (format.ulp_pos weight).le
        _ = 1 - format.ulp weight := by rw [sub_mul, one_mul, ulp, ← whole]
    have unit : format.unitRoundoff ≤ format.ulp weight :=
      zpow_le_zpow_right₀ one_le_two lower
    linarith

/-- A share below one of a rounded difference, itself rounded, is at most the difference. -/
theorem round_share_le (fine : format.Fine) (member : format.Member weight)
    (nonneg : 0 ≤ weight) (small : weight < 1) (onGrid : format.OnGrid difference)
    (forward : 0 ≤ difference) : format.round (weight * format.round difference) ≤ difference := by
  rcases onGrid.normal_or_member with normal | exactly
  · by_contra past
    rw [not_le] at past
    have some : 0 ≤ format.round difference := format.round_nonneg forward
    have part : weight * format.round difference ≤ format.round difference :=
      mul_le_of_le_one_left some small.le
    -- Only the difference rounded up lies past the difference and is no more than all of it.
    have all : format.round (weight * format.round difference) = format.round difference :=
      le_antisymm ((format.member_round _).round_le part) ((format.member_round _).round_le past.le)
    have positive : 0 < format.round difference := by
      rw [← all]
      exact forward.trans_lt past
    by_cases digits : format.Normal (weight * format.round difference)
    · have error := digits.abs_round_sub_le
      rw [all, abs_of_nonneg (sub_nonneg.mpr part),
        abs_of_nonneg (mul_nonneg nonneg some)] at error
      have gap := mul_le_mul_of_nonneg_right (le_one_sub_unitRoundoff fine member small)
        positive.le
      have share := mul_lt_mul_of_pos_left (mul_lt_of_lt_one_left positive small)
        (format.unitRoundoff_pos)
      rw [sub_mul, one_mul] at gap
      linarith
    · rw [Format.Normal, not_le, abs_of_nonneg (mul_nonneg nonneg some)] at digits
      rw [Format.Normal, abs_of_nonneg forward] at normal
      have least : format.Member (2 ^ (format.minExponent + (format.precision - 1 : ℤ))) := by
        have precise := format.precision_pos
        refine ⟨1, format.minExponent + (format.precision - 1 : ℤ), by omega, ?_, ?_⟩
        · rw [abs_one]
          exact one_lt_pow₀ one_lt_two precise.ne'
        · rw [Int.cast_one, one_mul]
      have within := least.round_le digits.le
      linarith
  · rw [exactly.round]
    exact exactly.round_le (mul_le_of_le_one_left forward small.le)

theorem smooth_forward (fine : format.Fine) (member : format.Member weight)
    (nonneg : 0 ≤ weight) (small : weight < 1) (previousMember : format.Member previous)
    (sampleMember : format.Member sample) (forward : previous ≤ sample) :
    previous ≤ smooth format.round weight (some previous) sample ∧
      smooth format.round weight (some previous) sample ≤ sample := by
  have difference := sub_nonneg.mpr forward
  have step : 0 ≤ format.round (weight * format.round (sample - previous)) :=
    format.round_nonneg (mul_nonneg nonneg (format.round_nonneg difference))
  have share := round_share_le fine member nonneg small
    (sampleMember.onGrid.sub previousMember.onGrid) difference
  constructor
  · exact previousMember.le_round (le_add_of_nonneg_right step)
  · exact sampleMember.round_le (by linarith)

theorem smooth_neg (format : Format) (weight previous sample : ℚ) :
    smooth format.round weight (some (-previous)) (-sample) =
      -smooth format.round weight (some previous) sample := by
  have difference : -sample - -previous = -(sample - previous) := by ring
  simp only [smooth]
  rw [difference, round_neg, mul_neg, round_neg, ← neg_add, round_neg]

theorem smooth_mem (fine : format.Fine) (member : format.Member weight)
    (nonneg : 0 ≤ weight) (small : weight < 1) {previous : Option ℚ}
    (within : ∀ value ∈ previous, format.Member value ∧ low ≤ value ∧ value ≤ high)
    (sampleMember : format.Member sample) (sampled : low ≤ sample ∧ sample ≤ high) :
    format.Member (smooth format.round weight previous sample) ∧
      low ≤ smooth format.round weight previous sample ∧
      smooth format.round weight previous sample ≤ high := by
  cases previous with
  | none => exact ⟨sampleMember, sampled⟩
  | some previous =>
      rcases within previous rfl with ⟨previousMember, above, below⟩
      refine ⟨format.member_round _, ?_⟩
      rcases le_total previous sample with forward | backward
      · rcases smooth_forward fine member nonneg small previousMember sampleMember forward with
          ⟨later, earlier⟩
        exact ⟨above.trans later, earlier.trans sampled.2⟩
      · have opposite := smooth_forward fine member nonneg small previousMember.neg
          sampleMember.neg (neg_le_neg backward)
        rw [smooth_neg, neg_le_neg_iff, neg_le_neg_iff] at opposite
        exact ⟨sampled.1.trans opposite.2, opposite.1.trans below⟩

theorem average_mem (fine : format.Fine) (member : format.Member weight)
    (nonneg : 0 ≤ weight) (small : weight < 1) {samples : List ℚ}
    (members : ∀ sample ∈ samples, format.Member sample)
    (bounded : ∀ sample ∈ samples, low ≤ sample ∧ sample ≤ high) :
    ∀ value ∈ average format.round weight samples,
      format.Member value ∧ low ≤ value ∧ value ≤ high := by
  induction samples using List.reverseRecOn with
  | nil =>
      intro value known
      cases known
  | append_singleton samples sample induction =>
      intro value known
      rw [average, smoothAll_append] at known
      cases known
      apply smooth_mem fine member nonneg small
      · exact induction (fun earlier among => members earlier (by simp [among]))
          fun earlier among => bounded earlier (by simp [among])
      · exact members sample (by simp)
      · exact bounded sample (by simp)

theorem smooth_one (sampleMember : format.Member sample)
    (difference : format.Member (sample - previous)) :
    smooth format.round 1 (some previous) sample = sample := by
  simp only [smooth]
  rw [one_mul, difference.round, difference.round, add_sub_cancel, sampleMember.round]

theorem average_one {samples : List ℚ} (members : ∀ sample ∈ samples, format.Member sample)
    (differences : samples.IsChain fun sample next => format.Member (next - sample)) :
    average format.round 1 samples = samples.getLast? := by
  induction samples using List.reverseRecOn with
  | nil => rfl
  | append_singleton samples sample induction =>
      rw [List.isChain_append] at differences
      have earlier := induction (fun earlier among => members earlier (by simp [among]))
        differences.1
      rw [average, smoothAll_append, ← average, earlier, List.getLast?_concat]
      cases last : samples.getLast? with
      | none => rfl
      | some previous =>
          have difference := differences.2.2 previous last sample rfl
          exact congrArg some (smooth_one (members sample (by simp)) difference)

/-- An average lies between the least and the greatest of its samples, unless its share is
one and a difference of two consecutive samples is rounded. -/
theorem average_between (fine : format.Fine) (member : format.Member weight)
    (nonneg : 0 ≤ weight) (small : weight ≤ 1) {samples : List ℚ}
    (members : ∀ sample ∈ samples, format.Member sample)
    (smoothed : weight < 1 ∨
      samples.IsChain fun sample next => format.Member (next - sample))
    {value : ℚ} (known : average format.round weight samples = some value)
    (lowest : samples.min? = some low) (highest : samples.max? = some high) :
    low ≤ value ∧ value ≤ high := by
  have bounded (sample : ℚ) (among : sample ∈ samples) : low ≤ sample ∧ sample ≤ high :=
    ⟨(List.min?_eq_some_iff.mp lowest).2 sample among,
      (List.max?_eq_some_iff.mp highest).2 sample among⟩
  rcases lt_or_eq_of_le small with less | rfl
  · exact (average_mem fine member nonneg less members bounded value known).2
  · have differences := smoothed.resolve_left (lt_irrefl 1)
    rw [average_one members differences] at known
    exact bounded value (List.mem_of_getLast? known)

end Rounding

end BuranBrew.Smoothing

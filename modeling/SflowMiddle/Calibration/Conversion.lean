/-
Conversions of a calibrated clock. Every way of installing a model keeps the scale
within the drift limit, so below a million ppm the scale is positive and device
times convert in order; durations are off by the drift and one rounding unit.
-/

import SflowMiddle.Calibration.Runs

namespace SflowMiddle.Calibration

open SflowMiddle.Foundation
open ClockCalibration

theorem Phase.scale_bounded {config : Config} {status : CalibrationStatus}
    (phase : Phase config status) (drift : 0 ≤ config.maximumDriftPpm) :
    |status.scale - 1| * 1000000 ≤ config.maximumDriftPpm := by
  cases phase with
  | warmingUp _ _ _ unitScale => rw [unitScale]; simpa using drift
  | offsetOnly _ _ _ unitScale => rw [unitScale]; simpa using drift
  | tracking _ _ _ bounded => exact bounded

private theorem applyModel_mono {first second origin unixOrigin : Int} {scale : ℚ}
    (positive : 0 ≤ scale) (ordered : first ≤ second) :
    applyModel first origin unixOrigin scale ≤ applyModel second origin unixOrigin scale := by
  unfold applyModel
  have shifted : ((first - origin : Int) : ℚ) ≤ ((second - origin : Int) : ℚ) := by
    exact_mod_cast sub_le_sub_right ordered origin
  have rounded := llround_mono (mul_le_mul_of_nonneg_right shifted positive)
  omega

private theorem abs_applyModel_sub_le (first second origin unixOrigin : Int) (scale : ℚ) :
    |((applyModel second origin unixOrigin scale - applyModel first origin unixOrigin scale :
        Int) : ℚ) - ((second - first : Int) : ℚ) * scale| ≤ 1 := by
  have rounding := abs_llround_sub_llround_le
    (((second - origin : Int) : ℚ) * scale) (((first - origin : Int) : ℚ) * scale)
  unfold applyModel
  push_cast at rounding ⊢
  have regroup : (unixOrigin + (llround ((second - origin : ℚ) * scale) : ℚ) -
        (unixOrigin + (llround ((first - origin : ℚ) * scale) : ℚ))) -
        (second - first : ℚ) * scale =
      ((llround ((second - origin : ℚ) * scale) : ℚ) -
        (llround ((first - origin : ℚ) * scale) : ℚ)) -
        ((second - origin : ℚ) * scale - (first - origin : ℚ) * scale) := by
    ring
  rw [regroup]
  exact rounding

/-- What a drift limit in parts per million says about the conversion. -/
structure PreservesDurations (calibration : ClockCalibration) : Prop where
  ordered : ∀ first second, first ≤ second →
    calibration.convert first ≤ calibration.convert second
  duration : ∀ first second, first ≤ second →
    |((calibration.convert second - calibration.convert first : Int) : ℚ) -
        ((second - first : Int) : ℚ)| ≤
      ((second - first : Int) : ℚ) * calibration.config.maximumDriftPpm / 10 ^ 6 + 1

private theorem Phase.preservesDurations {calibration : ClockCalibration}
    (phase : Phase calibration.config calibration.status)
    (drift : 0 ≤ calibration.config.maximumDriftPpm)
    (limit : calibration.config.maximumDriftPpm < 10 ^ 6) :
    PreservesDurations calibration := by
  have bounded := phase.scale_bounded drift
  have near : |calibration.status.scale - 1| ≤ calibration.config.maximumDriftPpm / 10 ^ 6 := by
    rw [le_div_iff₀ (by norm_num)]
    norm_num
    exact bounded
  have positive : 0 ≤ calibration.status.scale := by
    have below : calibration.config.maximumDriftPpm / 10 ^ 6 < 1 := by
      rw [div_lt_one (by norm_num)]
      exact limit
    have distance := abs_le.mp near
    linarith [distance.1]
  refine ⟨fun first second ordered => applyModel_mono positive ordered, ?_⟩
  intro first second ordered
  have elapsed : (0 : ℚ) ≤ ((second - first : Int) : ℚ) := by
    exact_mod_cast sub_nonneg.mpr ordered
  have rounding := abs_applyModel_sub_le first second calibration.status.macOriginNs
    calibration.status.unixOriginNs calibration.status.scale
  have stretch :
      |((second - first : Int) : ℚ) * calibration.status.scale - ((second - first : Int) : ℚ)| ≤
        ((second - first : Int) : ℚ) * calibration.config.maximumDriftPpm / 10 ^ 6 := by
    have factored : ((second - first : Int) : ℚ) * calibration.status.scale -
        ((second - first : Int) : ℚ) =
        ((second - first : Int) : ℚ) * (calibration.status.scale - 1) := by
      ring
    rw [factored, abs_mul, abs_of_nonneg elapsed, mul_div_assoc]
    exact mul_le_mul_of_nonneg_left near elapsed
  calc |((calibration.convert second - calibration.convert first : Int) : ℚ) -
          ((second - first : Int) : ℚ)|
      ≤ |((calibration.convert second - calibration.convert first : Int) : ℚ) -
            ((second - first : Int) : ℚ) * calibration.status.scale| +
          |((second - first : Int) : ℚ) * calibration.status.scale -
            ((second - first : Int) : ℚ)| := abs_sub_le _ _ _
    _ ≤ 1 + ((second - first : Int) : ℚ) * calibration.config.maximumDriftPpm / 10 ^ 6 :=
        add_le_add rounding stretch
    _ = ((second - first : Int) : ℚ) * calibration.config.maximumDriftPpm / 10 ^ 6 + 1 :=
        add_comm _ _

theorem preservesDurations_of_reachable {std : StdSort} {config : Config} {tracked : Tracked}
    (drift : 0 ≤ config.maximumDriftPpm) (limit : config.maximumDriftPpm < 10 ^ 6)
    (reachable : (calibrationSystem std config).Reachable tracked) :
    PreservesDurations tracked.calibration := by
  have same := config_of_reachable reachable
  refine (phase_of_reachable reachable).preservesDurations ?_ ?_
  · rw [same]
    exact drift
  · rw [same]
    exact limit

end SflowMiddle.Calibration

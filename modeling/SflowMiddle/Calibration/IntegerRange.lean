/-
The 64-bit range of the conversion. Readings lie in a box: device times below 2^32
seconds, host times up to 2^62. Every model the calibration installs is a line
through that box, whatever samples it was made from, and a line of a slope within
a thousandth of one leaves no room for an overflow.
-/

import SflowMiddle.Calibration.Conversion
import SflowMiddle.Calibration.OptimalLine
import SflowMiddle.Clock.ClockSampler

namespace SflowMiddle.Calibration

open SflowMiddle.Foundation
open ClockCalibration
open SflowMiddle.Clock (kNanosecondsPerSecond)

def deviceRangeNs : Int := 2 ^ 32 * 10 ^ 9

def hostRangeNs : Int := 2 ^ 62

private theorem deviceRangeNs_pos : 0 < deviceRangeNs := by decide

/-- What `static_cast<int64_t>(sec) * kNanosecondsPerSecond + nsec` evaluates to. -/
def deviceTimeNs (sec nsec : UInt32) : Int :=
  sec.toNat * kNanosecondsPerSecond + nsec.toNat

def InInt64 (value : Int) : Prop := -2 ^ 63 < value ∧ value < 2 ^ 63

/-- A sample of clocks inside their ranges. -/
structure Reading (sample : TimeSample) : Prop where
  macPositive : 0 < sample.macNs
  macBelow : sample.macNs < deviceRangeNs
  unixPositive : 0 < sample.unixNs
  unixAtMost : sample.unixNs ≤ hostRangeNs

/-- Only samples inside the ranges are given to the object. -/
def GivesReadings (_ : Tracked) (call : CalibrationCall) : Prop :=
  ∀ sample ∈ call.samples, Reading sample

private theorem deviceTimeNs_range (sec : UInt32) {nsec : UInt32}
    (valid : (nsec.toNat : Int) < kNanosecondsPerSecond) :
    0 ≤ deviceTimeNs sec nsec ∧ deviceTimeNs sec nsec < deviceRangeNs := by
  have seconds := sec.toNat_lt
  unfold deviceTimeNs deviceRangeNs kNanosecondsPerSecond at *
  omega

/-! ### Lines through the box of the readings -/

/-- The model is anchored at a device time and, up to the rounding of its origin, is a line
through a point of the box. -/
structure ThroughBox (status : CalibrationStatus) : Prop where
  origin : 0 ≤ status.macOriginNs ∧ status.macOriginNs < deviceRangeNs
  point : ∃ mac unix : ℚ, (0 ≤ mac ∧ mac ≤ deviceRangeNs) ∧ (0 ≤ unix ∧ unix ≤ hostRangeNs) ∧
    |(status.unixOriginNs : ℚ) - (unix + status.scale * (status.macOriginNs - mac))| ≤ 1 / 2

private theorem throughBox_reset (calibration : ClockCalibration) :
    ThroughBox calibration.reset.status := by
  refine ⟨⟨le_refl 0, deviceRangeNs_pos⟩, 0, 0, ?_, ?_, ?_⟩
  · norm_num [deviceRangeNs]
  · norm_num [hostRangeNs]
  · norm_num [reset]

private theorem throughBox_anchorStatus (status : CalibrationStatus) {sample : TimeSample}
    (reading : Reading sample) : ThroughBox (anchorStatus status sample) := by
  refine ⟨⟨reading.macPositive.le, reading.macBelow⟩, sample.macNs, sample.unixNs, ?_, ?_, ?_⟩
  · exact ⟨by exact_mod_cast reading.macPositive.le, by exact_mod_cast reading.macBelow.le⟩
  · exact ⟨by exact_mod_cast reading.unixPositive.le, by exact_mod_cast reading.unixAtMost⟩
  · norm_num [anchorStatus]

/-- The offset of the startup model is between the offsets of two readings, so the line of
that offset crosses an edge of the box. -/
private theorem throughBox_setOffsetModel (calibration : ClockCalibration)
    {samples : List TimeSample}
    (nonempty : samples ≠ []) (readings : ∀ sample ∈ samples, Reading sample) :
    ThroughBox (calibration.setOffsetModel samples).status := by
  have offsets := @median_between (samples.map fun sample => sample.unixNs - sample.macNs)
    (-deviceRangeNs) hostRangeNs (by simpa using nonempty) (by
      intro offset member
      obtain ⟨sample, sampleMember, rfl⟩ := List.mem_map.mp member
      have reading := readings sample sampleMember
      have := reading.macPositive
      have := reading.macBelow
      have := reading.unixPositive
      have := reading.unixAtMost
      omega)
  set offset := median (samples.map fun sample => sample.unixNs - sample.macNs) with chosen
  have lowest := offsets.1
  have highest := offsets.2
  have best : Reading ((minElement TimeSample.latencyNs samples).getD {}) := by
    cases samples with
    | nil => exact absurd rfl nonempty
    | cons first rest => exact readings _ (minElementFrom_mem TimeSample.latencyNs first rest)
  have device := deviceRangeNs_pos
  have host : 0 < hostRangeNs := by decide
  have crossing : max 0 offset - max 0 (-offset) = offset := by omega
  refine ⟨⟨best.macPositive.le, best.macBelow⟩, (max 0 (-offset) : Int), (max 0 offset : Int),
    ?_, ?_, ?_⟩
  · constructor
    · exact_mod_cast le_max_left 0 (-offset)
    · exact_mod_cast (by omega : max 0 (-offset) ≤ deviceRangeNs)
  · constructor
    · exact_mod_cast le_max_left 0 offset
    · exact_mod_cast (by omega : max 0 offset ≤ hostRangeNs)
  · have exact : ((calibration.setOffsetModel samples).status.unixOriginNs : ℚ) =
        (max 0 offset : Int) + (calibration.setOffsetModel samples).status.scale *
          ((calibration.setOffsetModel samples).status.macOriginNs - (max 0 (-offset) : Int)) := by
      have origin : (calibration.setOffsetModel samples).status.unixOriginNs =
          (calibration.setOffsetModel samples).status.macOriginNs + offset := rfl
      have unit : (calibration.setOffsetModel samples).status.scale = 1 := rfl
      rw [unit, one_mul, origin]
      exact_mod_cast (by omega)
    rw [exact, sub_self, abs_zero]
    norm_num

private theorem throughBox_fitted {calibration fitted : ClockCalibration}
    (readings : ∀ sample ∈ calibration.samples, Reading sample)
    (success : calibration.fit = some fitted) : ThroughBox fitted.status := by
  obtain ⟨kept, origin, scale, fittedUnixOrigin, enough, front, fewer, line, _, written⟩ :=
    fit_eq_some success
  have nonempty : kept ≠ [] := List.length_pos_iff.mp (by omega)
  have keptReadings : ∀ sample ∈ kept, Reading sample :=
    fun sample member => readings sample (fewer.subset member)
  have first := keptReadings origin (List.mem_of_head? front)
  have mac := mean_between (macOffset origin.macNs) (-origin.macNs)
    (deviceRangeNs - origin.macNs) nonempty (by
      intro sample member
      have reading := keptReadings sample member
      have positive : (0 : ℚ) < sample.macNs := by exact_mod_cast reading.macPositive
      have below : (sample.macNs : ℚ) < deviceRangeNs := by exact_mod_cast reading.macBelow
      unfold macOffset
      push_cast
      constructor <;> linarith)
  have unix := mean_between (unixOffset origin.unixNs) (-origin.unixNs)
    (hostRangeNs - origin.unixNs) nonempty (by
      intro sample member
      have reading := keptReadings sample member
      have positive : (0 : ℚ) < sample.unixNs := by exact_mod_cast reading.unixPositive
      have atMost : (sample.unixNs : ℚ) ≤ hostRangeNs := by exact_mod_cast reading.unixAtMost
      unfold unixOffset
      push_cast
      constructor <;> linarith)
  rw [written]
  refine ⟨⟨first.macPositive.le, first.macBelow⟩, origin.macNs + mean (macOffset origin.macNs) kept,
    origin.unixNs + mean (unixOffset origin.unixNs) kept, ?_, ?_, ?_⟩
  · constructor <;> linarith [mac.1, mac.2]
  · constructor <;> linarith [unix.1, unix.2]
  · have rounded := abs_llround_sub_le (originAdjustment kept origin.macNs origin.unixNs scale)
    have difference : (fittedUnixOrigin : ℚ) -
        (origin.unixNs + mean (unixOffset origin.unixNs) kept +
          scale * (origin.macNs - (origin.macNs + mean (macOffset origin.macNs) kept))) =
          (llround (originAdjustment kept origin.macNs origin.unixNs scale) : ℚ) -
            originAdjustment kept origin.macNs origin.unixNs scale := by
      rw [(fitLine_eq_some line).2.2]
      unfold originAdjustment
      push_cast
      ring
    dsimp only
    rw [difference]
    exact rounded

/-! ### The model over a run -/

/-- Every retained sample is a reading and the model is a line through the box. -/
structure InBox (calibration : ClockCalibration) : Prop where
  samples : ∀ sample ∈ calibration.samples, Reading sample
  model : ThroughBox calibration.status

private theorem inBox_fitIfDue {calibration : ClockCalibration} (inside : InBox calibration) :
    InBox calibration.fitIfDue := by
  refine ⟨?_, ?_⟩
  · rw [(fitIfDue_frame calibration).2.1]
    exact inside.samples
  · rcases fitIfDue_cases calibration with same | ⟨after, _, fitted, installed⟩
    · rw [same]
      exact inside.model
    · rw [installed]
      exact throughBox_fitted inside.samples fitted

private theorem inBox_absorb {calibration : ClockCalibration} (inside : InBox calibration)
    {sample : TimeSample} (reading : Reading sample) : InBox (calibration.absorb sample) := by
  have extended : ∀ item ∈ calibration.samples ++ [sample], Reading item := by
    intro item member
    rcases List.mem_append.mp member with old | new
    · exact inside.samples item old
    · rw [List.mem_singleton.mp new]
      exact reading
  have trimmed : ∀ updated : ClockCalibration, InBox updated →
      InBox ((updated.recordLast sample).trimWindow sample) := by
    intro updated kept
    refine ⟨?_, kept.model.origin, kept.model.point⟩
    intro item member
    exact kept.samples item ((List.dropWhile_sublist _).subset member)
  unfold absorb
  apply trimmed
  split
  · exact ⟨extended, throughBox_anchorStatus _ reading⟩
  · split
    · refine ⟨?_, throughBox_anchorStatus _ reading⟩
      intro item member
      rw [List.mem_singleton.mp member]
      exact reading
    · exact ⟨extended, inside.model.origin, inside.model.point⟩

private theorem inBox_addSample {calibration : ClockCalibration} (inside : InBox calibration)
    {sample : TimeSample} (reading : Reading sample) :
    InBox (calibration.addSample sample).2 := by
  by_cases admitted : calibration.config.Admits sample
  · rw [addSample_of_admits admitted]
    exact inBox_fitIfDue (inBox_absorb inside reading)
  · rw [addSample_of_not_admits admitted]
    exact ⟨inside.samples, inside.model.origin, inside.model.point⟩

private theorem inBox_initializeFrom (std : StdSort) (calibration : ClockCalibration)
    {samples : List TimeSample} (readings : ∀ sample ∈ samples, Reading sample) :
    InBox (calibration.initializeFrom std samples).2 := by
  refine ⟨?_, ?_⟩
  · rw [initializeFrom_samples]
    split
    · intro sample member
      exact readings sample (mem_startupSelection member).1
    · intro sample member
      cases member
  · rw [initializeFrom_eq]
    split
    · have model := throughBox_reset calibration
      exact ⟨model.origin, model.point⟩
    · rename_i enough
      have model := throughBox_setOffsetModel (emptied calibration samples)
        (startupBest_ne_nil std (not_lt.mp enough)) (by
          intro sample member
          have accepted := (std.mem_sort _ _ _).mp (List.mem_of_mem_take member)
          exact readings sample (List.mem_filter.mp accepted).1)
      exact ⟨model.origin, model.point⟩

theorem inBox_of_reachable {std : StdSort} {config : Config} {tracked : Tracked}
    (reachable : ((calibrationSystem std config).restrict GivesReadings).Reachable tracked) :
    InBox tracked.calibration := by
  refine reachable.invariant (fun state => InBox state.calibration) ?_ ?_
  · intro state initial
    rw [initial]
    have model := throughBox_reset { config := config }
    exact ⟨fun sample member => (List.not_mem_nil member).elim, model.origin, model.point⟩
  · rintro before call after ⟨readings, step⟩ inside
    rw [step]
    cases call with
    | initializeFrom samples => exact inBox_initializeFrom std before.calibration readings
    | addSample sample =>
        exact inBox_addSample inside (readings sample (List.mem_singleton_self sample))
    | reset =>
        exact ⟨fun sample member => (List.not_mem_nil member).elim,
          throughBox_reset before.calibration⟩

/-! ### What the bounds leave room for -/

/-- The furthest a model of such a slope moves a device time from its origin. -/
def reachNs : ℚ := 1001 / 1000 * deviceRangeNs

private theorem box_suffices : (hostRangeNs : ℚ) + reachNs + 1 < 2 ^ 63 := by
  norm_num [hostRangeNs, reachNs, deviceRangeNs]

private theorem inInt64_of_abs_lt {value : Int} (small : |(value : ℚ)| < 2 ^ 63) :
    InInt64 value := by
  obtain ⟨lower, upper⟩ := abs_lt.mp small
  exact ⟨by exact_mod_cast lower, by exact_mod_cast upper⟩

private theorem abs_stretched_le {scale elapsed : ℚ} (drift : |scale - 1| ≤ 1 / 1000)
    (within : |elapsed| ≤ deviceRangeNs) : |elapsed * scale| ≤ reachNs := by
  have steep : |scale| ≤ 1001 / 1000 := by
    obtain ⟨lower, upper⟩ := abs_le.mp drift
    rw [abs_le]
    constructor <;> linarith
  rw [abs_mul, mul_comm]
  exact mul_le_mul steep within (abs_nonneg elapsed) (by norm_num)

/-- Everything the conversion computes for device times of the wire format, and the
difference that the model-step test takes. -/
structure ConversionFits (calibration : ClockCalibration) : Prop where
  macOrigin : InInt64 calibration.status.macOriginNs
  unixOrigin : InInt64 calibration.status.unixOriginNs
  elapsed : ∀ sec nsec : UInt32, (nsec.toNat : Int) < kNanosecondsPerSecond →
    InInt64 (deviceTimeNs sec nsec - calibration.status.macOriginNs)
  product : ∀ sec nsec : UInt32, (nsec.toNat : Int) < kNanosecondsPerSecond →
    InInt64 (llround (((deviceTimeNs sec nsec - calibration.status.macOriginNs : Int) : ℚ) *
      calibration.status.scale))
  sum : ∀ sec nsec : UInt32, (nsec.toNat : Int) < kNanosecondsPerSecond →
    InInt64 (calibration.convert (deviceTimeNs sec nsec))
  modelError : ∀ sample, Reading sample →
    InInt64 (calibration.convert sample.macNs - sample.unixNs)

section Bounds

variable {calibration : ClockCalibration} (model : ThroughBox calibration.status)
  (drift : |calibration.status.scale - 1| ≤ 1 / 1000)

include model

private theorem ThroughBox.elapsed_lt {reading : Int} (lower : 0 ≤ reading)
    (upper : reading < deviceRangeNs) :
    |((reading - calibration.status.macOriginNs : Int) : ℚ)| ≤ deviceRangeNs := by
  have origin := model.origin
  rw [← Int.cast_abs]
  have within : |reading - calibration.status.macOriginNs| ≤ deviceRangeNs := by
    rw [abs_le]
    omega
  exact_mod_cast within

include drift

private theorem ThroughBox.convert_range {reading : Int} (lower : 0 ≤ reading)
    (upper : reading < deviceRangeNs) :
    -reachNs - 1 ≤ calibration.convert reading ∧
      (calibration.convert reading : ℚ) ≤ hostRangeNs + reachNs + 1 := by
  obtain ⟨mac, unix, macWithin, unixWithin, through⟩ := model.point
  have rounded := abs_le.mp (abs_llround_sub_le
    (((reading - calibration.status.macOriginNs : Int) : ℚ) * calibration.status.scale))
  have origin := abs_le.mp through
  have first : (0 : ℚ) ≤ reading := by exact_mod_cast lower
  have last : (reading : ℚ) ≤ deviceRangeNs := by exact_mod_cast upper.le
  have moved := abs_le.mp (abs_stretched_le drift
    (abs_le.mpr ⟨by linarith, by linarith⟩ : |(reading : ℚ) - mac| ≤ deviceRangeNs))
  have regroup : ((reading - calibration.status.macOriginNs : Int) : ℚ) *
        calibration.status.scale +
          calibration.status.scale * (calibration.status.macOriginNs - mac) =
      ((reading : ℚ) - mac) * calibration.status.scale := by
    push_cast
    ring
  unfold convert applyModel
  push_cast at rounded regroup ⊢
  constructor <;> linarith

private theorem ThroughBox.unixOrigin_fits : InInt64 calibration.status.unixOriginNs := by
  have range := model.convert_range drift model.origin.1 model.origin.2
  have atOrigin : calibration.convert calibration.status.macOriginNs =
      calibration.status.unixOriginNs := by
    unfold convert applyModel
    rw [sub_self, Int.cast_zero, zero_mul, llround_zero, add_zero]
  rw [atOrigin] at range
  have room := box_suffices
  have host : (0 : ℚ) ≤ hostRangeNs := by norm_num [hostRangeNs]
  exact inInt64_of_abs_lt (abs_lt.mpr ⟨by linarith, by linarith⟩)

private theorem ThroughBox.conversionFits : ConversionFits calibration := by
  have room := box_suffices
  have host : (0 : ℚ) ≤ hostRangeNs := by norm_num [hostRangeNs]
  have device : deviceRangeNs < 2 ^ 63 := by decide
  have origin := model.origin
  refine ⟨⟨by omega, by omega⟩, model.unixOrigin_fits drift, ?_, ?_, ?_, ?_⟩
  · intro sec nsec valid
    obtain ⟨lower, upper⟩ := deviceTimeNs_range sec valid
    exact ⟨by omega, by omega⟩
  · intro sec nsec valid
    obtain ⟨lower, upper⟩ := deviceTimeNs_range sec valid
    have stretched := abs_le.mp (abs_stretched_le drift (model.elapsed_lt lower upper))
    have rounded := abs_le.mp (abs_llround_sub_le
      (((deviceTimeNs sec nsec - calibration.status.macOriginNs : Int) : ℚ) *
        calibration.status.scale))
    exact inInt64_of_abs_lt (abs_lt.mpr ⟨by linarith, by linarith⟩)
  · intro sec nsec valid
    obtain ⟨lower, upper⟩ := deviceTimeNs_range sec valid
    have range := model.convert_range drift lower upper
    exact inInt64_of_abs_lt (abs_lt.mpr ⟨by linarith, by linarith⟩)
  · intro sample reading
    have range := model.convert_range drift reading.macPositive.le reading.macBelow
    have positive : (0 : ℚ) < sample.unixNs := by exact_mod_cast reading.unixPositive
    have atMost : (sample.unixNs : ℚ) ≤ hostRangeNs := by exact_mod_cast reading.unixAtMost
    apply inInt64_of_abs_lt
    push_cast
    exact abs_lt.mpr ⟨by linarith, by linarith⟩

end Bounds

/-- No step of a conversion overflows, after any calls on readings and with a drift limit of
at most a thousand ppm. -/
theorem conversion_fits {std : StdSort} {config : Config} {tracked : Tracked}
    (drift : 0 ≤ config.maximumDriftPpm) (limit : config.maximumDriftPpm ≤ 1000)
    (reachable : ((calibrationSystem std config).restrict GivesReadings).Reachable tracked) :
    ConversionFits tracked.calibration := by
  have same := config_of_reachable reachable.of_restrict
  have bounded :=
    (phase_of_reachable reachable.of_restrict).scale_bounded (by rw [same]; exact drift)
  rw [same] at bounded
  have near : |tracked.calibration.status.scale - 1| ≤ 1 / 1000 := by linarith
  exact (inBox_of_reachable reachable).model.conversionFits near

def extremeSample : TimeSample where
  macNs := deviceRangeNs - 1
  unixNs := hostRangeNs
  monotonicNs := 1
  latencyNs := 1

private theorem extremeSample_reachable :
    ((calibrationSystem .insertion {}).restrict GivesReadings).Reachable
      ((Tracked.mk {} []).perform .insertion (.addSample extremeSample)) := by
  have readings : GivesReadings (Tracked.mk {} []) (.addSample extremeSample) := by
    intro sample member
    rw [List.mem_singleton.mp member]
    exact ⟨by decide, by decide, by decide, by decide⟩
  exact .next (.start rfl) ⟨readings, rfl⟩

theorem conversion_fits_extreme :
    ConversionFits ((({} : ClockCalibration).addSample extremeSample).2) :=
  conversion_fits (by norm_num) (by norm_num) extremeSample_reachable

end SflowMiddle.Calibration

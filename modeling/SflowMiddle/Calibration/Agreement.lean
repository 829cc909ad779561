/-
How far the model is from the sample it just accepted. The step bound is checked
before the fit runs: anchoring makes the model exact on the sample and keeping it
leaves the checked bound, but a regression is installed without checking it again.
-/

import SflowMiddle.Calibration.Runs

namespace SflowMiddle.Calibration

open SflowMiddle.Foundation
open ClockCalibration

/-- The call ends by installing a regression. -/
def Refits (calibration : ClockCalibration) (sample : TimeSample) : Prop :=
  (calibration.absorb sample).FitDue ∧ (calibration.absorb sample).fit.isSome

private theorem fitIfDue_of_not_refits {calibration : ClockCalibration} {sample : TimeSample}
    (keeps : ¬ Refits calibration sample) :
    (calibration.absorb sample).fitIfDue = calibration.absorb sample := by
  rcases fitIfDue_cases (calibration.absorb sample) with same | ⟨after, due, fitted, _⟩
  · exact same
  · exact absurd ⟨due, by rw [fitted]; rfl⟩ keeps

@[simp]
theorem applyModel_origin (macOrigin unixOrigin : Int) (scale : ℚ) :
    applyModel macOrigin macOrigin unixOrigin scale = unixOrigin := by
  unfold applyModel
  simp

private theorem absorb_agrees {calibration : ClockCalibration} {sample : TimeSample}
    (threshold : 0 ≤ calibration.config.modelStepThresholdNs) :
    |(calibration.absorb sample).convert sample.macNs - sample.unixNs| ≤
      calibration.config.modelStepThresholdNs := by
  by_cases anchors : Anchors calibration sample
  · have exactly : (calibration.absorb sample).convert sample.macNs = sample.unixNs := by
      unfold absorb
      by_cases invalid : calibration.status.valid = false
      · rw [if_pos invalid]
        exact applyModel_origin _ _ _
      · rw [if_neg invalid, if_pos (anchors.resolve_left invalid)]
        exact applyModel_origin _ _ _
    rw [exactly, sub_self, abs_zero]
    exact threshold
  · rw [absorb_kept anchors]
    have within : ¬ calibration.modelStep sample :=
      fun steps => anchors (Or.inr (Or.inr (Or.inr steps)))
    exact not_lt.mp within

/-- An accepted sample that does not trigger a regression agrees with the model within the
step threshold; one that does leaves the least-squares line of at least four retained
samples, within the drift limit. -/
theorem accepted_sample_agrees (calibration : ClockCalibration) (sample : TimeSample)
    (threshold : 0 ≤ calibration.config.modelStepThresholdNs)
    (accepted : (calibration.addSample sample).1 = true) :
    (¬ Refits calibration sample →
      ∃ unixNs, (calibration.addSample sample).2.toUnixNanoseconds sample.macNs = .ok unixNs ∧
        |unixNs - sample.unixNs| ≤ calibration.config.modelStepThresholdNs) ∧
      (Refits calibration sample →
        ∃ kept origin, kept.Sublist (calibration.addSample sample).2.samples ∧
          4 ≤ kept.length ∧ kept.head? = some origin ∧
          (calibration.addSample sample).2.status.macOriginNs = origin.macNs ∧
          fitLine kept origin.macNs origin.unixNs =
            some ((calibration.addSample sample).2.status.scale,
              (calibration.addSample sample).2.status.unixOriginNs) ∧
          |(calibration.addSample sample).2.status.scale - 1| * 1000000 ≤
            calibration.config.maximumDriftPpm) := by
  rw [addSample_of_admits (addSample_true_iff.mp accepted)]
  constructor
  · intro keeps
    refine ⟨(calibration.absorb sample).convert sample.macNs, ?_, absorb_agrees threshold⟩
    dsimp only
    rw [fitIfDue_of_not_refits keeps]
    exact if_neg (by simp [absorb_valid])
  · rintro ⟨due, installs⟩
    obtain ⟨after, fitted⟩ := Option.isSome_iff_exists.mp installs
    dsimp only
    rw [fitIfDue_of_fit due fitted]
    obtain ⟨kept, origin, finalScale, fittedUnixOrigin, enough, front, within, line, bounded,
      rfl⟩ := fit_eq_some fitted
    rw [absorb_config] at bounded
    exact ⟨kept, origin, within, enough, front, rfl, line, bounded⟩

/-- The sample after the trimming keeps the line that the tenth one installed. -/
theorem accepted_sample_agrees_late :
    (∃ unixNs, ((Tracked.ofCalls trimmedRun).calibration.addSample
        (lateSample 64000)).2.toUnixNanoseconds (lateSample 64000).macNs = .ok unixNs ∧
      |unixNs - (lateSample 64000).unixNs| ≤ 20000000) ∧
      ∃ (kept : List TimeSample) (origin : TimeSample),
        kept.Sublist (Tracked.ofCalls lateRun).calibration.samples ∧
        4 ≤ kept.length ∧ fitLine kept origin.macNs origin.unixNs =
          some ((Tracked.ofCalls lateRun).calibration.status.scale,
            (Tracked.ofCalls lateRun).calibration.status.unixOriginNs) := by
  constructor
  · have keeps : ¬ Refits (Tracked.ofCalls trimmedRun).calibration (lateSample 64000) := by
      unfold Refits
      decide +kernel
    obtain ⟨unixNs, converted, near⟩ :=
      (accepted_sample_agrees (Tracked.ofCalls trimmedRun).calibration (lateSample 64000)
        (by decide +kernel) (by decide +kernel)).1 keeps
    exact ⟨unixNs, converted, near.trans (by decide +kernel)⟩
  · have refits : Refits (Tracked.ofCalls lateRun.dropLast).calibration (lateSample 3001) := by
      unfold Refits
      decide +kernel
    obtain ⟨kept, origin, within, enough, _, _, fitted, _⟩ :=
      (accepted_sample_agrees (Tracked.ofCalls lateRun.dropLast).calibration (lateSample 3001)
        (by decide +kernel) (by decide +kernel)).2 refits
    exact ⟨kept, origin, within, enough, fitted⟩

/-! ### A regression that leaves the newest sample outside the bound -/

def driftingSamples : List TimeSample :=
  [0, 1, 2, 3, 4, 5, 6, 7, 8].map fun count : Nat =>
    { macNs := 10000000000 + 2000000000 * count
      unixNs := 10000000000 + 2002000000 * count
      monotonicNs := 10000000000 + 2002000000 * count
      latencyNs := 1 }

def driftingRun : Tracked :=
  .ofCalls (driftingSamples.map CalibrationCall.addSample)

def laggingSample : TimeSample :=
  { macNs := 28000000000, unixNs := 27982000000, monotonicNs := 27982000000, latencyNs := 1 }

theorem regression_breaks_step_bound :
    ∃ std config tracked sample, 0 ≤ config.hostStepThresholdNs ∧
      0 ≤ config.modelStepThresholdNs ∧
      (calibrationSystem std config).Reachable tracked ∧
      (tracked.calibration.addSample sample).1 = true ∧
      ∃ unixNs, (tracked.calibration.addSample sample).2.toUnixNanoseconds sample.macNs =
          .ok unixNs ∧ ¬ |unixNs - sample.unixNs| ≤ config.modelStepThresholdNs := by
  refine ⟨StdSort.insertion, {}, driftingRun, laggingSample, by decide, by decide,
    reachable_foldl _ (.start rfl), by decide +kernel, 28005563637, by decide +kernel,
    by decide +kernel⟩

end SflowMiddle.Calibration

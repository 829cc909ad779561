/-
What the residual filter leaves of the window. The regression span is tested on the
whole window; the installed line comes from the inliers of a first line, which are
at least half of the window but may all be close together.
-/

import SflowMiddle.Calibration.Agreement

namespace SflowMiddle.Calibration

open SflowMiddle.Foundation
open ClockCalibration

/-! ### Half of the values are not above their median -/

private theorem lower_le_median {values : List Int} (nonempty : values ≠ []) :
    nthElement values ((values.length - 1) / 2) ≤ median values := by
  have inside : 0 < values.length := List.length_pos_iff.mpr nonempty
  unfold median
  rw [if_neg (by simpa using nonempty)]
  dsimp only
  split
  · rename_i odd
    have middle : (values.length - 1) / 2 = values.length / 2 := by omega
    rw [middle]
  · rename_i even
    have middle : (values.length - 1) / 2 = values.length / 2 - 1 := by omega
    rw [middle]
    exact (truncMidpoint_bounds (nthElement_mono (by omega) (by omega))).1

private theorem half_le_countP_median {values : List Int} (nonempty : values ≠ []) :
    values.length ≤ 2 * values.countP (fun value => value ≤ median values) := by
  have inside : 0 < values.length := List.length_pos_iff.mpr nonempty
  have lower := lower_le_median nonempty
  have many := lt_countP_le_nthElement ((values.length - 1) / 2)
    (by omega : (values.length - 1) / 2 < values.length)
  have weaker : values.countP
        (fun value => value ≤ nthElement values ((values.length - 1) / 2)) ≤
      values.countP (fun value => value ≤ median values) := by
    apply List.countP_mono_left
    intro value _ below
    exact decide_eq_true ((of_decide_eq_true below).trans lower)
  omega

private theorem median_nonneg {values : List Int} (nonneg : ∀ value ∈ values, 0 ≤ value) :
    0 ≤ median values := by
  by_cases empty : values = []
  · rw [empty]
    decide
  · have inside : 0 < values.length := List.length_pos_iff.mpr empty
    exact (nonneg _ (nthElement_mem _ (by omega))).trans (lower_le_median empty)

private theorem half_le_inliers (candidates : List TimeSample) (macOrigin unixOrigin : Int)
    (scale : ℚ) :
    candidates.length ≤ 2 * (inliers candidates macOrigin unixOrigin scale).length := by
  by_cases empty : candidates = []
  · rw [empty]
    exact Nat.zero_le _
  · obtain ⟨residuals, residualsAre⟩ : ∃ residuals,
        residuals = candidates.map (ClockCalibration.residual macOrigin unixOrigin scale) :=
      ⟨_, rfl⟩
    obtain ⟨deviations, deviationsAre⟩ : ∃ deviations,
        deviations = residuals.map (fun value => |value - median residuals|) := ⟨_, rfl⟩
    have nonempty : deviations ≠ [] := by
      rw [deviationsAre, residualsAre]
      simpa using empty
    have nonneg : 0 ≤ median deviations := by
      apply median_nonneg
      intro value member
      rw [deviationsAre] at member
      obtain ⟨source, _, same⟩ := List.mem_map.mp member
      rw [← same]
      exact abs_nonneg _
    have passes : median deviations ≤ inlierThreshold residuals := by
      unfold inlierThreshold
      rw [← deviationsAre]
      exact le_trans (by omega) (le_max_right _ _)
    have count : ∀ bound, bound ≤ inlierThreshold residuals →
        deviations.countP (fun value => value ≤ bound) ≤
          (inliers candidates macOrigin unixOrigin scale).length := by
      intro bound within
      unfold inliers
      rw [← List.countP_eq_length_filter, ← residualsAre, deviationsAre, residualsAre,
        List.map_map, List.countP_map, ← residualsAre]
      apply List.countP_mono_left
      intro sample _ below
      exact decide_eq_true ((of_decide_eq_true below).trans within)
    have length : deviations.length = candidates.length := by
      rw [deviationsAre, residualsAre, List.length_map, List.length_map]
    have half := half_le_countP_median nonempty
    have enough := count _ passes
    omega

/-- Whatever line the residuals are taken from, the filter keeps at least half of the
samples. Wherever `addSample` lets the fit run, that is more than the four the fit asks for,
so its early exit is never taken and the first and the last inlier exist. -/
theorem filter_keeps_half :
    (∀ candidates macOrigin unixOrigin scale,
      (candidates.length + 1) / 2 ≤ (inliers candidates macOrigin unixOrigin scale).length) ∧
    ∀ (calibration : ClockCalibration) (macOrigin unixOrigin : Int) (scale : ℚ),
      calibration.FitDue →
      ¬ (inliers calibration.samples macOrigin unixOrigin scale).length < 4 ∧
        ∃ front back,
          (inliers calibration.samples macOrigin unixOrigin scale).head? = some front ∧
          (inliers calibration.samples macOrigin unixOrigin scale).getLast? = some back := by
  constructor
  · intro candidates macOrigin unixOrigin scale
    have half := half_le_inliers candidates macOrigin unixOrigin scale
    omega
  · intro calibration macOrigin unixOrigin scale due
    have half := half_le_inliers calibration.samples macOrigin unixOrigin scale
    have ten := due.1
    have enough : ¬ (inliers calibration.samples macOrigin unixOrigin scale).length < 4 := by
      omega
    have nonempty : inliers calibration.samples macOrigin unixOrigin scale ≠ [] := by
      apply List.ne_nil_of_length_pos
      omega
    exact ⟨enough, _, _, List.head?_eq_some_head nonempty,
      List.getLast?_eq_some_getLast nonempty⟩

/-! ### The baseline of an installed line -/

/-- An installed regression was due on a window of at least ten samples that spans the
minimum; its line is that of the inliers, at least half of the window and in its order, and
the reported count, span and device origin are those of the inliers. -/
theorem installed_line_baseline (calibration : ClockCalibration) (sample : TimeSample)
    (accepted : (calibration.addSample sample).1 = true) (refits : Refits calibration sample) :
    ∃ front initialScale initialUnixOrigin kept origin,
      10 ≤ (calibration.addSample sample).2.samples.length ∧
      calibration.config.minimumRegressionSpanNs ≤
        spanNs (calibration.addSample sample).2.samples ∧
      (calibration.addSample sample).2.samples.head? = some front ∧
      fitLine (calibration.addSample sample).2.samples front.macNs front.unixNs =
        some (initialScale, initialUnixOrigin) ∧
      kept = inliers (calibration.addSample sample).2.samples front.macNs initialUnixOrigin
        initialScale ∧
      (calibration.addSample sample).2.samples.length ≤ 2 * kept.length ∧
      kept.head? = some origin ∧
      (calibration.addSample sample).2.status.macOriginNs = origin.macNs ∧
      fitLine kept origin.macNs origin.unixNs =
        some ((calibration.addSample sample).2.status.scale,
          (calibration.addSample sample).2.status.unixOriginNs) ∧
      (calibration.addSample sample).2.status.sampleCount = kept.length ∧
      (calibration.addSample sample).2.status.sampleSpanNs = spanNs kept := by
  obtain ⟨due, installs⟩ := refits
  obtain ⟨after, fitted⟩ := Option.isSome_iff_exists.mp installs
  rw [addSample_of_admits (addSample_true_iff.mp accepted)]
  dsimp only
  rw [fitIfDue_of_fit due fitted]
  obtain ⟨front, initialScale, initialUnixOrigin, kept, origin, finalScale, fittedUnixOrigin,
    frontFirst, initialLine, chosen, _, originFirst, finalLine, _, rfl⟩ := fit_passes fitted
  have spans := due.2
  rw [absorb_config] at spans
  refine ⟨front, initialScale, initialUnixOrigin, kept, origin, due.1, spans, frontFirst,
    initialLine, chosen, ?_, originFirst, rfl, finalLine, rfl, rfl⟩
  rw [chosen]
  exact half_le_inliers _ _ _ _

/-! ### Eight startup samples and two that the filter drops -/

def startupAt (milliseconds : Nat) : TimeSample :=
  { macNs := 10000000000 + 1000000 * milliseconds
    unixNs := 10000000000 + 1000000 * milliseconds
    monotonicNs := 10000000000 + 1000000 * milliseconds
    latencyNs := 1 }

def aheadSample : TimeSample :=
  { macNs := 15000000000, unixNs := 15015000000, monotonicNs := 15015000000, latencyNs := 1 }

def behindSample : TimeSample :=
  { macNs := 15100000000, unixNs := 15085000000, monotonicNs := 15085000000, latencyNs := 1 }

def shortBaseline : Tracked :=
  .ofCalls [.initializeFrom ((List.range 8).map startupAt), .addSample aheadSample]

private theorem shortBaseline_reachable :
    ((calibrationSystem StdSort.insertion {}).restrict AcceptsInOrder).Reachable shortBaseline :=
  reachable_inOrder (.start rfl) (by decide +kernel)

/-- The fit is due over five seconds and installs the line of seven milliseconds. -/
theorem short_baseline_installed :
    ∃ std config tracked sample,
      ((calibrationSystem std config).restrict AcceptsInOrder).Reachable tracked ∧
      AcceptsInOrder tracked (.addSample sample) ∧
      (tracked.calibration.addSample sample).1 = true ∧
      Refits tracked.calibration sample ∧
      ¬ config.minimumRegressionSpanNs ≤
        (tracked.calibration.addSample sample).2.status.sampleSpanNs := by
  refine ⟨StdSort.insertion, {}, shortBaseline, behindSample, shortBaseline_reachable, ?_,
    by decide +kernel, ?_, by decide +kernel⟩
  · intro _ _
    decide +kernel
  · exact ⟨by decide +kernel, by decide +kernel⟩

theorem installed_line_baseline_short :
    ∃ kept : List TimeSample, 10 ≤ 2 * kept.length ∧
      (shortBaseline.calibration.addSample behindSample).2.status.sampleSpanNs = spanNs kept := by
  obtain ⟨_, _, _, kept, _, ten, _, _, _, _, half, _, _, _, _, span⟩ :=
    installed_line_baseline shortBaseline.calibration behindSample (by decide +kernel)
      ⟨by decide +kernel, by decide +kernel⟩
  exact ⟨kept, ten.trans half, span⟩

end SflowMiddle.Calibration

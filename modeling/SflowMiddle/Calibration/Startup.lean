/-
The startup calibration against bad samples. The offset model is the median offset of
the samples of least latency, so a minority of them, however far off, does not move it
out of an interval that holds the offsets of the others.
-/

import SflowMiddle.Calibration.LineRuns

namespace SflowMiddle.Calibration

open SflowMiddle.Foundation
open ClockCalibration

def offsetNs (sample : TimeSample) : Int := sample.unixNs - sample.macNs

/-- The samples pass the filter, are as many as startup may keep, and no sample left out has
a smaller latency than one of them. -/
structure BestOfStartup (config : Config) (samples chosen : List TimeSample) : Prop where
  split : ∃ others,
    (samples.filter fun sample => config.Admits sample).Perm (chosen ++ others) ∧
      ∀ best ∈ chosen, ∀ other ∈ others, best.latencyNs ≤ other.latencyNs
  count : chosen.length =
    min kStartupBestSampleCount (samples.filter fun sample => config.Admits sample).length

private theorem bestOfStartup_selection (std : StdSort) (config : Config)
    (samples : List TimeSample) :
    BestOfStartup config samples (startupSelection std config samples) where
  split := by
    have sorted := std.perm TimeSample.latencyNs
      (samples.filter fun sample => config.Admits sample)
    have ascending := std.ascending TimeSample.latencyNs
      (samples.filter fun sample => config.Admits sample)
    have parts := List.take_append_drop kStartupBestSampleCount (std.sort TimeSample.latencyNs
      (samples.filter fun sample => config.Admits sample))
    refine ⟨(std.sort TimeSample.latencyNs
      (samples.filter fun sample => config.Admits sample)).drop kStartupBestSampleCount, ?_, ?_⟩
    · have arranged := (std.perm TimeSample.monotonicNs ((std.sort TimeSample.latencyNs
        (samples.filter fun sample => config.Admits sample)).take kStartupBestSampleCount))
      refine sorted.symm.trans ?_
      conv_lhs => rw [← parts]
      exact (arranged.append_right _).symm
    · rw [← parts, List.pairwise_append] at ascending
      intro best chosen other left
      exact ascending.2.2 best ((std.mem_sort _ _ _).mp chosen) other left
  count := length_startupSelection std config samples

private theorem convert_of_majority {std : StdSort} {calibration : ClockCalibration}
    {samples : List TimeSample}
    (enough : 4 ≤ (samples.filter fun sample => calibration.config.Admits sample).length)
    {lower upper : Int}
    (majority : (startupSelection std calibration.config samples).length <
      2 * (startupSelection std calibration.config samples).countP
        (fun sample => lower ≤ offsetNs sample ∧ offsetNs sample ≤ upper)) (macNs : Int) :
    lower ≤ (calibration.initializeFrom std samples).2.convert macNs - macNs ∧
      (calibration.initializeFrom std samples).2.convert macNs - macNs ≤ upper := by
  obtain ⟨_, unitScale, best, arranged, offset, _⟩ := initializeFrom_of_enough std enough
  have middle : lower ≤ median (best.map offsetNs) ∧ median (best.map offsetNs) ≤ upper := by
    apply median_of_majority
    rw [List.length_map, List.countP_map, arranged.length_eq, arranged.countP_eq]
    exact majority
  change _ = median (best.map offsetNs) at offset
  unfold convert
  rw [unitScale, applyModel_unit]
  omega

/-- With four samples past the filter startup succeeds on the best of them, and converts into
every interval that holds the offsets of more than half of these. -/
theorem startup_robust (std : StdSort) (calibration : ClockCalibration)
    (samples : List TimeSample)
    (enough : 4 ≤ (samples.filter fun sample => calibration.config.Admits sample).length) :
    (calibration.initializeFrom std samples).1 = true ∧
      BestOfStartup calibration.config samples (calibration.initializeFrom std samples).2.samples ∧
      ∀ lower upper : Int,
        (calibration.initializeFrom std samples).2.samples.length <
          2 * (calibration.initializeFrom std samples).2.samples.countP
            (fun sample => lower ≤ offsetNs sample ∧ offsetNs sample ≤ upper) →
        ∀ macNs, ∃ unixNs,
          (calibration.initializeFrom std samples).2.toUnixNanoseconds macNs = .ok unixNs ∧
            lower ≤ unixNs - macNs ∧ unixNs - macNs ≤ upper := by
  have started := (initializeFrom_true_iff std calibration samples).mpr enough
  have stored := initializeFrom_samples std calibration samples
  have valid := initializeFrom_valid std calibration samples
  rw [started] at valid
  rw [started, if_pos rfl] at stored
  rw [stored]
  refine ⟨started, bestOfStartup_selection std calibration.config samples, ?_⟩
  intro lower upper majority macNs
  obtain ⟨above, below⟩ := convert_of_majority enough majority macNs
  refine ⟨_, ?_, above, below⟩
  unfold toUnixNanoseconds
  rw [if_neg (by simp [valid])]

def offsetSample (offset : Int) : TimeSample := ⟨1000, 1000 + offset, 1000, 10⟩

/-- One sample far off does not move the other three. -/
theorem startup_robust_one_outlier :
    ∃ unixNs,
      (({} : ClockCalibration).initializeFrom StdSort.insertion
        ([5, 6, 7, 900000000].map offsetSample)).2.toUnixNanoseconds 2000 = .ok unixNs ∧
          5 ≤ unixNs - 2000 ∧ unixNs - 2000 ≤ 7 :=
  (startup_robust StdSort.insertion {} ([5, 6, 7, 900000000].map offsetSample) (by decide)).2.2
    5 7 (by decide +kernel) 2000

end SflowMiddle.Calibration

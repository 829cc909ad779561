/-
Noise-free clocks that advance at constant rates. The step detectors compare
differences accumulated since an earlier sample with fixed thresholds, so whether a
rate difference inside the drift limit is taken for a step depends on the gaps.
-/

import SflowMiddle.Calibration.DriftRecovery

namespace SflowMiddle.Calibration

open SflowMiddle.Foundation
open ClockCalibration

/-- The readings of the three clocks at time zero and their rates per unit of time. -/
structure ConstantClocks where
  macStart : ℚ
  realtimeStart : ℚ
  monotonicStart : ℚ
  macRate : ℚ
  realtimeRate : ℚ
  monotonicRate : ℚ
  macAdvances : 0 < macRate
  realtimeAdvances : 0 < realtimeRate
  monotonicAdvances : 0 < monotonicRate

namespace ConstantClocks

def timeOf (clocks : ConstantClocks) (sample : TimeSample) : ℚ :=
  ((sample.macNs : ℚ) - clocks.macStart) / clocks.macRate

/-- All three clocks show the sample at one time, without noise. -/
def Shows (clocks : ConstantClocks) (sample : TimeSample) : Prop :=
  (sample.unixNs : ℚ) = clocks.realtimeStart + clocks.realtimeRate * clocks.timeOf sample ∧
    (sample.monotonicNs : ℚ) =
      clocks.monotonicStart + clocks.monotonicRate * clocks.timeOf sample

/-- The rates differ pairwise by at most `ppm` parts per million. -/
structure WithinDrift (clocks : ConstantClocks) (ppm : ℚ) : Prop where
  realtimeMac : |clocks.realtimeRate - clocks.macRate| * 10 ^ 6 ≤ ppm * clocks.macRate
  monotonicMac : |clocks.monotonicRate - clocks.macRate| * 10 ^ 6 ≤ ppm * clocks.macRate
  realtimeMonotonic :
    |clocks.realtimeRate - clocks.monotonicRate| * 10 ^ 6 ≤ ppm * clocks.monotonicRate

def line (clocks : ConstantClocks) : ClockLine :=
  { macOrigin := clocks.macStart
    unixOrigin := clocks.realtimeStart
    slope := clocks.realtimeRate / clocks.macRate }

private theorem Shows.carries {clocks : ConstantClocks} {sample : TimeSample}
    (shown : clocks.Shows sample) : clocks.line.Carries sample := by
  unfold ClockLine.Carries ClockLine.Through line
  rw [shown.1, timeOf]
  ring

private theorem Shows.host_difference {clocks : ConstantClocks} {previous sample : TimeSample}
    (first : clocks.Shows previous) (second : clocks.Shows sample) :
    (((sample.unixNs - previous.unixNs) - (sample.monotonicNs - previous.monotonicNs) : Int) : ℚ) =
      (clocks.realtimeRate - clocks.monotonicRate) *
        (clocks.timeOf sample - clocks.timeOf previous) := by
  push_cast
  rw [first.1, first.2, second.1, second.2]
  ring

private theorem timeOf_le {clocks : ConstantClocks} {previous sample : TimeSample}
    (older : previous.macNs ≤ sample.macNs) : clocks.timeOf previous ≤ clocks.timeOf sample := by
  unfold timeOf
  apply div_le_div_of_nonneg_right _ clocks.macAdvances.le
  have shifted : (previous.macNs : ℚ) ≤ sample.macNs := by exact_mod_cast older
  linarith

private theorem abs_slope_sub_one (clocks : ConstantClocks) :
    |clocks.line.slope - 1| = |clocks.realtimeRate - clocks.macRate| / clocks.macRate := by
  have positive := clocks.macAdvances
  rw [← abs_of_pos positive, ← abs_div, abs_of_pos positive, sub_div, div_self positive.ne']
  rfl

private theorem WithinDrift.slope_bounded {clocks : ConstantClocks} {ppm : ℚ}
    (within : clocks.WithinDrift ppm) : |clocks.line.slope - 1| * 10 ^ 6 ≤ ppm := by
  rw [abs_slope_sub_one, div_mul_eq_mul_div, div_le_iff₀ clocks.macAdvances]
  exact within.realtimeMac

private theorem slope_drift (clocks : ConstantClocks) (earlier sample : TimeSample) :
    |clocks.line.slope - 1| * ((sample.macNs - earlier.macNs : Int) : ℚ) =
      |clocks.realtimeRate - clocks.macRate| * (clocks.timeOf sample - clocks.timeOf earlier) := by
  unfold timeOf
  rw [abs_slope_sub_one, ← sub_div]
  push_cast
  ring

end ConstantClocks

/-- A run on noise-free clocks within the drift limit: startup succeeded, and then valid
samples arrive with increasing times, each within a regression window of the one before. -/
structure NoiseFreeRun (std : StdSort) (clocks : ConstantClocks) (calibration : ClockCalibration)
    (startup added : List TimeSample) : Prop where
  drift : clocks.WithinDrift calibration.config.maximumDriftPpm
  startupShown : ∀ sample ∈ startup, clocks.Shows sample
  started : (calibration.initializeFrom std startup).1 = true
  shown : ∀ sample ∈ added, clocks.Shows sample
  admitted : ∀ sample ∈ added, calibration.config.Admits sample
  later : ∀ earlier ∈ startupSelection std calibration.config startup,
    ∀ sample ∈ added, earlier.macNs < sample.macNs
  increasing : added.Pairwise fun left right => left.macNs < right.macNs
  spacing : ∀ before sample after previous, added = before ++ sample :: after →
    (startupSelection std calibration.config startup ++ before).getLast? = some previous →
    sample.monotonicNs - previous.monotonicNs ≤ calibration.config.regressionWindowNs

section Runs

variable {std : StdSort} {clocks : ConstantClocks} {calibration : ClockCalibration}
  {startup added : List TimeSample}

private theorem NoiseFreeRun.lineRun (run : NoiseFreeRun std clocks calibration startup added) :
    LineRun std calibration clocks.line startup added where
  enough := (initializeFrom_true_iff std calibration startup).mp run.started
  bounded := run.drift.slope_bounded
  startupCarried := fun sample member => (run.startupShown sample member).carries
  admitted := run.admitted
  carried := fun sample member => (run.shown sample member).carries
  later := run.later
  increasing := run.increasing

private theorem NoiseFreeRun.history_shown (run : NoiseFreeRun std clocks calibration startup added)
    {before after : List TimeSample} (split : added = before ++ after) :
    ∀ item ∈ startupSelection std calibration.config startup ++ before, clocks.Shows item :=
  forall_mem_history run.startupShown run.shown split

private theorem NoiseFreeRun.hostSteady (run : NoiseFreeRun std clocks calibration startup added)
    (gaps : ∀ before sample after previous, added = before ++ sample :: after →
      (startupSelection std calibration.config startup ++ before).getLast? = some previous →
      |clocks.realtimeRate - clocks.monotonicRate| *
          (clocks.timeOf sample - clocks.timeOf previous) ≤
        calibration.config.hostStepThresholdNs) :
    HostSteady std calibration startup added := by
  intro before sample after previous split last
  have member : sample ∈ added := by
    rw [split]
    exact List.mem_append_right _ List.mem_cons_self
  have previousMember := List.mem_of_getLast? last
  have difference := (run.history_shown split previous previousMember).host_difference
    (run.shown sample member)
  have elapsed : 0 ≤ clocks.timeOf sample - clocks.timeOf previous :=
    sub_nonneg.mpr (ConstantClocks.timeOf_le
      (run.lineRun.history_older split previous previousMember).le)
  have size : |(((sample.unixNs - previous.unixNs) -
      (sample.monotonicNs - previous.monotonicNs) : Int) : ℚ)| ≤
      calibration.config.hostStepThresholdNs := by
    rw [difference, abs_mul, abs_of_nonneg elapsed]
    exact gaps before sample after previous split last
  exact_mod_cast size

private theorem addSample_drift {sample : TimeSample} (keeps : ¬ Anchors calibration sample)
    (drift : calibration.status.driftCalibrated = true) :
    (calibration.addSample sample).2.status.driftCalibrated = true := by
  by_cases admitted : calibration.config.Admits sample
  · rw [addSample_of_admits admitted]
    have kept : (calibration.absorb sample).status.driftCalibrated = true := by
      rw [absorb_kept keeps]
      exact drift
    dsimp only
    rcases fitIfDue_cases (calibration.absorb sample) with same | ⟨after, _, fitted, installed⟩
    · rw [same]
      exact kept
    · rw [installed]
      obtain ⟨_, _, _, _, _, _, _, _, _, rfl⟩ := fit_eq_some fitted
      rfl
  · rw [addSample_of_not_admits admitted]
    exact drift

end Runs

/-- On noise-free clocks no sample re-anchors and a calibrated drift stays calibrated, if
over each gap the host clocks move apart by at most the host step threshold and, until
the first fit, realtime and the device clock have moved apart by at most the model step
threshold since every startup sample kept. -/
theorem noise_free_run_keeps_model (std : StdSort) (clocks : ConstantClocks)
    (calibration : ClockCalibration) (startup added : List TimeSample)
    (run : NoiseFreeRun std clocks calibration startup added)
    (gaps : ∀ before sample after previous, added = before ++ sample :: after →
      (startupSelection std calibration.config startup ++ before).getLast? = some previous →
      |clocks.realtimeRate - clocks.monotonicRate| *
          (clocks.timeOf sample - clocks.timeOf previous) ≤
        calibration.config.hostStepThresholdNs)
    (offsets : ∀ before sample after, added = before ++ sample :: after →
      (calibrateThenAdd std calibration startup before).status.driftCalibrated = false →
      ∀ earlier ∈ startupSelection std calibration.config startup,
        |clocks.realtimeRate - clocks.macRate| *
            (clocks.timeOf sample - clocks.timeOf earlier) ≤
          calibration.config.modelStepThresholdNs)
    (before : List TimeSample) (sample : TimeSample) (after : List TimeSample)
    (split : added = before ++ sample :: after) :
    ¬ Anchors (calibrateThenAdd std calibration startup before) sample ∧
      ((calibrateThenAdd std calibration startup before).status.driftCalibrated = true →
        (calibrateThenAdd std calibration startup
          (before ++ [sample])).status.driftCalibrated = true) := by
  have hostSteady := run.hostSteady gaps
  have offsetSteady : OffsetSteady std calibration clocks.line startup added := by
    intro before sample after split noDrift earlier member
    rw [clocks.slope_drift]
    exact offsets before sample after split noDrift earlier member
  have quiet := run.lineRun.not_anchors hostSteady offsetSteady split
  refine ⟨quiet, ?_⟩
  intro drift
  rw [calibrateThenAdd_concat]
  exact addSample_drift quiet drift

/-! ### Clocks that count ticks -/

def tickClocks (mac realtime monotonic : Nat)
    (positive : 0 < mac ∧ 0 < realtime ∧ 0 < monotonic) : ConstantClocks where
  macStart := 2000000000000
  realtimeStart := 1780000000000000000
  monotonicStart := 500000000000
  macRate := mac
  realtimeRate := realtime
  monotonicRate := monotonic
  macAdvances := by exact_mod_cast positive.1
  realtimeAdvances := by exact_mod_cast positive.2.1
  monotonicAdvances := by exact_mod_cast positive.2.2

def tickSample (mac realtime monotonic elapsed : Nat) : TimeSample :=
  { macNs := 2000000000000 + mac * elapsed
    unixNs := 1780000000000000000 + realtime * elapsed
    monotonicNs := 500000000000 + monotonic * elapsed
    latencyNs := 80000 }

variable {mac realtime monotonic : Nat} (positive : 0 < mac ∧ 0 < realtime ∧ 0 < monotonic)

private theorem timeOf_tickSample (elapsed : Nat) :
    (tickClocks mac realtime monotonic positive).timeOf
      (tickSample mac realtime monotonic elapsed) = elapsed := by
  have advances := (tickClocks mac realtime monotonic positive).macAdvances
  unfold ConstantClocks.timeOf
  rw [div_eq_iff advances.ne']
  unfold tickClocks tickSample
  push_cast
  ring

private theorem shows_tickSample (elapsed : Nat) :
    (tickClocks mac realtime monotonic positive).Shows
      (tickSample mac realtime monotonic elapsed) := by
  unfold ConstantClocks.Shows
  rw [timeOf_tickSample]
  unfold tickClocks tickSample
  push_cast
  constructor <;> ring

private theorem noiseFreeRun_tickSample (ticks : List Nat) (elapsed : Nat)
    (drift : (tickClocks mac realtime monotonic positive).WithinDrift 1000)
    (started : (({} : ClockCalibration).initializeFrom StdSort.insertion
      (ticks.map (tickSample mac realtime monotonic))).1 = true)
    (admitted : ({} : Config).Admits (tickSample mac realtime monotonic elapsed))
    (later : ∀ tick ∈ ticks, tick < elapsed)
    (spacing : ∀ tick ∈ ticks, (monotonic * (elapsed - tick) : Int) ≤ 120000000000) :
    NoiseFreeRun StdSort.insertion (tickClocks mac realtime monotonic positive) {}
      (ticks.map (tickSample mac realtime monotonic))
      [tickSample mac realtime monotonic elapsed] where
  drift := drift
  startupShown := by
    intro sample member
    obtain ⟨tick, _, same⟩ := List.mem_map.mp member
    rw [← same]
    exact shows_tickSample positive _
  started := started
  shown := by
    intro sample member
    rw [List.mem_singleton.mp member]
    exact shows_tickSample positive _
  admitted := by
    intro sample member
    rw [List.mem_singleton.mp member]
    exact admitted
  later := by
    intro earlier selected sample member
    obtain ⟨tick, tickMember, same⟩ := List.mem_map.mp (mem_startupSelection selected).1
    rw [List.mem_singleton.mp member, ← same]
    have before := later tick tickMember
    have product : (mac : Int) * tick < (mac : Int) * elapsed := by
      apply mul_lt_mul_of_pos_left
      · exact_mod_cast before
      · exact_mod_cast positive.1
    unfold tickSample
    push_cast at product ⊢
    linarith
  increasing := List.pairwise_singleton _ _
  spacing := by
    intro before sample after previous split last
    obtain ⟨beforeNil, same⟩ := singleton_split split
    rw [beforeNil, List.append_nil] at last
    obtain ⟨tick, tickMember, previousSame⟩ :=
      List.mem_map.mp (mem_startupSelection (List.mem_of_getLast? last)).1
    rw [same, ← previousSame]
    have gap := spacing tick tickMember
    change (tickSample mac realtime monotonic elapsed).monotonicNs -
      (tickSample mac realtime monotonic tick).monotonicNs ≤ 120000000000
    unfold tickSample
    push_cast at gap ⊢
    linarith

/-- The host clocks 600 ppm apart for one second, and the device clock 1000 ppm slower than
both for twenty-one seconds: under the default configuration each looks like a step to
one of the detectors. -/
theorem constant_rates_look_like_steps :
    (∃ clocks startup sample, NoiseFreeRun StdSort.insertion clocks {} startup [sample] ∧
      (calibrateThenAdd StdSort.insertion {} startup []).ReanchorsOn sample ∧
      ¬ (calibrateThenAdd StdSort.insertion {} startup []).modelStep sample) ∧
    (∃ clocks startup sample, NoiseFreeRun StdSort.insertion clocks {} startup [sample] ∧
      (calibrateThenAdd StdSort.insertion {} startup []).ReanchorsOn sample ∧
      ¬ (calibrateThenAdd StdSort.insertion {} startup []).hostClockStep sample) := by
  constructor
  · have positive : 0 < 5000 ∧ 0 < 5003 ∧ 0 < 5000 := by decide
    have drift : (tickClocks 5000 5003 5000 positive).WithinDrift 1000 := by
      constructor <;> norm_num [tickClocks, abs_le]
    refine ⟨_, _, _, noiseFreeRun_tickSample positive [0, 200, 400, 600] 200000 drift
      (by decide +kernel) (by decide +kernel) (by decide) (by decide),
      by decide +kernel, ?_⟩
    unfold modelStep
    decide +kernel
  · have positive : 0 < 1000 ∧ 0 < 1001 ∧ 0 < 1001 := by decide
    have drift : (tickClocks 1000 1001 1001 positive).WithinDrift 1000 := by
      constructor <;> norm_num [tickClocks, abs_le]
    refine ⟨_, _, _, noiseFreeRun_tickSample positive [0, 1000, 2000, 3000] 21000000 drift
      (by decide +kernel) (by decide +kernel) (by decide) (by decide),
      by decide +kernel, ?_⟩
    unfold hostClockStep
    decide +kernel

/-- One second at 500 ppm, host clocks together. -/
theorem noise_free_run_keeps_model_one_second :
    ¬ Anchors (calibrateThenAdd StdSort.insertion {}
      ([0, 500, 1000, 1500].map (tickSample 2000 2001 2001)) [])
      (tickSample 2000 2001 2001 500000) := by
  have positive : 0 < 2000 ∧ 0 < 2001 ∧ 0 < 2001 := by decide
  have drift : (tickClocks 2000 2001 2001 positive).WithinDrift 1000 := by
    constructor <;> norm_num [tickClocks, abs_le]
  have run := noiseFreeRun_tickSample positive [0, 500, 1000, 1500] 500000 drift
    (by decide +kernel) (by decide +kernel) (by decide) (by decide)
  refine (noise_free_run_keeps_model StdSort.insertion _ {} _ _ run ?_ ?_ [] _ [] rfl).1
  · intro before sample after previous _ _
    have together : |(tickClocks 2000 2001 2001 positive).realtimeRate -
        (tickClocks 2000 2001 2001 positive).monotonicRate| = 0 := by
      norm_num [tickClocks]
    rw [together, zero_mul]
    norm_num
  · intro before sample after split _ earlier selected
    obtain ⟨_, same⟩ := singleton_split split
    obtain ⟨tick, _, earlierSame⟩ := List.mem_map.mp (mem_startupSelection selected).1
    have rates : |(tickClocks 2000 2001 2001 positive).realtimeRate -
        (tickClocks 2000 2001 2001 positive).macRate| = 1 := by
      norm_num [tickClocks]
    rw [rates, same, ← earlierSame, timeOf_tickSample, timeOf_tickSample]
    have start : (0 : ℚ) ≤ tick := Nat.cast_nonneg tick
    norm_num
    linarith

end SflowMiddle.Calibration

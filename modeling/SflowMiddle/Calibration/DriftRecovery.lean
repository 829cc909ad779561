/-
What the calibration does on noise-free clocks. As long as neither step detector
fires, no sample re-anchors the model and the first due fit recovers the rate of
the device clock exactly; a rate difference large enough for the gap between two
samples does look like a step.
-/

import SflowMiddle.Calibration.LineRuns

namespace SflowMiddle.Calibration

open SflowMiddle.Foundation
open ClockCalibration

/-! ### The step detectors on a line -/

section Detectors

variable {line : ClockLine} {history anchors : List TimeSample} {calibration : ClockCalibration}
  {sample previous : TimeSample}

private theorem ClockLine.Carries.offset_drift {earlier : TimeSample} (first : line.Carries earlier)
    (second : line.Carries sample) :
    (((earlier.unixNs - earlier.macNs) - (sample.unixNs - sample.macNs) : Int) : ℚ) =
      (1 - line.slope) * ((sample.macNs - earlier.macNs : Int) : ℚ) := by
  have elapsed := ClockLine.Through.elapsed first second
  push_cast at elapsed ⊢
  linarith

private theorem ClockLine.Carries.offset_within {earlier : TimeSample} {limit : Int}
    (first : line.Carries earlier) (second : line.Carries sample)
    (older : earlier.macNs ≤ sample.macNs)
    (near : |line.slope - 1| * ((sample.macNs - earlier.macNs : Int) : ℚ) ≤ limit) :
    (sample.unixNs - sample.macNs) - limit ≤ earlier.unixNs - earlier.macNs ∧
      earlier.unixNs - earlier.macNs ≤ (sample.unixNs - sample.macNs) + limit := by
  have drift := first.offset_drift second
  have apart : (0 : ℚ) ≤ ((sample.macNs - earlier.macNs : Int) : ℚ) := by
    exact_mod_cast sub_nonneg.mpr older
  have size : |(((earlier.unixNs - earlier.macNs) - (sample.unixNs - sample.macNs) : Int) : ℚ)| ≤
      limit := by
    rw [drift, abs_mul, abs_of_nonneg apart, abs_sub_comm]
    exact near
  have bounds := abs_le.mp (by exact_mod_cast size :
    |(earlier.unixNs - earlier.macNs) - (sample.unixNs - sample.macNs)| ≤ limit)
  omega

/-- The installed line never trips the model step; the offset model trips it only when the
drift accumulated since one of its samples exceeds the threshold. -/
private theorem Follows.not_modelStep (follows : Follows line history anchors calibration)
    (carried : line.Carries sample) (anchorsCarried : ∀ item ∈ anchors, line.Carries item)
    (older : ∀ item ∈ anchors, item.macNs ≤ sample.macNs)
    (threshold : 0 ≤ calibration.config.modelStepThresholdNs)
    (near : calibration.status.driftCalibrated = false → ∀ item ∈ anchors,
      |line.slope - 1| * ((sample.macNs - item.macNs : Int) : ℚ) ≤
        calibration.config.modelStepThresholdNs) :
    ¬ calibration.modelStep sample := by
  apply not_lt.mpr
  cases drift : calibration.status.driftCalibrated with
  | true =>
      rw [follows.exact drift _ _ carried, sub_self, abs_zero]
      exact threshold
  | false =>
      have offset := follows.offset drift
        ((sample.unixNs - sample.macNs) - calibration.config.modelStepThresholdNs)
        ((sample.unixNs - sample.macNs) + calibration.config.modelStepThresholdNs)
        (fun item member => (anchorsCarried item member).offset_within carried
          (older item member) (near drift item member)) sample.macNs
      rw [abs_le]
      omega

private theorem Follows.not_reanchors (follows : Follows line history anchors calibration)
    (last : history.getLast? = some previous) (newer : previous.macNs < sample.macNs)
    (steady : |(sample.unixNs - previous.unixNs) - (sample.monotonicNs - previous.monotonicNs)| ≤
      calibration.config.hostStepThresholdNs)
    (fits : ¬ calibration.modelStep sample) : ¬ calibration.ReanchorsOn sample := by
  obtain ⟨lastMac, lastUnix, lastMonotonic⟩ := follows.last previous last
  intro steps
  rcases steps with rollback | hostStep | step
  · unfold macRollback at rollback
    omega
  · have beyond := hostStep.2
    rw [lastUnix, lastMonotonic] at beyond
    omega
  · exact fits step

end Detectors

/-! ### Runs of initialize and addSample -/

/-- `initialize` on `startup`, then `addSample` on each of `added`. -/
def calibrateThenAdd (std : StdSort) (calibration : ClockCalibration)
    (startup added : List TimeSample) : ClockCalibration :=
  addSamples (calibration.initializeFrom std startup).2 added

@[simp]
theorem calibrateThenAdd_config (std : StdSort) (calibration : ClockCalibration)
    (startup added : List TimeSample) :
    (calibrateThenAdd std calibration startup added).config = calibration.config := by
  unfold calibrateThenAdd
  rw [addSamples_config, initializeFrom_config]

theorem calibrateThenAdd_concat (std : StdSort) (calibration : ClockCalibration)
    (startup before : List TimeSample) (sample : TimeSample) :
    calibrateThenAdd std calibration startup (before ++ [sample]) =
      ((calibrateThenAdd std calibration startup before).addSample sample).2 := by
  unfold calibrateThenAdd
  rw [addSamples_concat]

/-- A successful startup and later valid samples, all on one line whose drift the
configuration allows; `startupSelection` lists the samples `initialize` keeps. -/
structure LineRun (std : StdSort) (calibration : ClockCalibration) (line : ClockLine)
    (startup added : List TimeSample) : Prop where
  enough : 4 ≤ (startup.filter fun sample => calibration.config.Admits sample).length
  bounded : |line.slope - 1| * 10 ^ 6 ≤ calibration.config.maximumDriftPpm
  startupCarried : ∀ sample ∈ startup, line.Carries sample
  admitted : ∀ sample ∈ added, calibration.config.Admits sample
  carried : ∀ sample ∈ added, line.Carries sample
  later : ∀ earlier ∈ startupSelection std calibration.config startup,
    ∀ sample ∈ added, earlier.macNs < sample.macNs
  increasing : added.Pairwise fun left right => left.macNs < right.macNs

/-- Between each added sample and the one accepted before it, the two host clocks advance
alike up to the host step threshold. -/
def HostSteady (std : StdSort) (calibration : ClockCalibration)
    (startup added : List TimeSample) : Prop :=
  ∀ before sample after previous, added = before ++ sample :: after →
    (startupSelection std calibration.config startup ++ before).getLast? = some previous →
    |(sample.unixNs - previous.unixNs) - (sample.monotonicNs - previous.monotonicNs)| ≤
      calibration.config.hostStepThresholdNs

/-- Until the first fit, the drift accumulated since every startup sample kept, so since the
smallest of their device times, stays within the model step threshold. -/
def OffsetSteady (std : StdSort) (calibration : ClockCalibration) (line : ClockLine)
    (startup added : List TimeSample) : Prop :=
  ∀ before sample after, added = before ++ sample :: after →
    (calibrateThenAdd std calibration startup before).status.driftCalibrated = false →
    ∀ earlier ∈ startupSelection std calibration.config startup,
      |line.slope - 1| * ((sample.macNs - earlier.macNs : Int) : ℚ) ≤
        calibration.config.modelStepThresholdNs

section Runs

variable {std : StdSort} {calibration : ClockCalibration} {line : ClockLine}
  {startup added : List TimeSample}

theorem startupSelection_ne_nil (std : StdSort)
    (enough : 4 ≤ (startup.filter fun sample => calibration.config.Admits sample).length) :
    startupSelection std calibration.config startup ≠ [] := by
  intro none
  have count := length_startupSelection std calibration.config startup
  rw [none, List.length_nil] at count
  omega

theorem forall_mem_history {holds : TimeSample → Prop} (startupHolds : ∀ item ∈ startup, holds item)
    (addedHolds : ∀ item ∈ added, holds item) {before after : List TimeSample}
    (split : added = before ++ after) :
    ∀ item ∈ startupSelection std calibration.config startup ++ before, holds item := by
  rw [List.forall_mem_append]
  constructor
  · intro item member
    exact startupHolds item (mem_startupSelection member).1
  · intro item member
    apply addedHolds
    rw [split]
    exact List.mem_append_left _ member

private theorem LineRun.history_carried (run : LineRun std calibration line startup added)
    {before after : List TimeSample} (split : added = before ++ after) :
    ∀ item ∈ startupSelection std calibration.config startup ++ before, line.Carries item :=
  forall_mem_history run.startupCarried run.carried split

theorem LineRun.history_older (run : LineRun std calibration line startup added)
    {before after : List TimeSample} {sample : TimeSample}
    (split : added = before ++ sample :: after) :
    ∀ item ∈ startupSelection std calibration.config startup ++ before,
      item.macNs < sample.macNs := by
  have increasing := run.increasing
  rw [split, List.pairwise_append] at increasing
  intro item member
  rcases List.mem_append.mp member with early | later
  · apply run.later item early
    rw [split]
    exact List.mem_append_right _ List.mem_cons_self
  · exact increasing.2.2 item later sample List.mem_cons_self

private theorem LineRun.threshold_nonneg (run : LineRun std calibration line startup added)
    (offsetSteady : OffsetSteady std calibration line startup added) (some : added ≠ []) :
    0 ≤ calibration.config.modelStepThresholdNs := by
  cases shape : added with
  | nil => exact absurd shape some
  | cons first rest =>
      obtain ⟨earlier, member⟩ := List.exists_mem_of_ne_nil _
        (startupSelection_ne_nil std run.enough)
      have near := offsetSteady [] first rest shape
        (initializeFrom_of_enough std run.enough).1 earlier member
      have older := run.later earlier member first (by rw [shape]; exact List.mem_cons_self)
      have product : (0 : ℚ) ≤ |line.slope - 1| * ((first.macNs - earlier.macNs : Int) : ℚ) := by
        apply mul_nonneg (abs_nonneg _)
        exact_mod_cast (by omega : 0 ≤ first.macNs - earlier.macNs)
      exact_mod_cast product.trans near

private theorem LineRun.not_reanchors (run : LineRun std calibration line startup added)
    (hostSteady : HostSteady std calibration startup added)
    (offsetSteady : OffsetSteady std calibration line startup added)
    {before after : List TimeSample} {sample : TimeSample}
    (split : added = before ++ sample :: after)
    (follows : Follows line (startupSelection std calibration.config startup ++ before)
      (startupSelection std calibration.config startup)
      (calibrateThenAdd std calibration startup before)) :
    ¬ (calibrateThenAdd std calibration startup before).ReanchorsOn sample := by
  have older := run.history_older split
  obtain ⟨previous, last⟩ : ∃ previous,
      (startupSelection std calibration.config startup ++ before).getLast? = some previous := by
    apply Option.ne_none_iff_exists'.mp
    intro none
    exact startupSelection_ne_nil std run.enough
      (List.append_eq_nil_iff.mp (List.getLast?_eq_none_iff.mp none)).1
  have selected : ∀ item ∈ startupSelection std calibration.config startup,
      item ∈ startupSelection std calibration.config startup ++ before :=
    fun item member => List.mem_append_left _ member
  apply follows.not_reanchors last (older previous (List.mem_of_getLast? last))
  · rw [calibrateThenAdd_config]
    exact hostSteady before sample after previous split last
  · apply follows.not_modelStep
    · exact run.carried sample (by rw [split]; exact List.mem_append_right _ List.mem_cons_self)
    · exact fun item member => run.history_carried split item (selected item member)
    · exact fun item member => (older item (selected item member)).le
    · rw [calibrateThenAdd_config]
      exact run.threshold_nonneg offsetSteady (by rw [split]; simp)
    · rw [calibrateThenAdd_config]
      exact offsetSteady before sample after split

private theorem LineRun.admits (run : LineRun std calibration line startup added)
    {before after : List TimeSample} {sample : TimeSample}
    (split : added = before ++ sample :: after) :
    (calibrateThenAdd std calibration startup before).config.Admits sample := by
  rw [calibrateThenAdd_config]
  apply run.admitted
  rw [split]
  exact List.mem_append_right _ List.mem_cons_self

private theorem LineRun.drift_allowed (run : LineRun std calibration line startup added)
    (before : List TimeSample) :
    |line.slope - 1| * 1000000 ≤
      (calibrateThenAdd std calibration startup before).config.maximumDriftPpm := by
  have bounded := run.bounded
  norm_num at bounded
  rw [calibrateThenAdd_config]
  exact bounded

/-- The invariant of the whole run, over the samples added so far. -/
private theorem LineRun.follows (run : LineRun std calibration line startup added)
    (hostSteady : HostSteady std calibration startup added)
    (offsetSteady : OffsetSteady std calibration line startup added)
    (before : List TimeSample) : ∀ after, added = before ++ after →
      Follows line (startupSelection std calibration.config startup ++ before)
        (startupSelection std calibration.config startup)
        (calibrateThenAdd std calibration startup before) := by
  induction before using List.reverseRecOn with
  | nil =>
      intro after _
      rw [List.append_nil]
      exact follows_initializeFrom run.enough
  | append_singleton before sample ih =>
      intro after split
      have carried := run.history_carried split
      rw [List.append_assoc, List.singleton_append] at split
      have earlier := ih _ split
      have quiet := run.not_reanchors hostSteady offsetSteady split earlier
      have next := earlier.addSample (run.admits split)
        (by rw [List.append_assoc]; exact carried) (run.history_older split)
        (run.drift_allowed before)
      unfold anchorsAfter at next
      rw [if_neg quiet, List.append_assoc, ← calibrateThenAdd_concat] at next
      exact next

/-- With both detectors quiet no sample of the run starts a new model. -/
theorem LineRun.not_anchors (run : LineRun std calibration line startup added)
    (hostSteady : HostSteady std calibration startup added)
    (offsetSteady : OffsetSteady std calibration line startup added)
    {before after : List TimeSample} {sample : TimeSample}
    (split : added = before ++ sample :: after) :
    ¬ Anchors (calibrateThenAdd std calibration startup before) sample := by
  have follows := run.follows hostSteady offsetSteady before _ split
  exact (anchors_iff_of_valid follows.valid).not.mpr
    (run.not_reanchors hostSteady offsetSteady split follows)

end Runs

/-! ### Exact recovery of the rate -/

/-- The state after a fit that recovered the line. -/
structure Recovered (line : ClockLine) (calibration : ClockCalibration) : Prop where
  state : calibration.status.state = .tracking
  scale : calibration.status.scale = line.slope
  residual : calibration.status.medianResidualNs = 0
  count : calibration.status.sampleCount = calibration.samples.length
  maps : ∀ macNs unixNs, line.Through macNs unixNs →
    calibration.toUnixNanoseconds macNs = .ok unixNs

/-- No sample of the run re-anchors, and whenever a sample leaves at least ten retained ones
that span the minimum, the calibration has recovered the line. -/
theorem exact_drift_recovery (std : StdSort) (calibration : ClockCalibration) (line : ClockLine)
    (startup added : List TimeSample) (run : LineRun std calibration line startup added)
    (hostSteady : HostSteady std calibration startup added)
    (offsetSteady : OffsetSteady std calibration line startup added)
    (before : List TimeSample) (sample : TimeSample) (after : List TimeSample)
    (split : added = before ++ sample :: after) :
    ¬ Anchors (calibrateThenAdd std calibration startup before) sample ∧
      (10 ≤ (calibrateThenAdd std calibration startup (before ++ [sample])).samples.length →
        calibration.config.minimumRegressionSpanNs ≤
          spanNs (calibrateThenAdd std calibration startup (before ++ [sample])).samples →
        Recovered line (calibrateThenAdd std calibration startup (before ++ [sample]))) := by
  have regrouped : added = (before ++ [sample]) ++ after := by
    rw [split, List.append_assoc, List.singleton_append]
  have follows := run.follows hostSteady offsetSteady before _ split
  have next := run.follows hostSteady offsetSteady (before ++ [sample]) after regrouped
  have stepped : calibrateThenAdd std calibration startup (before ++ [sample]) =
      ((calibrateThenAdd std calibration startup before).absorb sample).fitIfDue := by
    rw [calibrateThenAdd_concat, addSample_of_admits (run.admits split)]
  constructor
  · exact run.not_anchors hostSteady offsetSteady split
  · intro several spans
    have retained := (fitIfDue_frame
      ((calibrateThenAdd std calibration startup before).absorb sample)).2.1
    rw [stepped, retained] at several spans
    have due : ((calibrateThenAdd std calibration startup before).absorb sample).FitDue := by
      constructor
      · exact several
      · rw [absorb_config, calibrateThenAdd_config]
        exact spans
    obtain ⟨front, _, installed⟩ := follows.fit_exact
      (by rw [List.append_assoc]; exact run.history_carried regrouped)
      (run.history_older split) (run.drift_allowed before) due
    have exactly := next.exact
    have valid := next.valid
    rw [stepped, installed] at exactly valid
    rw [stepped, installed]
    refine ⟨rfl, rfl, rfl, rfl, ?_⟩
    intro macNs unixNs point
    unfold toUnixNanoseconds
    rw [if_neg (by rw [valid]; decide)]
    exact congrArg Except.ok (exactly rfl macNs unixNs point)

/-! ### A run of ten samples, 500 ppm fast -/

private theorem hostSteady_of_equal {std : StdSort} {calibration : ClockCalibration}
    {startup added : List TimeSample} (threshold : 0 ≤ calibration.config.hostStepThresholdNs)
    (equal : ∀ sample ∈ startup ++ added, sample.unixNs = sample.monotonicNs) :
    HostSteady std calibration startup added := by
  intro before sample after previous split last
  have sampleEqual := equal sample (List.mem_append_right _ (by rw [split]; simp))
  have previousEqual : previous.unixNs = previous.monotonicNs := by
    apply equal previous
    rcases List.mem_append.mp (List.mem_of_getLast? last) with early | added
    · exact List.mem_append_left _ (mem_startupSelection early).1
    · apply List.mem_append_right
      rw [split]
      exact List.mem_append_left _ added
  rw [sampleEqual, previousEqual, sub_self, abs_zero]
  exact threshold

def fastSample (elapsed : Nat) : TimeSample :=
  { macNs := 2000000000000 + 2000 * elapsed
    unixNs := 1780000000000000000 + 2001 * elapsed
    monotonicNs := 1780000000000000000 + 2001 * elapsed
    latencyNs := 80000 }

def fastLine : ClockLine :=
  { macOrigin := 2000000000000, unixOrigin := 1780000000000000000, slope := 2001 / 2000 }

def fastStartup : List TimeSample :=
  [0, 500, 1000, 1500].map fastSample

def fastAdded : List TimeSample :=
  [500000, 1000000, 1500000, 2000000, 2500000, 3000000].map fastSample

private theorem fastSample_carried (elapsed : Nat) : fastLine.Carries (fastSample elapsed) := by
  unfold ClockLine.Carries ClockLine.Through fastLine fastSample
  push_cast
  ring

private theorem fastRun : LineRun StdSort.insertion {} fastLine fastStartup fastAdded where
  enough := by decide +kernel
  bounded := by norm_num [fastLine, abs_le]
  startupCarried := by
    intro sample member
    obtain ⟨elapsed, _, same⟩ := List.mem_map.mp member
    rw [← same]
    exact fastSample_carried elapsed
  admitted := by decide +kernel
  carried := by
    intro sample member
    obtain ⟨elapsed, _, same⟩ := List.mem_map.mp member
    rw [← same]
    exact fastSample_carried elapsed
  later := by decide +kernel
  increasing := by decide +kernel

private theorem fastRun_hostSteady : HostSteady StdSort.insertion {} fastStartup fastAdded :=
  hostSteady_of_equal (by decide) (by decide +kernel)

private theorem fastRun_offsetSteady :
    OffsetSteady StdSort.insertion {} fastLine fastStartup fastAdded := by
  intro before sample after split _ earlier member
  have inside : sample ∈ fastAdded := by
    rw [split]
    exact List.mem_append_right _ List.mem_cons_self
  have near : ∀ earlier ∈ startupSelection StdSort.insertion ({} : Config) fastStartup,
      ∀ sample ∈ fastAdded, sample.macNs - earlier.macNs ≤ 6000000000 := by
    decide +kernel
  have distance : ((sample.macNs - earlier.macNs : Int) : ℚ) ≤ 6000000000 := by
    exact_mod_cast near earlier member sample inside
  have slope : |fastLine.slope - 1| = 1 / 2000 := by
    unfold fastLine
    norm_num
  change |fastLine.slope - 1| * _ ≤ ((20000000 : Int) : ℚ)
  rw [slope]
  push_cast at distance ⊢
  linarith

theorem exact_drift_recovery_fastRun :
    Recovered fastLine (calibrateThenAdd StdSort.insertion {} fastStartup fastAdded) := by
  have recovered := (exact_drift_recovery StdSort.insertion {} fastLine fastStartup fastAdded
    fastRun fastRun_hostSteady fastRun_offsetSteady (fastAdded.take 5) (fastSample 3000000) []
    rfl).2
  exact recovered (by decide +kernel) (by decide +kernel)

end SflowMiddle.Calibration

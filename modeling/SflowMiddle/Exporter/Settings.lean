/-
The time settings main reads from a YAML file, and whether sampler and calibration
agree on which samples are good. The loader sets the sampler's uncertainty limit
but not the latency limit of the calibration, which keeps its default.
-/

import SflowMiddle.Clock.PollSpec
import SflowMiddle.Exporter.TimeAdjuster

namespace SflowMiddle.Exporter

open SflowMiddle.Foundation
open SflowMiddle.Calibration
open SflowMiddle.Clock
open TimeAdjuster

inductive YamlNode (α : Type) where
  | undefined
  | scalar (value : α)
  | malformed

/-- The keys of the time configuration in the order main reads them. `earlierKeys` is
malformed when the file is missing or a key read before them does not convert. -/
structure TimeSettings where
  earlierKeys : YamlNode Unit := .undefined
  startupSampleCount : YamlNode UInt64 := .undefined
  startupBestSampleCount : YamlNode UInt64 := .undefined
  calibrationRefreshBurstSize : YamlNode UInt64 := .undefined
  maximumSampleUncertaintyNs : YamlNode Int64 := .undefined
  regressionWindowNs : YamlNode Int64 := .undefined
  minimumRegressionSpanNs : YamlNode Int64 := .undefined
  maximumDriftPpm : YamlNode ℚ := .undefined
  hostStepThresholdNs : YamlNode Int64 := .undefined
  modelStepThresholdNs : YamlNode Int64 := .undefined

/-- One `if (config[key])`. A value that does not convert throws out of the block, and main
goes on with what was set until then. -/
def readKey {α : Type} (node : YamlNode α) (write : α → TimeAdjuster.Config)
    (config : TimeAdjuster.Config) (rest : TimeAdjuster.Config → TimeAdjuster.Config) :
    TimeAdjuster.Config :=
  match node with
  | .undefined => rest config
  | .scalar value => rest (write value)
  | .malformed => config

def loadTimeConfig (settings : TimeSettings) : TimeAdjuster.Config :=
  readKey settings.earlierKeys (fun _ => {}) {} fun config =>
  readKey settings.startupSampleCount
    (fun value => { config with startupSampleCount := value.toNat }) config fun config =>
  readKey settings.startupBestSampleCount
    (fun value => { config with startupBestSampleCount := value.toNat }) config fun config =>
  readKey settings.calibrationRefreshBurstSize
    (fun value => { config with refreshBurstSize := value.toNat }) config fun config =>
  readKey settings.maximumSampleUncertaintyNs
    (fun value => { config with maximumSampleUncertaintyNs := value.toInt }) config fun config =>
  readKey settings.regressionWindowNs
    (fun value => { config with
      calibration := { config.calibration with regressionWindowNs := value.toInt } })
    config fun config =>
  readKey settings.minimumRegressionSpanNs
    (fun value => { config with
      calibration := { config.calibration with minimumRegressionSpanNs := value.toInt } })
    config fun config =>
  readKey settings.maximumDriftPpm
    (fun value => { config with
      calibration := { config.calibration with maximumDriftPpm := value } })
    config fun config =>
  readKey settings.hostStepThresholdNs
    (fun value => { config with
      calibration := { config.calibration with hostStepThresholdNs := value.toInt } })
    config fun config =>
  readKey settings.modelStepThresholdNs
    (fun value => { config with
      calibration := { config.calibration with modelStepThresholdNs := value.toInt } })
    config id

private theorem readKey_keeps {α : Type} (holds : TimeAdjuster.Config → Prop) {node : YamlNode α}
    {write : α → TimeAdjuster.Config} {config : TimeAdjuster.Config}
    {rest : TimeAdjuster.Config → TimeAdjuster.Config} (now : holds config)
    (written : ∀ value, holds (write value)) (kept : ∀ next, holds next → holds (rest next)) :
    holds (readKey node write config rest) := by
  cases node with
  | undefined => exact kept config now
  | scalar value => exact kept (write value) (written value)
  | malformed => exact now

def DefaultLatency (config : TimeAdjuster.Config) : Prop :=
  config.calibration.maximumSampleLatencyNs = 800000

private theorem loadTimeConfig_latency (settings : TimeSettings) :
    DefaultLatency (loadTimeConfig settings) :=
  readKey_keeps DefaultLatency rfl (fun _ => rfl) fun _ now =>
  readKey_keeps DefaultLatency now (fun _ => now) fun _ now =>
  readKey_keeps DefaultLatency now (fun _ => now) fun _ now =>
  readKey_keeps DefaultLatency now (fun _ => now) fun _ now =>
  readKey_keeps DefaultLatency now (fun _ => now) fun _ now =>
  readKey_keeps DefaultLatency now (fun _ => now) fun _ now =>
  readKey_keeps DefaultLatency now (fun _ => now) fun _ now =>
  readKey_keeps DefaultLatency now (fun _ => now) fun _ now =>
  readKey_keeps DefaultLatency now (fun _ => now) fun _ now =>
  readKey_keeps DefaultLatency now (fun _ => now) fun _ now => now

/-! ### The two limits on one quantity -/

def sampledBy (sampler : ClockSampler) :
    List (HostClockBounds × MacStateObservation) → List PublicationSample
  | [] => []
  | (bounds, observed) :: polls =>
      (sampler.poll bounds observed).1.toList ++
        sampledBy (sampler.poll bounds observed).2 polls

private theorem uncertainty_sampledBy {sampler : ClockSampler} {sample : PublicationSample}
    {polls : List (HostClockBounds × MacStateObservation)}
    (member : sample ∈ sampledBy sampler polls) :
    0 ≤ sample.uncertaintyNs ∧ sample.uncertaintyNs ≤ sampler.maximumUncertaintyNs := by
  induction polls generalizing sampler with
  | nil => cases member
  | cons poll polls ih =>
      obtain ⟨bounds, observed⟩ := poll
      rcases List.mem_append.mp member with now | later
      · obtain ⟨forward, _, last, _, closes, built⟩ :=
          ClockSampler.poll_eq_some (Option.mem_toList.mp now)
        have latency : 0 ≤ bounds.monotonicAfterNs - bounds.monotonicBeforeNs := by
          have notBack : ¬ bounds.monotonicAfterNs < bounds.monotonicBeforeNs :=
            fun back => forward (Or.inr back)
          omega
        have width := closes.2.1
        have within := closes.2.2
        rw [built]
        change 0 ≤ bounds.monotonicAfterNs - last.bounds.monotonicAfterNs +
            (bounds.monotonicAfterNs - bounds.monotonicBeforeNs) ∧ _
        constructor
        · change last.bounds.monotonicAfterNs ≤ bounds.monotonicAfterNs at width
          omega
        · exact within
      · have bounded := ih later
        rw [ClockSampler.poll_maximum] at bounded
        exact bounded

/-- Every usable sample the sampler returns passes the filter of the calibration, which it
meets in `addSample` and in `initialize`. -/
def LayersAgree (config : TimeAdjuster.Config) : Prop :=
  ∀ polls, ∀ samples : List PublicationSample,
    (∀ sample ∈ samples,
      sample ∈ sampledBy { maximumUncertaintyNs := config.maximumSampleUncertaintyNs } polls ∧
        0 < sample.smartnicNs ∧ 0 < sample.hostRealtimeNs) →
    ∀ (std : StdSort) (calibration : ClockCalibration), calibration.config = config.calibration →
      (∀ sample ∈ samples, (calibration.addSample (toTimeSample sample)).1 = true) ∧
        (calibration.initializeFrom std (samples.map toTimeSample)).2.status.rejectedSamples =
          calibration.status.rejectedSamples

private theorem rejectedSamples_initializeFrom {std : StdSort} {calibration : ClockCalibration}
    {samples : List TimeSample} (admitted : ∀ sample ∈ samples, calibration.config.Admits sample) :
    (calibration.initializeFrom std samples).2.status.rejectedSamples =
      calibration.status.rejectedSamples := by
  have none : samples.filter (fun sample => ¬ calibration.config.Admits sample) = [] := by
    rw [List.filter_eq_nil_iff]
    intro sample member refused
    exact of_decide_eq_true refused (admitted sample member)
  have count : calibration.reset.status.rejectedSamples +
      (samples.filter fun sample => ¬ calibration.config.Admits sample).length =
      calibration.status.rejectedSamples := by
    rw [none]
    rfl
  unfold ClockCalibration.initializeFrom
  dsimp only
  split <;> exact count

private theorem admits_sampledBy {config : TimeAdjuster.Config} {sample : PublicationSample}
    {polls : List (HostClockBounds × MacStateObservation)}
    (limits : config.maximumSampleUncertaintyNs ≤ config.calibration.maximumSampleLatencyNs)
    (member : sample ∈
      sampledBy { maximumUncertaintyNs := config.maximumSampleUncertaintyNs } polls)
    (device : 0 < sample.smartnicNs) (realtime : 0 < sample.hostRealtimeNs) :
    config.calibration.Admits (toTimeSample sample) := by
  obtain ⟨nonneg, bounded⟩ := uncertainty_sampledBy member
  exact ⟨nonneg, bounded.trans limits, device, realtime⟩

/-! ### A run that uses the whole uncertainty the sampler allows -/

def instantBounds (instantNs : Int) : HostClockBounds :=
  { realtimeBeforeNs := instantNs
    realtimeAfterNs := instantNs
    monotonicBeforeNs := instantNs
    monotonicAfterNs := instantNs }

def secondsObserved (seconds : UInt32) : MacStateObservation :=
  { state := ⟨seconds, 0, 0, 16, 0⟩, valid := true }

def spacedPolls (width : Int) : List (HostClockBounds × MacStateObservation) :=
  [(instantBounds 1, secondsObserved 1), (instantBounds (1 + width), secondsObserved 2)]

private theorem not_rollsBack_instantBounds (instantNs : Int) : ¬
    (instantBounds instantNs).rollsBack := by
  simp [HostClockBounds.rollsBack, instantBounds]

private theorem realtimeMidpoint_instantBounds (instantNs : Int) :
    ClockSampler.realtimeMidpoint (instantBounds instantNs) = instantNs := by
  simp [ClockSampler.realtimeMidpoint, ClockSampler.midpoint, truncMidpoint, instantBounds]

private theorem monotonicMidpoint_instantBounds (instantNs : Int) :
    ClockSampler.monotonicMidpoint (instantBounds instantNs) = instantNs := by
  simp [ClockSampler.monotonicMidpoint, ClockSampler.midpoint, truncMidpoint, instantBounds]

def spacedSample (width : Int) : PublicationSample :=
  ClockSampler.transitionSample (ClockSampler.stamped (instantBounds 1) (secondsObserved 1))
    (ClockSampler.stamped (instantBounds (1 + width)) (secondsObserved 2)) 2000000000

private theorem uncertainty_spacedSample (width : Int) : (spacedSample width).uncertaintyNs =
    width := by
  change 1 + width - 1 + ((1 + width) - (1 + width)) = width
  omega

private theorem poll_spacedSample {sampler : ClockSampler} {width : Int} (nonneg : 0 ≤ width)
    (stored : sampler.lastObservation =
      some (ClockSampler.stamped (instantBounds 1) (secondsObserved 1)))
    (realtime : sampler.previousRealtimeMidpointNs = 1)
    (monotonic : sampler.previousMonotonicMidpointNs = 1)
    (within : width ≤ sampler.maximumUncertaintyNs) :
    (sampler.poll (instantBounds (1 + width)) (secondsObserved 2)).1 =
      some (spacedSample width) := by
  have steady : ¬ sampler.HostStepSeen (instantBounds (1 + width)) := by
    intro seen
    have beyond := seen.2
    rw [realtime, monotonic, realtimeMidpoint_instantBounds, monotonicMidpoint_instantBounds,
      sub_self, abs_zero] at beyond
    exact absurd beyond (by decide)
  have closes : sampler.Emits (ClockSampler.stamped (instantBounds 1) (secondsObserved 1))
      (ClockSampler.stamped (instantBounds (1 + width)) (secondsObserved 2)) := by
    refine ⟨?_, ?_, ?_⟩
    · change ClockSampler.isPlausibleTransition ⟨1, 0, 0, 16, 0⟩ ⟨2, 0, 0, 16, 0⟩ = true
      decide
    · change (1 : Int) ≤ 1 + width
      omega
    · have whole := uncertainty_spacedSample width
      change 1 + width - 1 + ((1 + width) - (1 + width)) = width at whole
      change 1 + width - 1 + ((1 + width) - (1 + width)) ≤ sampler.maximumUncertaintyNs
      rw [whole]
      exact within
  rw [ClockSampler.poll_sample,
    if_neg (not_or.mpr ⟨not_rollsBack_instantBounds (1 + width), by decide⟩),
    ClockSampler.comparedWith, if_neg steady, stored, Option.bind_some, if_pos closes]
  rfl

private theorem sampledBy_spacedPolls {limit width : Int} (nonneg : 0 ≤ width)
    (within : width ≤ limit) :
    ∃ sample ∈ sampledBy { maximumUncertaintyNs := limit } (spacedPolls width),
      sample.uncertaintyNs = width ∧ 0 < sample.smartnicNs ∧ 0 < sample.hostRealtimeNs := by
  have stored := ClockSampler.poll_lastObservation { maximumUncertaintyNs := limit }
    (instantBounds 1) (secondsObserved 1)
  have midpoints := ClockSampler.poll_midpoints { maximumUncertaintyNs := limit }
    (not_rollsBack_instantBounds 1) (secondsObserved 1)
  have limited := ClockSampler.poll_maximum { maximumUncertaintyNs := limit }
    (instantBounds 1) (secondsObserved 1)
  rw [if_neg (not_rollsBack_instantBounds 1), if_neg (by decide)] at stored
  rw [realtimeMidpoint_instantBounds, monotonicMidpoint_instantBounds] at midpoints
  have emits := poll_spacedSample nonneg stored midpoints.1 midpoints.2
    (by rw [limited]; exact within)
  refine ⟨spacedSample width, ?_, uncertainty_spacedSample width, ?_, ?_⟩
  · unfold spacedPolls sampledBy sampledBy
    rw [emits]
    exact List.mem_append_right _ (List.mem_append_left _ (List.mem_singleton_self _))
  · change (0 : Int) < 2000000000
    decide
  · have centre := (truncMidpoint_bounds (by omega : (1 : Int) ≤ 1 + width)).1
    change 0 < truncMidpoint 1 (1 + width)
    omega

/-- The layers agree exactly when the uncertainty limit in effect is not above the latency
limit, which no file changes. -/
theorem layers_agree_iff (settings : TimeSettings) :
    LayersAgree (loadTimeConfig settings) ↔
      (loadTimeConfig settings).maximumSampleUncertaintyNs ≤ 800000 := by
  have latency := loadTimeConfig_latency settings
  unfold DefaultLatency at latency
  constructor
  · intro agree
    by_contra above
    obtain ⟨sample, member, uncertainty, device, realtime⟩ :=
      sampledBy_spacedPolls (by decide : (0 : Int) ≤ 800001) (by omega :
        800001 ≤ (loadTimeConfig settings).maximumSampleUncertaintyNs)
    have accepted := (agree (spacedPolls 800001) [sample] (by
      intro other same
      rw [List.mem_singleton.mp same]
      exact ⟨member, device, realtime⟩) StdSort.insertion
      { config := (loadTimeConfig settings).calibration } rfl).1 sample
      (List.mem_singleton_self _)
    have bounded := (addSample_true_iff.mp accepted).2.1
    change sample.uncertaintyNs ≤
      (loadTimeConfig settings).calibration.maximumSampleLatencyNs at bounded
    omega
  · intro limits polls samples usable std calibration same
    have admitted : ∀ sample ∈ samples, calibration.config.Admits (toTimeSample sample) := by
      intro sample inside
      obtain ⟨member, device, realtime⟩ := usable sample inside
      rw [same]
      exact admits_sampledBy (by rw [latency]; exact limits) member device realtime
    constructor
    · intro sample inside
      exact addSample_true_iff.mpr (admitted sample inside)
    · apply rejectedSamples_initializeFrom
      intro sample inside
      obtain ⟨source, member, built⟩ := List.mem_map.mp inside
      rw [← built]
      exact admitted source member

/-- The time settings of the setting.yaml in the repository. -/
def shippedSettings : TimeSettings :=
  { startupSampleCount := .scalar 20
    startupBestSampleCount := .scalar 5
    calibrationRefreshBurstSize := .scalar 8
    maximumSampleUncertaintyNs := .scalar 2000000
    regressionWindowNs := .scalar 120000000000
    minimumRegressionSpanNs := .scalar 5000000000
    maximumDriftPpm := .scalar 1000
    hostStepThresholdNs := .scalar 500000
    modelStepThresholdNs := .scalar 20000000 }

/-- Under the shipped settings `addSample` refuses a sample of 1.5 ms uncertainty that the
sampler returned. -/
theorem shipped_settings_disagree :
    ∃ settings polls sample, settings = shippedSettings ∧
      sample ∈ sampledBy
        { maximumUncertaintyNs := (loadTimeConfig settings).maximumSampleUncertaintyNs } polls ∧
      0 < sample.smartnicNs ∧ 0 < sample.hostRealtimeNs ∧
      (ClockCalibration.addSample { config := (loadTimeConfig settings).calibration }
        (toTimeSample sample)).1 = false := by
  obtain ⟨sample, member, uncertainty, device, realtime⟩ :=
    sampledBy_spacedPolls (by decide : (0 : Int) ≤ 1500000)
      (by decide : 1500000 ≤ (loadTimeConfig shippedSettings).maximumSampleUncertaintyNs)
  refine ⟨shippedSettings, _, sample, rfl, member, device, realtime, ?_⟩
  apply Bool.eq_false_iff.mpr
  intro accepted
  have bounded := (addSample_true_iff.mp accepted).2.1
  change sample.uncertaintyNs ≤ 800000 at bounded
  omega

end SflowMiddle.Exporter

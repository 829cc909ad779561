/-
The time adjuster of src/Time.cpp: the reader and sampler chain feeding one
calibration. The deadline of a collection loop is an input here, as the list of
polls the loop has time for. Construction calibrates from the first publications
or throws, and no refresh invalidates what construction established.
-/

import SflowMiddle.Calibration.Runs
import SflowMiddle.Clock.MacClockReader

namespace SflowMiddle.Exporter

open SflowMiddle.Foundation
open SflowMiddle.Calibration
open SflowMiddle.Clock

namespace TimeAdjuster

structure Config where
  startupSampleCount : Nat := 64
  startupBestSampleCount : Nat := 8
  refreshBurstSize : Nat := 8
  maximumSampleUncertaintyNs : Int := 800000
  calibration : Calibration.Config := {}

end TimeAdjuster

structure TimeAdjuster where
  config : TimeAdjuster.Config
  chain : ClockChain
  calibration : ClockCalibration
  statusCache : CalibrationStatus := {}

namespace TimeAdjuster

/-- Polls until enough samples were emitted or the deadline has passed. -/
def collectPublicationSamples (count : Nat) (chain : ClockChain)
    (samples : List PublicationSample) :
    List PollInput → List PublicationSample × ClockChain
  | [] => (samples, chain)
  | input :: polls =>
      if samples.length < count then
        collectPublicationSamples count (chain.poll input).2
          (samples ++ (chain.poll input).1.toList) polls
      else (samples, chain)

def toTimeSample (sample : PublicationSample) : TimeSample where
  macNs := sample.smartnicNs
  unixNs := sample.hostRealtimeNs
  monotonicNs := sample.hostMonotonicNs
  latencyNs := sample.uncertaintyNs

def mergeSamplerStatus (adjuster : TimeAdjuster) : TimeAdjuster :=
  let counters := adjuster.chain.sampler.counters
  { adjuster with
    statusCache :=
      { adjuster.statusCache with
        acceptedSamples := counters.acceptedTransitions
        duplicateStates := counters.duplicateStates
        invalidObservations := counters.invalidObservations
        rejectedTransitions := counters.rejectedTransitions
        hostClockSteps := counters.hostClockSteps
        deviceResets := counters.deviceResets } }

def initializeFromPublicationSamples (std : StdSort) (adjuster : TimeAdjuster)
    (samples : List PublicationSample) : Bool × TimeAdjuster :=
  let latest := (samples.getLast?.map PublicationSample.uncertaintyNs).getD
    adjuster.statusCache.latestUncertaintyNs
  let timeSamples := (std.sort TimeSample.latencyNs (samples.map toTimeSample)).take
    adjuster.config.startupBestSampleCount
  let started := adjuster.calibration.initializeFrom std timeSamples
  (started.1,
    { adjuster with
      statusCache := { adjuster.statusCache with latestUncertaintyNs := latest }
      calibration := started.2 })

/-- The constructor, for a valid CPP handle and a resolved clock symbol. -/
def construct (std : StdSort) (config : Config) (polls : List PollInput) :
    Except StdException TimeAdjuster :=
  let sampler : ClockSampler :=
    { maximumUncertaintyNs := config.maximumSampleUncertaintyNs }
  let (samples, chain) :=
    collectPublicationSamples config.startupSampleCount { sampler := sampler } [] polls
  let fresh : TimeAdjuster :=
    { config := config, chain := chain, calibration := { config := config.calibration } }
  let started := fresh.initializeFromPublicationSamples std samples
  if started.1 = false then
    .error (.runtimeError ("Unable to calibrate SmartNIC clock from exported mac_time " ++
      "publications before startup timeout"))
  else .ok started.2.mergeSamplerStatus

def refresh (adjuster : TimeAdjuster) (polls : List PollInput) : Bool × TimeAdjuster :=
  let (samples, chain) :=
    collectPublicationSamples adjuster.config.refreshBurstSize adjuster.chain [] polls
  let polled := { adjuster with chain := chain }
  match minElement PublicationSample.uncertaintyNs samples with
  | none => (false, polled.mergeSamplerStatus)
  | some best =>
      let added := polled.calibration.addSample (toTimeSample best)
      (added.1, { polled with calibration := added.2 }.mergeSamplerStatus)

def toUnixNanoseconds (adjuster : TimeAdjuster) (sec nsec : UInt32) : Except StdException Int :=
  if kNanosecondsPerSecond ≤ nsec.toNat then
    .error (.invalidArgument "SmartNIC timestamp nanoseconds are invalid")
  else adjuster.calibration.toUnixNanoseconds (sec.toNat * kNanosecondsPerSecond + nsec.toNat)

/-- What the adjuster reports: the calibration's own status, with the sampler's counters as
they were last merged. -/
def status (adjuster : TimeAdjuster) : CalibrationStatus :=
  let status := adjuster.calibration.status
  { status with
    duplicateStates := adjuster.statusCache.duplicateStates
    invalidObservations := adjuster.statusCache.invalidObservations
    rejectedTransitions := adjuster.statusCache.rejectedTransitions
    hostClockSteps := adjuster.statusCache.hostClockSteps
    deviceResets := adjuster.statusCache.deviceResets
    latestUncertaintyNs := adjuster.statusCache.latestUncertaintyNs
    state :=
      if status.valid = false ∧ adjuster.statusCache.state = .degraded then .degraded
      else status.state }

/-! ### Refreshes after a construction that returned -/

def adjusterSystem (std : StdSort) (config : Config) :
    TransitionSystem TimeAdjuster (List PollInput) where
  initial adjuster := ∃ polls, construct std config polls = .ok adjuster
  step before polls after := after = (before.refresh polls).2

theorem refresh_calibration (adjuster : TimeAdjuster) (polls : List PollInput) :
    (adjuster.refresh polls).2.calibration = adjuster.calibration ∨
      ∃ sample, (adjuster.refresh polls).2.calibration =
        (adjuster.calibration.addSample sample).2 := by
  unfold refresh
  dsimp only
  split
  · exact Or.inl rfl
  · rename_i best _
    exact Or.inr ⟨toTimeSample best, rfl⟩

theorem construct_calibration {std : StdSort} {config : Config} {polls : List PollInput}
    {adjuster : TimeAdjuster} (constructed : construct std config polls = .ok adjuster) :
    ∃ samples,
      (ClockCalibration.initializeFrom std { config := config.calibration } samples).1 = true ∧
      adjuster.calibration =
        (ClockCalibration.initializeFrom std { config := config.calibration } samples).2 := by
  unfold construct at constructed
  dsimp only at constructed
  split at constructed
  · cases constructed
  · rename_i started
    cases constructed
    exact ⟨_, Bool.of_not_eq_false started, rfl⟩

theorem calibration_of_reachable {std : StdSort} {config : Config} {adjuster : TimeAdjuster}
    (reachable : (adjusterSystem std config).Reachable adjuster) :
    ∃ tracked, (calibrationSystem std config.calibration).Reachable tracked ∧
      tracked.calibration = adjuster.calibration := by
  refine reachable.invariant
    (fun state => ∃ tracked, (calibrationSystem std config.calibration).Reachable tracked ∧
      tracked.calibration = state.calibration) ?_ ?_
  · rintro state ⟨polls, constructed⟩
    obtain ⟨samples, _, same⟩ := construct_calibration constructed
    exact ⟨_, @TransitionSystem.Reachable.next _ _ _ _ _ (.initializeFrom samples) (.start rfl) rfl,
      same.symm⟩
  · rintro before polls after step ⟨tracked, reached, same⟩
    rw [step]
    rcases before.refresh_calibration polls with unchanged | ⟨sample, added⟩
    · exact ⟨tracked, reached, by rw [unchanged, same]⟩
    · refine ⟨_, @TransitionSystem.Reachable.next _ _ _ _ _ (.addSample sample) reached rfl, ?_⟩
      rw [added, ← same]
      rfl

theorem valid_of_reachable {std : StdSort} {config : Config} {adjuster : TimeAdjuster}
    (reachable : (adjusterSystem std config).Reachable adjuster) :
    adjuster.calibration.status.valid = true := by
  refine reachable.invariant (fun state => state.calibration.status.valid = true) ?_ ?_
  · rintro state ⟨polls, constructed⟩
    obtain ⟨samples, started, same⟩ := construct_calibration constructed
    rw [same]
    exact (initializeFrom_valid std _ samples).trans started
  · intro before polls after step valid
    rw [step]
    rcases before.refresh_calibration polls with unchanged | ⟨sample, added⟩
    · rw [unchanged]
      exact valid
    · rw [added]
      exact addSample_valid sample valid

/-! ### Conversion of a device timestamp -/

def Readable (nsec : UInt32) : Prop := (nsec.toNat : Int) < kNanosecondsPerSecond

instance (nsec : UInt32) : Decidable (Readable nsec) :=
  inferInstanceAs (Decidable (_ < _))

def macNs (sec nsec : UInt32) : Int := sec.toNat * kNanosecondsPerSecond + nsec.toNat

theorem toUnixNanoseconds_of_readable {adjuster : TimeAdjuster} {sec nsec : UInt32}
    (valid : adjuster.calibration.status.valid = true) (readable : Readable nsec) :
    adjuster.toUnixNanoseconds sec nsec = .ok (adjuster.calibration.convert (macNs sec nsec)) := by
  unfold toUnixNanoseconds
  rw [if_neg (not_le.mpr readable), ClockCalibration.toUnixNanoseconds, if_neg (by simp [valid])]
  rfl

private theorem toUnixNanoseconds_of_unreadable {adjuster : TimeAdjuster} {sec nsec : UInt32}
    (unreadable : ¬ Readable nsec) :
    adjuster.toUnixNanoseconds sec nsec =
      .error (.invalidArgument "SmartNIC timestamp nanoseconds are invalid") :=
  if_pos (not_lt.mp unreadable)

theorem toUnixNanoseconds_eq_ok {adjuster : TimeAdjuster} {sec nsec : UInt32} {unixNs : Int}
    (converted : adjuster.toUnixNanoseconds sec nsec = .ok unixNs) :
    Readable nsec ∧ adjuster.calibration.status.valid = true ∧
      unixNs = adjuster.calibration.convert (macNs sec nsec) := by
  by_cases readable : Readable nsec
  · unfold toUnixNanoseconds at converted
    rw [if_neg (not_le.mpr readable), ClockCalibration.toUnixNanoseconds] at converted
    split at converted
    · cases converted
    · rename_i valid
      cases converted
      exact ⟨readable, Bool.of_not_eq_false valid, rfl⟩
  · rw [toUnixNanoseconds_of_unreadable readable] at converted
    cases converted

end TimeAdjuster

/-! ### A startup on five polls -/

def startupPolls : List PollInput :=
  [1, 2, 3, 4, 5].map fun count : Nat =>
    { bounds :=
        { realtimeBeforeNs := 1000 * count
          realtimeAfterNs := 1000 * count + 100
          monotonicBeforeNs := 1000 * count
          monotonicAfterNs := 1000 * count + 100 }
      raw := .ok ⟨UInt32.ofNat count, 0, 0, 16, 0⟩ }

theorem TimeAdjuster.construct_checked {std : StdSort} {config : TimeAdjuster.Config}
    {polls : List PollInput} {check : TimeAdjuster → Bool}
    (passes : (construct std config polls).toOption.map check = some true) :
    ∃ adjuster, construct std config polls = .ok adjuster ∧ check adjuster = true := by
  cases constructed : construct std config polls with
  | error exception =>
      rw [constructed] at passes
      cases passes
  | ok adjuster =>
      rw [constructed] at passes
      exact ⟨adjuster, rfl, Option.some.inj passes⟩

theorem startup_reachable :
    ∃ adjuster, (TimeAdjuster.adjusterSystem StdSort.insertion {}).Reachable adjuster := by
  have constructed : ∃ adjuster,
      TimeAdjuster.construct StdSort.insertion {} startupPolls = .ok adjuster := ⟨_, rfl⟩
  obtain ⟨adjuster, started⟩ := constructed
  exact ⟨adjuster, .start ⟨startupPolls, started⟩⟩

/-! ### What the status reports -/

namespace TimeAdjuster

def startupSamples (config : Config) (polls : List PollInput) : List PublicationSample :=
  (collectPublicationSamples config.startupSampleCount
    { sampler := { maximumUncertaintyNs := config.maximumSampleUncertaintyNs } } [] polls).1

/-- A working calibration, with the counters of the sampler as they are now. -/
structure StatusExact (adjuster : TimeAdjuster) : Prop where
  valid : adjuster.status.valid = true
  phase : Phase adjuster.calibration.config adjuster.status
  duplicateStates :
    adjuster.status.duplicateStates = adjuster.chain.sampler.counters.duplicateStates
  invalidObservations :
    adjuster.status.invalidObservations = adjuster.chain.sampler.counters.invalidObservations
  rejectedTransitions :
    adjuster.status.rejectedTransitions = adjuster.chain.sampler.counters.rejectedTransitions
  hostClockSteps :
    adjuster.status.hostClockSteps = adjuster.chain.sampler.counters.hostClockSteps
  deviceResets : adjuster.status.deviceResets = adjuster.chain.sampler.counters.deviceResets

private theorem statusExact_mergeSamplerStatus {adjuster : TimeAdjuster}
    (valid : adjuster.calibration.status.valid = true)
    (phase : Phase adjuster.calibration.config adjuster.calibration.status) :
    StatusExact adjuster.mergeSamplerStatus where
  valid := valid
  phase := by
    refine phase.congr (if_neg ?_) rfl rfl rfl
    rintro ⟨invalid, _⟩
    rw [show adjuster.mergeSamplerStatus.calibration.status.valid = true from valid] at invalid
    cases invalid
  duplicateStates := rfl
  invalidObservations := rfl
  rejectedTransitions := rfl
  hostClockSteps := rfl
  deviceResets := rfl

private theorem refresh_merges (adjuster : TimeAdjuster) (polls : List PollInput) :
    ∃ polled : TimeAdjuster, (adjuster.refresh polls).2 = polled.mergeSamplerStatus ∧
      (adjuster.refresh polls).2.status.latestUncertaintyNs =
        adjuster.status.latestUncertaintyNs := by
  unfold refresh
  dsimp only
  split
  · exact ⟨_, rfl, rfl⟩
  · exact ⟨_, rfl, rfl⟩

theorem phase_of_reachable {std : StdSort} {config : Config} {adjuster : TimeAdjuster}
    (reachable : (adjusterSystem std config).Reachable adjuster) :
    Phase adjuster.calibration.config adjuster.calibration.status := by
  obtain ⟨tracked, reached, same⟩ := calibration_of_reachable reachable
  rw [← same]
  exact Calibration.phase_of_reachable reached

private theorem startupSamples_ne_nil {std : StdSort} {config : Config} {polls : List PollInput}
    {adjuster : TimeAdjuster} (constructed : construct std config polls = .ok adjuster) :
    startupSamples config polls ≠ [] := by
  unfold construct at constructed
  dsimp only at constructed
  split at constructed
  · cases constructed
  · rename_i started
    intro none
    have enough := (initializeFrom_true_iff std { config := config.calibration } _).mp
      (Bool.of_not_eq_false started)
    have fewer := (enough.trans (List.length_filter_le _ _)).trans (List.length_take_le' _ _)
    rw [std.length_sort, List.length_map] at fewer
    change 4 ≤ (startupSamples config polls).length at fewer
    rw [none] at fewer
    exact absurd fewer (by decide)

private theorem construct_merges {std : StdSort} {config : Config} {polls : List PollInput}
    {adjuster : TimeAdjuster} (constructed : construct std config polls = .ok adjuster) :
    (∃ started : TimeAdjuster, adjuster = started.mergeSamplerStatus) ∧
      ∃ sample, (startupSamples config polls).getLast? = some sample ∧
        adjuster.status.latestUncertaintyNs = sample.uncertaintyNs := by
  have collected := List.getLast?_eq_some_getLast (startupSamples_ne_nil constructed)
  unfold construct at constructed
  dsimp only at constructed
  split at constructed
  · cases constructed
  · cases constructed
    refine ⟨⟨_, rfl⟩, _, collected, ?_⟩
    change ((startupSamples config polls).getLast?.map PublicationSample.uncertaintyNs).getD 0 = _
    rw [collected]
    rfl

end TimeAdjuster

end SflowMiddle.Exporter

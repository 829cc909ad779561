/-
From the publications of the device to the converted times. Everything the calibration
keeps is a sample the chain emitted, so where the device's clock follows a line against
the realtime clock of the host, the samples are near that line, and so is what a time
adjuster makes of a device time.
-/

import SflowMiddle.Calibration.Accuracy
import SflowMiddle.Clock.Realtime
import SflowMiddle.Exporter.SampleChain

namespace SflowMiddle.Exporter

open SflowMiddle.Foundation
open SflowMiddle.Calibration
open SflowMiddle.Clock
open TimeAdjuster

/-! ### What the calibration keeps -/

/-- The calibration of the adjuster, with all the samples kept since its last anchor; they are
among those the chain has emitted. -/
structure KeepsEmitted (std : StdSort) (config : Calibration.Config) (run : AdjusterRun)
    (tracked : Tracked) : Prop where
  reachable : (calibrationSystem std config).Reachable tracked
  calibration : tracked.calibration = run.adjuster.calibration
  emitted : ∀ kept ∈ tracked.kept, ∃ sample ∈ run.publications.emitted, kept = toTimeSample sample

private theorem mem_keptAfter {calibration : ClockCalibration} {kept : List TimeSample}
    {sample item : TimeSample} (member : item ∈ keptAfter calibration kept sample) :
    item ∈ kept ∨ item = sample := by
  unfold keptAfter at member
  rcases List.mem_append.mp member with old | new
  · split at old
    · cases old
    · exact Or.inl old
  · exact Or.inr (List.mem_singleton.mp new)

private theorem pollsMade_subset (count : Nat) (chain : ClockChain)
    (samples : List PublicationSample)
    (polls : List PollInput) : pollsMade count chain samples polls ⊆ polls := by
  induction polls generalizing chain samples with
  | nil => exact List.Subset.refl _
  | cons input polls ih =>
      unfold pollsMade
      split
      · exact List.cons_subset_cons input (ih _ _)
      · exact List.nil_subset _

section Steps

variable {std : StdSort} {config : TimeAdjuster.Config} {run : AdjusterRun}

private theorem construct_initializes {polls : List PollInput} {adjuster : TimeAdjuster}
    (constructed : construct std config polls = .ok adjuster) :
    adjuster.calibration = (ClockCalibration.initializeFrom std { config := config.calibration }
      ((std.sort TimeSample.latencyNs ((startupSamples config polls).map toTimeSample)).take
        config.startupBestSampleCount)).2 := by
  unfold construct at constructed
  dsimp only at constructed
  split at constructed
  · cases constructed
  · have same := Except.ok.inj constructed
    rw [← same]
    rfl

private theorem keepsEmitted_construct (initial : (adjusterRunSystem std config).initial run) :
    ∃ tracked, KeepsEmitted std config.calibration run tracked := by
  obtain ⟨clockNs, polls, constructed, _, publications, _⟩ := initial
  obtain ⟨fresh, collected, emitted, _⟩ := collect_recorded config.startupSampleCount polls
    (startupPublications config clockNs) []
  have none : (startupPublications config clockNs).emitted = [] := rfl
  rw [none, List.nil_append, ← publications] at emitted
  rw [List.nil_append] at collected
  let call : CalibrationCall := .initializeFrom
    ((std.sort TimeSample.latencyNs ((startupSamples config polls).map toTimeSample)).take
      config.startupBestSampleCount)
  refine ⟨Tracked.perform std { calibration := { config := config.calibration }, kept := [] } call,
    .next (.start rfl) rfl, (construct_initializes constructed).symm, ?_⟩
  intro kept member
  change kept ∈ (ClockCalibration.initializeFrom std _ _).2.samples at member
  rw [initializeFrom_samples] at member
  split at member
  · have taken := List.mem_of_mem_take (mem_startupSelection member).1
    obtain ⟨sample, source, made⟩ := List.mem_map.mp ((std.mem_sort _ _ _).mp taken)
    refine ⟨sample, ?_, made.symm⟩
    rw [emitted, ← collected]
    exact source
  · cases member

private theorem keepsEmitted_refresh {maximumUncertaintyNs : Int} {config : Calibration.Config}
    {polls : List PollInput} {tracked : Tracked} (fed : FedByChain maximumUncertaintyNs run)
    (inOrder : InOrder run.publications.clockNs
      (pollsMade run.adjuster.config.refreshBurstSize run.adjuster.chain [] polls))
    (keeps : KeepsEmitted std config run tracked) :
    ∃ after, KeepsEmitted std config (run.refresh polls) after := by
  obtain ⟨fresh, _, emitted, _⟩ := collect_recorded
    run.adjuster.config.refreshBurstSize polls run.publications []
  rw [← fed.chain] at emitted
  have grows : ∀ sample ∈ run.publications.emitted,
      sample ∈ (run.refresh polls).publications.emitted := by
    intro sample member
    change sample ∈ (run.publications.recordAll _).emitted
    rw [emitted]
    exact List.mem_append_left _ member
  have kept : ∀ item ∈ tracked.kept, ∃ sample ∈ (run.refresh polls).publications.emitted,
      item = toTimeSample sample := by
    intro item member
    obtain ⟨sample, source, made⟩ := keeps.emitted item member
    exact ⟨sample, grows sample source, made⟩
  have calibrated := (run.adjuster.refresh_frame polls).2
  cases handed : run.adjuster.refreshSample polls with
  | none =>
      rw [handed] at calibrated
      exact ⟨tracked, keeps.reachable, keeps.calibration.trans calibrated.symm, kept⟩
  | some best =>
      rw [handed] at calibrated
      refine ⟨tracked.perform std (.addSample (toTimeSample best)), keeps.reachable.next rfl,
        ?_, ?_⟩
      · change (tracked.calibration.addSample (toTimeSample best)).2 = _
        rw [keeps.calibration]
        exact calibrated.symm
      · intro item member
        change item ∈ (if tracked.calibration.config.Admits (toTimeSample best) then
          keptAfter tracked.calibration tracked.kept (toTimeSample best)
            else tracked.kept) at member
        split at member
        · rcases mem_keptAfter member with old | new
          · exact kept item old
          · exact ⟨best, (refreshSample_ahead fed inOrder handed).1, new⟩
        · exact kept item member

theorem keepsEmitted_of_reachable (reachable : (adjusterRunSystem std config).Reachable run) :
    ∃ tracked, KeepsEmitted std config.calibration run tracked := by
  have both := reachable.invariant
    (fun current => FedByChain config.maximumSampleUncertaintyNs current ∧
      ∃ tracked, KeepsEmitted std config.calibration current tracked)
    (fun start initial => ⟨fedByChain_construct initial, keepsEmitted_construct initial⟩)
    (by
      intro before polls after step holds
      obtain ⟨inOrder, refreshed⟩ := step
      obtain ⟨fed, tracked, keeps⟩ := holds
      rw [refreshed]
      exact ⟨fedByChain_refresh fed inOrder, keepsEmitted_refresh fed inOrder keeps⟩)
  exact both.2

theorem adjuster_of_reachable (reachable : (adjusterRunSystem std config).Reachable run) :
    (adjusterSystem std config).Reachable run.adjuster := by
  induction reachable with
  | start initial =>
      obtain ⟨_, polls, constructed, _⟩ := initial
      exact .start ⟨polls, constructed⟩
  | next _ step ih =>
      rw [step.2]
      exact ih.next rfl

end Steps

/-! ### The line of the device's clock -/

/-- Against the realtime clock of the host the device publishes its times on a line, but for
a jitter. -/
def OnLine (clocks : TrueClocks) (line : ClockLine) (jitter : ℚ) : Prop :=
  ∀ publication, |clocks.realtime (clocks.device.publishedAt publication) -
    (line.unixAt (clocks.device.state publication).timeNs : ℚ)| ≤ jitter

/-- How far the samples of a run can be from the line. -/
def sampleError (clocks : TrueClocks) (jitter : ℚ) (maximumUncertaintyNs latency : Int) : ℚ :=
  clocks.dateError maximumUncertaintyNs latency + jitter

section Samples

variable {clocks : TrueClocks} {line : ClockLine} {jitter : ℚ}
  {maximumUncertaintyNs latency : Int}

private theorem near_of_closes {opening closing : PollInput} {sample : PublicationSample}
    (onLine : OnLine clocks line jitter) (openingHonest : clocks.Honest latency opening)
    (closingHonest : clocks.Honest latency closing)
    (closes : Closes maximumUncertaintyNs opening closing sample) :
    line.Near (sampleError clocks jitter maximumUncertaintyNs latency) (toTimeSample sample) := by
  obtain ⟨publication, time, dated⟩ := TrueClocks.date_near openingHonest closingHonest closes
  have published := onLine publication
  rw [time] at published
  have total : |(sample.hostRealtimeNs : ℝ) - (line.unixAt sample.smartnicNs : ℚ)| ≤
      (clocks.dateError maximumUncertaintyNs latency : ℚ) + (jitter : ℚ) :=
    calc |(sample.hostRealtimeNs : ℝ) - (line.unixAt sample.smartnicNs : ℚ)|
        ≤ |(sample.hostRealtimeNs : ℝ) -
              clocks.realtime (clocks.device.publishedAt publication)| +
            |clocks.realtime (clocks.device.publishedAt publication) -
              (line.unixAt sample.smartnicNs : ℚ)| := abs_sub_le _ _ _
      _ ≤ _ := add_le_add dated published
  unfold ClockLine.Near sampleError
  exact_mod_cast total

private theorem samples_near {run : Publications}
    (reachable : (publicationSystem maximumUncertaintyNs).Reachable run)
    (honest : ∀ input ∈ run.polls, clocks.Honest latency input)
    (onLine : OnLine clocks line jitter) : ∀ sample ∈ run.emitted,
      line.Near (sampleError clocks jitter maximumUncertaintyNs latency)
        (toTimeSample sample) := by
  intro sample member
  obtain ⟨opening, opened, closing, closed, closes⟩ :=
    (traced_of_reachable reachable).closed sample member
  exact near_of_closes onLine (honest opening opened) (honest closing closed) closes

end Samples

/-! ### The converted times -/

/-- What an adjuster makes of device times. Without a drift it is off by the samples' error and
the drift over the distance to them; with one it has the error of a line through some of them. -/
structure ConvertsNear (line : ClockLine) (bound : ℚ) (run : AdjusterRun) : Prop where
  offsetOnly : run.adjuster.status.driftCalibrated = false → ∀ sec nsec unixNs reach,
    run.adjuster.toUnixNanoseconds sec nsec = .ok unixNs →
      (∀ sample ∈ run.publications.emitted,
        |(macNs sec nsec : ℚ) - sample.smartnicNs| ≤ reach) →
      |(unixNs : ℚ) - line.unixAt (macNs sec nsec)| ≤ bound + |line.slope - 1| * reach
  tracking : run.adjuster.status.driftCalibrated = true → ∃ chosen origin,
    (∀ kept ∈ chosen, ∃ sample ∈ run.publications.emitted, kept = toTimeSample sample) ∧
      4 ≤ chosen.length ∧ codeviation (macOffset origin) (macOffset origin) chosen ≠ 0 ∧
      ∀ sec nsec unixNs, run.adjuster.toUnixNanoseconds sec nsec = .ok unixNs →
        ∃ miss, LineError line bound chosen origin (macNs sec nsec) unixNs miss

section Runs

variable {std : StdSort} {config : TimeAdjuster.Config} {run : AdjusterRun} {clocks : TrueClocks}
  {line : ClockLine} {jitter : ℚ} {latency : Int}

theorem converts_near (reachable : (adjusterRunSystem std config).Reachable run)
    (honest : ∀ input ∈ run.publications.polls, clocks.Honest latency input)
    (onLine : OnLine clocks line jitter) :
    ConvertsNear line
      (sampleError clocks jitter config.maximumSampleUncertaintyNs latency) run := by
  obtain ⟨tracked, keeps⟩ := keepsEmitted_of_reachable reachable
  have emittedNear := samples_near (fedByChain_of_reachable reachable).polled honest onLine
  have near : ∀ kept ∈ tracked.kept,
      line.Near (sampleError clocks jitter config.maximumSampleUncertaintyNs latency) kept := by
    intro kept member
    obtain ⟨sample, emitted, made⟩ := keeps.emitted kept member
    rw [made]
    exact emittedNear sample emitted
  have model := (sourced_of_reachable keeps.reachable).model
  rw [keeps.calibration] at model
  obtain ⟨offset, fitted⟩ :=
    (model (valid_of_reachable (adjuster_of_reachable reachable))).near_line near
  constructor
  · intro noDrift sec nsec unixNs reach converted reached
    obtain ⟨_, _, rfl⟩ := toUnixNanoseconds_eq_ok converted
    apply offset noDrift
    intro kept member
    obtain ⟨sample, emitted, made⟩ := keeps.emitted kept member
    rw [made]
    exact reached sample emitted
  · intro drift
    obtain ⟨chosen, origin, inside, enough, spread, misses⟩ := fitted drift
    refine ⟨chosen, origin, fun kept member => keeps.emitted kept (inside member), enough, spread,
      ?_⟩
    intro sec nsec unixNs converted
    obtain ⟨_, _, rfl⟩ := toUnixNanoseconds_eq_ok converted
    exact misses (macNs sec nsec)

end Runs

/-! ### A startup on six polls, half a millisecond apart -/

def halfMillisecondState (count : Nat) : MacTimeStateHost :=
  ⟨1, UInt32.ofNat (500000 * count), 0, 16, 0⟩

def halfMillisecondDevice : PublishingDevice where
  count := 6
  publishedAt := fun publication => 500000 * ((publication.val : Nat) : ℝ)
  state := fun publication => halfMillisecondState publication.val
  ordered := by
    intro left right below
    have cast : ((left.val : Nat) : ℝ) < ((right.val : Nat) : ℝ) := Nat.cast_lt.mpr below
    change 500000 * ((left.val : Nat) : ℝ) < 500000 * ((right.val : Nat) : ℝ)
    linarith
  advancing := by
    intro left right below
    revert below
    revert left right
    decide

def halfMillisecondClocks : TrueClocks where
  device := halfMillisecondDevice
  realtime := id
  rate := 1
  forward := monotone_id
  limited := by
    intro earlier later _
    simp

def halfMillisecondPoll (count : Nat) : PollInput :=
  { bounds :=
      { realtimeBeforeNs := 500000 * count
        realtimeAfterNs := 500000 * count + 100
        monotonicBeforeNs := 500000 * count
        monotonicAfterNs := 500000 * count + 100 }
    raw := .ok (halfMillisecondState count) }

def halfMillisecondPolls : List PollInput := (List.range 6).map halfMillisecondPoll

private theorem honest_halfMillisecond :
    ∀ input ∈ halfMillisecondPolls, halfMillisecondClocks.Honest 100 input := by
  intro input member
  obtain ⟨count, inRange, rfl⟩ := List.mem_map.mp member
  constructor
  · exact le_refl _
  · exact le_refl _
  · change (500000 * (count : Int) + 100) - 500000 * count ≤ 100
    omega
  · intro state read
    cases read
    refine ⟨500000 * count, (⟨count, List.mem_range.mp inRange⟩ : Fin 6), ?_, ?_, ⟨le_refl _, ?_⟩,
      rfl⟩
    · change ((500000 * (count : Int) : Int) : ℝ) ≤ 500000 * count
      push_cast
      exact le_refl _
    · change (500000 : ℝ) * count ≤ ((500000 * (count : Int) + 100 : Int) : ℝ)
      push_cast
      linarith
    · intro later after
      have cast : (count : ℝ) < ((later.val : Nat) : ℝ) := Nat.cast_lt.mpr after
      change (500000 : ℝ) * count < 500000 * ((later.val : Nat) : ℝ)
      linarith

theorem onLine_halfMillisecond :
    OnLine halfMillisecondClocks ⟨1000000000, 0, 1⟩ 0 := by
  intro publication
  have time : ∀ count : Fin 6,
      (halfMillisecondState count.val).timeNs = 1000000000 + 500000 * (count.val : Nat) := by
    decide
  have shown : (halfMillisecondDevice.state publication).timeNs =
      1000000000 + 500000 * (publication.val : Nat) := time publication
  change |500000 * ((publication.val : Nat) : ℝ) -
    (ClockLine.unixAt ⟨1000000000, 0, 1⟩ (halfMillisecondDevice.state publication).timeNs : ℚ)| ≤
      ((0 : ℚ) : ℝ)
  rw [shown]
  unfold ClockLine.unixAt
  push_cast
  simp

theorem halfMillisecond_startup {check : TimeAdjuster → Bool}
    (passes : (construct StdSort.insertion {} halfMillisecondPolls).toOption.map check =
      some true) :
    ∃ run : AdjusterRun, (adjusterRunSystem StdSort.insertion {}).initial run ∧
      (∀ input ∈ run.publications.polls, halfMillisecondClocks.Honest 100 input) ∧
      check run.adjuster = true := by
  let made := pollsMade 64 (startupPublications {} 0).chain [] halfMillisecondPolls
  have inOrder : InOrder 0 made := by decide +kernel
  obtain ⟨adjuster, constructed, checked⟩ := construct_checked passes
  refine ⟨⟨adjuster, (startupPublications {} 0).recordAll made, []⟩,
    ⟨0, halfMillisecondPolls, constructed, inOrder, rfl, rfl⟩, ?_, checked⟩
  intro input member
  rw [Publications.polls_recordAll] at member
  exact honest_halfMillisecond input
    (pollsMade_subset _ _ _ _ (show input ∈ made from member))

end SflowMiddle.Exporter

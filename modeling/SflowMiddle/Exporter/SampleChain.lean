/-
The samples of a time adjuster from its construction on. Startup and every refresh
poll one chain in turn, so what a refresh hands to the calibration is ahead of
everything handed before and of the last device time the calibration recorded.
-/

import SflowMiddle.Clock.Publications
import SflowMiddle.Exporter.TimeAdjuster

namespace SflowMiddle.Exporter

open SflowMiddle.Foundation
open SflowMiddle.Calibration
open SflowMiddle.Clock

namespace TimeAdjuster

/-- The polls a collection loop makes before it has enough samples. -/
def pollsMade (count : Nat) (chain : ClockChain) (samples : List PublicationSample) :
    List PollInput → List PollInput
  | [] => []
  | input :: polls =>
      if samples.length < count then
        input :: pollsMade count (chain.poll input).2
          (samples ++ (chain.poll input).1.toList) polls
      else []

theorem collect_recorded (count : Nat) (polls : List PollInput) (run : Publications)
    (samples : List PublicationSample) :
    ∃ fresh, (collectPublicationSamples count run.chain samples polls).1 = samples ++ fresh ∧
      (run.recordAll (pollsMade count run.chain samples polls)).emitted = run.emitted ++ fresh ∧
      (collectPublicationSamples count run.chain samples polls).2 =
        (run.recordAll (pollsMade count run.chain samples polls)).chain := by
  induction polls generalizing run samples with
  | nil =>
      refine ⟨[], ?_, ?_, rfl⟩
      · exact (List.append_nil samples).symm
      · exact (List.append_nil run.emitted).symm
  | cons input polls ih =>
      unfold collectPublicationSamples pollsMade
      split
      · obtain ⟨fresh, collected, emitted, chain⟩ :=
          ih (run.record input) (samples ++ (run.chain.poll input).1.toList)
        refine ⟨(run.chain.poll input).1.toList ++ fresh, ?_, ?_, chain⟩
        · rw [← List.append_assoc]
          exact collected
        · rw [Publications.emitted_record, List.append_assoc] at emitted
          exact emitted
      · refine ⟨[], ?_, ?_, rfl⟩
        · exact (List.append_nil samples).symm
        · exact (List.append_nil run.emitted).symm

/-- The sample a refresh hands to the calibration, if it collected any. -/
def refreshSample (adjuster : TimeAdjuster) (polls : List PollInput) :
    Option PublicationSample :=
  minElement PublicationSample.uncertaintyNs
    (collectPublicationSamples adjuster.config.refreshBurstSize adjuster.chain [] polls).1

theorem refresh_frame (adjuster : TimeAdjuster) (polls : List PollInput) :
    (adjuster.refresh polls).2.chain =
        (collectPublicationSamples adjuster.config.refreshBurstSize adjuster.chain [] polls).2 ∧
      (adjuster.refresh polls).2.calibration =
        match adjuster.refreshSample polls with
        | none => adjuster.calibration
        | some best => (adjuster.calibration.addSample (toTimeSample best)).2 := by
  unfold refresh refreshSample
  dsimp only
  cases minElement PublicationSample.uncertaintyNs
      (collectPublicationSamples adjuster.config.refreshBurstSize adjuster.chain [] polls).1 with
  | none => exact ⟨rfl, rfl⟩
  | some best => exact ⟨rfl, rfl⟩

/-! ### The device time the calibration recorded last -/

private theorem lastMac_initializeFrom {std : StdSort} {calibration : ClockCalibration}
    {samples : List TimeSample} (started : (calibration.initializeFrom std samples).1 = true) :
    ∃ sample ∈ samples, (calibration.initializeFrom std samples).2.lastMacNs = sample.macNs := by
  have valid := (initializeFrom_valid std calibration samples).trans started
  have stored := initializeFrom_samples std calibration samples
  rw [if_pos started] at stored
  cases windowState_initializeFrom std calibration samples with
  | empty invalid =>
      rw [valid] at invalid
      cases invalid
  | running newest _ retained lastMac =>
      have member := List.mem_of_getLast? retained.last
      rw [stored] at member
      exact ⟨newest, (mem_startupSelection member).1, lastMac.symm⟩

private theorem lastMac_addSample (calibration : ClockCalibration) (sample : TimeSample) :
    (calibration.addSample sample).2.lastMacNs = calibration.lastMacNs ∨
      (calibration.addSample sample).2.lastMacNs = sample.macNs := by
  by_cases admitted : calibration.config.Admits sample
  · right
    rw [addSample_of_admits admitted]
    exact (fitIfDue_frame _).2.2.1.trans (absorb_last calibration sample).1
  · left
    rw [addSample_of_not_admits admitted]

end TimeAdjuster

/-! ### Runs of the whole adjuster -/

/-- An adjuster, all its polls, and the samples it handed to `addSample`. -/
structure AdjusterRun where
  adjuster : TimeAdjuster
  publications : Publications
  handed : List TimeSample := []

open TimeAdjuster

def startupPublications (config : TimeAdjuster.Config) (clockNs : Int) : Publications :=
  { chain := { sampler := { maximumUncertaintyNs := config.maximumSampleUncertaintyNs } }
    clockNs := clockNs }

def AdjusterRun.refresh (run : AdjusterRun) (polls : List PollInput) : AdjusterRun :=
  { adjuster := (run.adjuster.refresh polls).2
    publications := run.publications.recordAll
      (pollsMade run.adjuster.config.refreshBurstSize run.adjuster.chain [] polls)
    handed := run.handed ++ ((run.adjuster.refreshSample polls).map toTimeSample).toList }

/-- Construction and then refreshes, on a monotonic clock that does not run backwards. -/
def adjusterRunSystem (std : StdSort) (config : TimeAdjuster.Config) :
    TransitionSystem AdjusterRun (List PollInput) where
  initial run := ∃ clockNs polls,
    construct std config polls = .ok run.adjuster ∧
      InOrder clockNs (pollsMade config.startupSampleCount
        (startupPublications config clockNs).chain [] polls) ∧
      run.publications = (startupPublications config clockNs).recordAll
        (pollsMade config.startupSampleCount
          (startupPublications config clockNs).chain [] polls) ∧
      run.handed = []
  step before polls after :=
    InOrder before.publications.clockNs
        (pollsMade before.adjuster.config.refreshBurstSize before.adjuster.chain [] polls) ∧
      after = before.refresh polls

/-- Everything the calibration has seen was emitted by the chain it polls. -/
structure FedByChain (maximumUncertaintyNs : Int) (run : AdjusterRun) : Prop where
  polled : (publicationSystem maximumUncertaintyNs).Reachable run.publications
  chain : run.adjuster.chain = run.publications.chain
  lastMac : ∃ sample ∈ run.publications.emitted,
    run.adjuster.calibration.lastMacNs = sample.smartnicNs
  handedEmitted : ∀ handed ∈ run.handed, ∃ sample ∈ run.publications.emitted,
    handed.macNs = sample.smartnicNs
  handedOrdered : run.handed.Pairwise fun earlier later => earlier.macNs < later.macNs

theorem fedByChain_construct {std : StdSort} {config : TimeAdjuster.Config} {run : AdjusterRun}
    (initial : (adjusterRunSystem std config).initial run) :
    FedByChain config.maximumSampleUncertaintyNs run := by
  obtain ⟨clockNs, polls, constructed, inOrder, publications, handed⟩ := initial
  obtain ⟨fresh, collected, emitted, chain⟩ := collect_recorded config.startupSampleCount polls
    (startupPublications config clockNs) []
  have none : (startupPublications config clockNs).emitted = [] := rfl
  rw [none, List.nil_append] at emitted
  rw [List.nil_append] at collected
  unfold construct at constructed
  dsimp only at constructed
  split at constructed
  · cases constructed
  · rename_i started
    have same := Except.ok.inj constructed
    rw [← publications] at emitted chain
    have start : (publicationSystem config.maximumSampleUncertaintyNs).Reachable
        (startupPublications config clockNs) := .start ⟨rfl, rfl⟩
    refine ⟨?_, ?_, ?_, ?_, ?_⟩
    · rw [publications]
      exact reachable_recordAll start inOrder
    · rw [← same]
      exact chain
    · obtain ⟨sample, member, lastMac⟩ :=
        lastMac_initializeFrom (Bool.of_not_eq_false started)
      have inTaken := List.mem_of_mem_take member
      obtain ⟨source, sourceMember, sourceSame⟩ :=
        List.mem_map.mp ((std.mem_sort _ _ _).mp inTaken)
      refine ⟨source, ?_, ?_⟩
      · rw [emitted, ← collected]
        exact sourceMember
      · rw [← same]
        refine lastMac.trans ?_
        rw [← sourceSame]
        rfl
    · rw [handed]
      simp
    · rw [handed]
      exact List.Pairwise.nil

/-- What a refresh hands over was emitted after everything the run emitted before. -/
theorem refreshSample_ahead {maximumUncertaintyNs : Int} {run : AdjusterRun}
    {polls : List PollInput} {best : PublicationSample}
    (fed : FedByChain maximumUncertaintyNs run)
    (inOrder : InOrder run.publications.clockNs
      (pollsMade run.adjuster.config.refreshBurstSize run.adjuster.chain [] polls))
    (handed : run.adjuster.refreshSample polls = some best) :
    best ∈ (run.refresh polls).publications.emitted ∧
      ∀ sample ∈ run.publications.emitted, sample.smartnicNs < best.smartnicNs := by
  obtain ⟨fresh, collected, emitted, _⟩ := collect_recorded
    run.adjuster.config.refreshBurstSize polls run.publications []
  rw [List.nil_append, ← fed.chain] at collected
  rw [← fed.chain] at emitted
  have member := mem_of_minElement handed
  rw [collected] at member
  have advancing := advancing_of_reachable (reachable_recordAll fed.polled inOrder)
  have ordered := advancing.ordered
  rw [emitted, List.pairwise_append] at ordered
  constructor
  · change best ∈ (run.publications.recordAll _).emitted
    rw [emitted]
    exact List.mem_append_right _ member
  · intro sample earlier
    exact (ordered.2.2 sample earlier best member).smartnic

theorem fedByChain_refresh {maximumUncertaintyNs : Int} {run : AdjusterRun}
    {polls : List PollInput} (fed : FedByChain maximumUncertaintyNs run)
    (inOrder : InOrder run.publications.clockNs
      (pollsMade run.adjuster.config.refreshBurstSize run.adjuster.chain [] polls)) :
    FedByChain maximumUncertaintyNs (run.refresh polls) := by
  obtain ⟨fresh, _, emitted, chain⟩ := collect_recorded
    run.adjuster.config.refreshBurstSize polls run.publications []
  rw [← fed.chain] at emitted chain
  have grows : ∀ sample ∈ run.publications.emitted,
      sample ∈ (run.refresh polls).publications.emitted := by
    intro sample member
    change sample ∈ (run.publications.recordAll _).emitted
    rw [emitted]
    exact List.mem_append_left _ member
  obtain ⟨framed, calibrated⟩ := run.adjuster.refresh_frame polls
  obtain ⟨lastSample, lastMember, lastMac⟩ := fed.lastMac
  have best : ∀ item, (run.adjuster.refreshSample polls).map toTimeSample = some item →
      ∃ sample, run.adjuster.refreshSample polls = some sample ∧ item = toTimeSample sample := by
    intro item handed
    obtain ⟨sample, collected, same⟩ := Option.map_eq_some_iff.mp handed
    exact ⟨sample, collected, same.symm⟩
  constructor
  · exact reachable_recordAll fed.polled inOrder
  · exact framed.trans chain
  · cases handed : run.adjuster.refreshSample polls with
    | none =>
        rw [handed] at calibrated
        exact ⟨lastSample, grows _ lastMember,
          (congrArg ClockCalibration.lastMacNs calibrated).trans lastMac⟩
    | some best =>
        rw [handed] at calibrated
        have moves := congrArg ClockCalibration.lastMacNs calibrated
        rcases lastMac_addSample run.adjuster.calibration (toTimeSample best) with kept | moved
        · exact ⟨lastSample, grows _ lastMember, moves.trans (kept.trans lastMac)⟩
        · exact ⟨best, (refreshSample_ahead fed inOrder handed).1, moves.trans moved⟩
  · apply forall_mem_extended
    · intro item member
      obtain ⟨sample, earlier, same⟩ := fed.handedEmitted item member
      exact ⟨sample, grows sample earlier, same⟩
    · intro item handed
      obtain ⟨sample, collected, same⟩ := best item handed
      exact ⟨sample, (refreshSample_ahead fed inOrder collected).1, by rw [same]; rfl⟩
  · apply pairwise_extended fed.handedOrdered
    intro item handed old member
    obtain ⟨sample, collected, same⟩ := best item handed
    obtain ⟨source, earlier, sourceSame⟩ := fed.handedEmitted old member
    rw [sourceSame, same]
    exact (refreshSample_ahead fed inOrder collected).2 source earlier

theorem fedByChain_of_reachable {std : StdSort} {config : TimeAdjuster.Config} {run : AdjusterRun}
    (reachable : (adjusterRunSystem std config).Reachable run) :
    FedByChain config.maximumSampleUncertaintyNs run := by
  apply reachable.invariant (FedByChain config.maximumSampleUncertaintyNs)
  · intro start initial
    exact fedByChain_construct initial
  · intro before polls after step fed
    obtain ⟨inOrder, refreshed⟩ := step
    rw [refreshed]
    exact fedByChain_refresh fed inOrder

/-- The samples of every run of reader and sampler form one advancing chain, also through
startup and any number of refreshes, and each sample a refresh hands to `addSample` is ahead
of all handed before and of the last device time the calibration recorded. -/
theorem emitted_samples_advance (std : StdSort) (config : TimeAdjuster.Config) :
    (∀ run, (publicationSystem config.maximumSampleUncertaintyNs).Reachable run →
        ChainAdvances run) ∧
      ∀ run, (adjusterRunSystem std config).Reachable run →
        run.adjuster.chain = run.publications.chain ∧ ChainAdvances run.publications ∧
        (run.handed.Pairwise fun earlier later => earlier.macNs < later.macNs) ∧
        ∀ polls best,
          InOrder run.publications.clockNs
            (pollsMade run.adjuster.config.refreshBurstSize run.adjuster.chain [] polls) →
          run.adjuster.refreshSample polls = some best →
          run.adjuster.calibration.lastMacNs < (toTimeSample best).macNs := by
  constructor
  · intro run reachable
    exact chainAdvances_of_reachable reachable
  · intro run reachable
    have fed := fedByChain_of_reachable reachable
    refine ⟨fed.chain, chainAdvances_of_reachable fed.polled, fed.handedOrdered, ?_⟩
    intro polls best inOrder handed
    obtain ⟨sample, member, lastMac⟩ := fed.lastMac
    rw [lastMac]
    exact (refreshSample_ahead fed inOrder handed).2 sample member

def sixthPoll : PollInput :=
  { bounds :=
      { realtimeBeforeNs := 6000
        realtimeAfterNs := 6100
        monotonicBeforeNs := 6000
        monotonicAfterNs := 6100 }
    raw := .ok ⟨6, 0, 0, 16, 0⟩ }

theorem emitted_samples_advance_sixth_poll :
    ∃ run : AdjusterRun, ∃ best, run.adjuster.refreshSample [sixthPoll] = some best ∧
      run.adjuster.calibration.lastMacNs < (toTimeSample best).macNs := by
  have refreshes : (construct StdSort.insertion {} startupPolls).toOption.map (fun adjuster =>
      decide ((adjuster.refreshSample [sixthPoll]).isSome ∧
        InOrder 5100 (pollsMade adjuster.config.refreshBurstSize adjuster.chain []
          [sixthPoll]))) = some true := by
    decide +kernel
  obtain ⟨adjuster, returned, both⟩ := Option.map_eq_some_iff.mp refreshes
  obtain ⟨collects, inOrder⟩ := of_decide_eq_true both
  obtain ⟨best, handed⟩ := Option.isSome_iff_exists.mp collects
  have constructed : construct StdSort.insertion {} startupPolls = .ok adjuster := by
    cases started : construct StdSort.insertion {} startupPolls with
    | error _ => rw [started] at returned; cases returned
    | ok built => rw [started] at returned; cases returned; rfl
  have startupOrder : InOrder 0 (pollsMade 64 (startupPublications {} 0).chain []
      startupPolls) := by
    decide +kernel
  have now : ((startupPublications {} 0).recordAll
      (pollsMade 64 (startupPublications {} 0).chain [] startupPolls)).clockNs = 5100 := by
    decide +kernel
  refine ⟨{
    adjuster := adjuster
    publications := (startupPublications {} 0).recordAll
      (pollsMade 64 (startupPublications {} 0).chain [] startupPolls) }, best, handed, ?_⟩
  refine ((emitted_samples_advance StdSort.insertion {}).2 _
    (.start ⟨0, startupPolls, constructed, startupOrder, rfl, rfl⟩)).2.2.2 _ _ ?_ handed
  rw [← now] at inOrder
  exact inOrder

end SflowMiddle.Exporter

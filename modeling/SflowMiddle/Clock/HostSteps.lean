/-
How far the host clocks may move apart inside one sample. The step test compares
the midpoints of consecutive polls, while a sample is built from the after-readings
of two polls that may have invalid ones between them: each poll may hide one
threshold, and each end adds the distance of its after-readings from the midpoints.
-/

import SflowMiddle.Clock.Uncertainty

namespace SflowMiddle.Clock

open SflowMiddle.Foundation
open ClockSampler

/-- A returned sample with the readings that opened and closed its interval and the number
of polls since the opening one, the closing one included. -/
structure Interval where
  sample : PublicationSample
  opened : HostClockBounds
  closed : HostClockBounds
  polls : Nat
  deriving DecidableEq, Repr

/-- A sampler, the last monotonic reading taken, the polls that compared midpoints since the
stored observation, and the intervals of the samples returned so far. -/
structure IntervalRun where
  sampler : ClockSampler
  clockNs : Int
  since : Nat := 0
  intervals : List Interval := []

def closedInterval (run : IntervalRun) (poll : DevicePoll) : Option Interval :=
  match (run.sampler.poll poll.bounds poll.observed).1, run.sampler.lastObservation with
  | some sample, some last =>
      some
        { sample := sample
          opened := last.bounds
          closed := poll.bounds
          polls := run.since + 1 }
  | _, _ => none

def IntervalRun.poll (run : IntervalRun) (poll : DevicePoll) : IntervalRun :=
  { sampler := (run.sampler.poll poll.bounds poll.observed).2
    clockNs := poll.bounds.monotonicAfterNs
    since :=
      if poll.bounds.rollsBack then run.since
      else if poll.observed.valid then 0
      else run.since + 1
    intervals := run.intervals ++ (closedInterval run poll).toList }

def intervalSystem (maximumUncertaintyNs : Int) : TransitionSystem IntervalRun DevicePoll where
  initial run :=
    run.sampler = { maximumUncertaintyNs := maximumUncertaintyNs } ∧ run.intervals = []
  step before poll after :=
    before.clockNs ≤ poll.bounds.monotonicBeforeNs ∧
      poll.bounds.monotonicBeforeNs ≤ poll.bounds.monotonicAfterNs ∧ after = before.poll poll

def PositiveReadings (_run : IntervalRun) (poll : DevicePoll) : Prop :=
  0 < poll.bounds.monotonicBeforeNs

/-- How much realtime advances beyond monotonic time from one after-reading to another. -/
def realtimeExcess (opened closed : HostClockBounds) : Int :=
  (closed.realtimeAfterNs - opened.realtimeAfterNs) -
    (closed.monotonicAfterNs - opened.monotonicAfterNs)

/-- The realtime after-reading is further from its midpoint than the monotonic one by this:
half the difference of the widths of the two pairs of readings. -/
def afterSkew (bounds : HostClockBounds) : Int :=
  (bounds.realtimeAfterNs - realtimeMidpoint bounds) -
    (bounds.monotonicAfterNs - monotonicMidpoint bounds)

theorem afterSkew_widths {bounds : HostClockBounds} (forward : ¬ bounds.rollsBack) :
    |2 * afterSkew bounds - ((bounds.realtimeAfterNs - bounds.realtimeBeforeNs) -
      (bounds.monotonicAfterNs - bounds.monotonicBeforeNs))| ≤ 1 := by
  unfold HostClockBounds.rollsBack at forward
  rw [not_or, not_lt, not_lt] at forward
  unfold afterSkew realtimeMidpoint monotonicMidpoint ClockSampler.midpoint
  rw [truncMidpoint_of_le forward.1, truncMidpoint_of_le forward.2, abs_le]
  omega

/-- The midpoint differences since an opening poll, against a threshold for every poll. -/
structure MidpointsWithin (run : IntervalRun) (opened : HostClockBounds) : Prop where
  positive : 0 < run.sampler.previousMonotonicMidpointNs
  within : |(run.sampler.previousRealtimeMidpointNs - realtimeMidpoint opened) -
    (run.sampler.previousMonotonicMidpointNs - monotonicMidpoint opened)| ≤ 500000 * run.since

def StoredWithin (run : IntervalRun) : Prop :=
  ∀ last, run.sampler.lastObservation = some last → MidpointsWithin run last.bounds

private theorem midpoints_compared {run : IntervalRun} {bounds : HostClockBounds}
    {last : MacStateObservation} (stored : StoredWithin run)
    (compared : run.sampler.comparedWith bounds = some last) :
    |(realtimeMidpoint bounds - realtimeMidpoint last.bounds) -
        (monotonicMidpoint bounds - monotonicMidpoint last.bounds)| ≤
      500000 * ((run.since + 1 : Nat) : Int) := by
  obtain ⟨quiet, remembered⟩ := comparedWith_eq_some compared
  obtain ⟨positive, within⟩ := stored last remembered
  have small : |(realtimeMidpoint bounds - run.sampler.previousRealtimeMidpointNs) -
      (monotonicMidpoint bounds - run.sampler.previousMonotonicMidpointNs)| ≤ 500000 := by
    by_contra large
    exact quiet ⟨positive.ne', not_le.mp large⟩
  rw [abs_le] at small within ⊢
  push_cast
  omega

private theorem monotonicMidpoint_pos {bounds : HostClockBounds}
    (positive : 0 < bounds.monotonicBeforeNs)
    (forward : bounds.monotonicBeforeNs ≤ bounds.monotonicAfterNs) :
    0 < monotonicMidpoint bounds :=
  positive.trans_le (truncMidpoint_bounds forward).1

/-- A poll whose clocks ran backwards compares nothing and remembers nothing. -/
private theorem poll_of_rollsBack {run : IntervalRun} {poll : DevicePoll}
    (back : poll.bounds.rollsBack) :
    (run.poll poll).since = run.since ∧
      (run.poll poll).sampler.previousRealtimeMidpointNs =
        run.sampler.previousRealtimeMidpointNs ∧
      (run.poll poll).sampler.previousMonotonicMidpointNs =
        run.sampler.previousMonotonicMidpointNs := by
  unfold IntervalRun.poll ClockSampler.poll
  dsimp only
  rw [if_pos back, if_pos back]
  exact ⟨rfl, rfl, rfl⟩

private theorem storedWithin_poll {run : IntervalRun} {poll : DevicePoll}
    (stored : StoredWithin run)
    (positive : 0 < poll.bounds.monotonicBeforeNs)
    (forward : poll.bounds.monotonicBeforeNs ≤ poll.bounds.monotonicAfterNs) :
    StoredWithin (run.poll poll) := by
  intro last remembered
  change (run.sampler.poll poll.bounds poll.observed).2.lastObservation = some last
    at remembered
  rw [poll_lastObservation] at remembered
  by_cases back : poll.bounds.rollsBack
  · rw [if_pos back] at remembered
    obtain ⟨since, realtime, monotonic⟩ := @poll_of_rollsBack run poll back
    obtain ⟨prior, within⟩ := stored last remembered
    constructor
    · rw [monotonic]
      exact prior
    · rw [realtime, monotonic, since]
      exact within
  · rw [if_neg back] at remembered
    obtain ⟨realtime, monotonic⟩ := poll_midpoints run.sampler back poll.observed
    have ahead := monotonicMidpoint_pos positive forward
    refine ⟨monotonic.symm ▸ ahead, ?_⟩
    change |((run.sampler.poll poll.bounds poll.observed).2.previousRealtimeMidpointNs - _) -
      ((run.sampler.poll poll.bounds poll.observed).2.previousMonotonicMidpointNs - _)| ≤ _
    rw [realtime, monotonic]
    by_cases invalid : poll.observed.valid = false
    · rw [if_pos invalid] at remembered
      have counted : (run.poll poll).since = run.since + 1 := by
        unfold IntervalRun.poll
        dsimp only
        rw [if_neg back, if_neg (by simp [invalid])]
      rw [counted]
      exact midpoints_compared stored remembered
    · rw [if_neg invalid] at remembered
      cases remembered
      rw [show (stamped poll.bounds poll.observed).bounds = poll.bounds from rfl, sub_self,
        sub_self, sub_self, abs_zero]
      positivity

/-- One threshold for every poll of the interval, and the difference of the skews of its
two ends. -/
def WithinThresholds (interval : Interval) : Prop :=
  |realtimeExcess interval.opened interval.closed| ≤
    500000 * interval.polls + |afterSkew interval.closed - afterSkew interval.opened|

private theorem withinThresholds_closed {run : IntervalRun} {poll : DevicePoll}
    {interval : Interval}
    (stored : StoredWithin run) (closes : closedInterval run poll = some interval) :
    WithinThresholds interval := by
  unfold closedInterval at closes
  split at closes
  · rename_i sample last emitted remembered
    cases closes
    obtain ⟨_, _, compared, comparison, _, _⟩ := poll_eq_some emitted
    have same := Option.some.inj ((comparedWith_eq_some comparison).2.symm.trans remembered)
    rw [same] at comparison
    have bounded := midpoints_compared stored comparison
    have shape : realtimeExcess last.bounds poll.bounds =
        ((realtimeMidpoint poll.bounds - realtimeMidpoint last.bounds) -
          (monotonicMidpoint poll.bounds - monotonicMidpoint last.bounds)) +
        (afterSkew poll.bounds - afterSkew last.bounds) := by
      unfold realtimeExcess afterSkew
      ring
    unfold WithinThresholds
    dsimp only
    rw [shape]
    exact (abs_add_le _ _).trans (add_le_add_left bounded _)
  · cases closes

/-- On every run over positive monotonic readings, the host clocks move apart inside a sample
by at most one threshold for every poll of its interval and the skew between its ends. -/
theorem interval_within_thresholds (maximumUncertaintyNs : Int) (run : IntervalRun)
    (reachable : ((intervalSystem maximumUncertaintyNs).restrict
      PositiveReadings).Reachable run) :
    ∀ interval ∈ run.intervals, WithinThresholds interval := by
  have both := reachable.invariant
    (fun state => StoredWithin state ∧
      ∀ interval ∈ state.intervals, WithinThresholds interval)
    (by
      intro start initial
      obtain ⟨fresh, none⟩ := initial
      constructor
      · intro last remembered
        rw [fresh] at remembered
        cases remembered
      · rw [none]
        simp)
    (by
      intro before poll after step earlier
      obtain ⟨positive, _, forward, polled⟩ := step
      obtain ⟨stored, within⟩ := earlier
      rw [polled]
      constructor
      · exact storedWithin_poll stored positive forward
      · exact forall_mem_extended within (fun _ closes => withinThresholds_closed stored closes))
  exact both.2

/-! ### Steps the detector does not see -/

def steppedPoll (monotonicNs before after : Int) (observed : MacStateObservation) : DevicePoll :=
  { bounds :=
      { realtimeBeforeNs := monotonicNs + before
        realtimeAfterNs := monotonicNs + after
        monotonicBeforeNs := monotonicNs
        monotonicAfterNs := monotonicNs }
    observed := observed }

def observedSecond (seconds : UInt32) : MacStateObservation :=
  { state := ⟨seconds, 0, 0, 16, 0⟩, valid := true }

def startedAt (clockNs : Int) : IntervalRun :=
  { sampler := { maximumUncertaintyNs := 800000 }, clockNs := clockNs }

structure InstantPolls (clockNs : Int) (polls : List DevicePoll) : Prop where
  ordered : (polls.map fun poll => poll.bounds.monotonicBeforeNs).Pairwise (· ≤ ·)
  started : ∀ poll ∈ polls, clockNs ≤ poll.bounds.monotonicBeforeNs
  instant : ∀ poll ∈ polls, poll.bounds.monotonicAfterNs = poll.bounds.monotonicBeforeNs

private theorem reachable_instantPolls {permitted : IntervalRun → DevicePoll → Prop}
    {maximumUncertaintyNs : Int} {polls : List DevicePoll} {run : IntervalRun}
    (reachable : ((intervalSystem maximumUncertaintyNs).restrict permitted).Reachable run)
    (instant : InstantPolls run.clockNs polls)
    (allowed : ∀ poll ∈ polls, ∀ state, permitted state poll) :
    ((intervalSystem maximumUncertaintyNs).restrict permitted).Reachable
      (polls.foldl IntervalRun.poll run) := by
  induction polls generalizing run with
  | nil => exact reachable
  | cons poll polls ih =>
      have ordered := instant.ordered
      rw [List.map_cons, List.pairwise_cons] at ordered
      have same := instant.instant poll List.mem_cons_self
      have polled : ((intervalSystem maximumUncertaintyNs).restrict permitted).Reachable
          (run.poll poll) :=
        reachable.next ⟨allowed poll List.mem_cons_self run,
          instant.started poll List.mem_cons_self, same.ge, rfl⟩
      apply ih polled
      · constructor
        · exact ordered.2
        · intro later member
          change poll.bounds.monotonicAfterNs ≤ _
          rw [same]
          exact ordered.1 _ (List.mem_map_of_mem member)
        · exact fun later member => instant.instant later (List.mem_cons_of_mem _ member)
      · exact fun later member => allowed later (List.mem_cons_of_mem _ member)

def splitStep : List DevicePoll :=
  [steppedPoll 1000 0 0 (observedSecond 1), steppedPoll 2000 400000 400000 {},
    steppedPoll 3000 800000 800000 (observedSecond 2)]

def stepInsideReadings : List DevicePoll :=
  [steppedPoll 1000 0 0 (observedSecond 1), steppedPoll 2000 0 1000000 (observedSecond 2)]

def stepAfterZero : List DevicePoll :=
  [steppedPoll 0 0 0 (observedSecond 1),
    steppedPoll 1000 1000000000 1000000000 (observedSecond 2)]

def HidesStep (polls : List DevicePoll) : Prop :=
  (intervalSystem 800000).Reachable (polls.foldl IntervalRun.poll (startedAt 0)) ∧
    ∃ interval ∈ (polls.foldl IntervalRun.poll (startedAt 0)).intervals,
      ¬ |realtimeExcess interval.opened interval.closed| ≤ 500000

private theorem hidesStep_of_instantPolls {polls : List DevicePoll} (instant : InstantPolls 0 polls)
    (beyond : ∃ interval ∈ (polls.foldl IntervalRun.poll (startedAt 0)).intervals,
      ¬ |realtimeExcess interval.opened interval.closed| ≤ 500000) : HidesStep polls := by
  have free : ((intervalSystem 800000).restrict fun _ _ => True).Reachable (startedAt 0) :=
    .start ⟨rfl, rfl⟩
  exact ⟨(reachable_instantPolls free instant (fun _ _ _ => trivial)).of_restrict, beyond⟩

theorem host_step_inside_sample :
    HidesStep splitStep ∧ HidesStep stepInsideReadings ∧ HidesStep stepAfterZero := by
  refine ⟨hidesStep_of_instantPolls ⟨?_, ?_, ?_⟩ ?_, hidesStep_of_instantPolls ⟨?_, ?_, ?_⟩ ?_,
    hidesStep_of_instantPolls ⟨?_, ?_, ?_⟩ ?_⟩ <;> decide +kernel

theorem interval_within_thresholds_splitStep :
    ∃ interval : Interval, interval.polls = 2 ∧ WithinThresholds interval := by
  have started : ((intervalSystem 800000).restrict PositiveReadings).Reachable (startedAt 0) :=
    .start ⟨rfl, rfl⟩
  have instant : InstantPolls 0 splitStep := by
    refine ⟨?_, ?_, ?_⟩ <;> decide
  have positive : ∀ poll ∈ splitStep, ∀ state, PositiveReadings state poll := by
    have readings : ∀ poll ∈ splitStep, 0 < poll.bounds.monotonicBeforeNs := by decide
    exact fun poll member _ => readings poll member
  have closes : ∃ interval ∈ (splitStep.foldl IntervalRun.poll (startedAt 0)).intervals,
      interval.polls = 2 := by
    decide +kernel
  obtain ⟨interval, member, polls⟩ := closes
  exact ⟨interval, polls, interval_within_thresholds 800000 _
    (reachable_instantPolls started instant positive) interval member⟩

end SflowMiddle.Clock

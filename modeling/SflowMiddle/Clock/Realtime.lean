/-
The realtime date of a sample. A sample closes two polls of its run: the device
published its state between the first monotonic reading of the one and the last of the
other, and the date is the midpoint of realtime readings taken in both. Against a
realtime clock that runs forward, at most so fast, the date is off by half of what that
clock gains in the reported uncertainty, and by what it gained during the polls.
-/

import SflowMiddle.Clock.Publications
import SflowMiddle.Clock.Uncertainty

namespace SflowMiddle.Clock

open SflowMiddle.Foundation
open ClockSampler

/-! ### The two polls of a sample -/

def Publications.polls (run : Publications) : List PollInput := run.history.map Prod.fst

@[simp]
theorem Publications.polls_record (run : Publications) (input : PollInput) :
    (run.record input).polls = run.polls ++ [input] :=
  List.map_append

theorem Publications.polls_recordAll (run : Publications) (inputs : List PollInput) :
    (run.recordAll inputs).polls = run.polls ++ inputs := by
  induction inputs generalizing run with
  | nil => exact (List.append_nil run.polls).symm
  | cons input inputs ih =>
      refine (ih (run.record input)).trans ?_
      rw [Publications.polls_record, List.append_assoc]
      rfl

/-- The sample says when the state of the closing poll replaced that of the opening one. -/
structure Closes (maximumUncertaintyNs : Int) (opening closing : PollInput)
    (sample : PublicationSample) : Prop where
  read : ∃ old new, opening.raw = .ok old ∧ closing.raw = .ok new ∧ old.timeNs < new.timeNs ∧
    sample.smartnicNs = new.timeNs
  realtime : sample.hostRealtimeNs =
    midpoint opening.bounds.realtimeAfterNs closing.bounds.realtimeAfterNs
  ordered : opening.bounds.monotonicAfterNs ≤ closing.bounds.monotonicAfterNs
  certain : closing.bounds.monotonicAfterNs - opening.bounds.monotonicAfterNs ≤
    maximumUncertaintyNs

structure Traced (maximumUncertaintyNs : Int) (run : Publications) : Prop where
  maximum : run.chain.sampler.maximumUncertaintyNs = maximumUncertaintyNs
  stored : ∀ stored, run.chain.sampler.lastObservation = some stored →
    ∃ input ∈ run.polls, input.raw = .ok stored.state ∧ input.bounds = stored.bounds
  closed : ∀ sample ∈ run.emitted, ∃ opening ∈ run.polls, ∃ closing ∈ run.polls,
    Closes maximumUncertaintyNs opening closing sample

section Step

variable {maximumUncertaintyNs : Int} {run : Publications} {input : PollInput}

private theorem Traced.closes (traced : Traced maximumUncertaintyNs run)
    {sample : PublicationSample}
    (emits : (run.chain.poll input).1 = some sample) :
    ∃ opening ∈ run.polls, Closes maximumUncertaintyNs opening input sample := by
  obtain ⟨forward, valid, last, compared, closing, built⟩ := poll_eq_some emits
  obtain ⟨opening, member, opened, bounds⟩ := traced.stored last (comparedWith_eq_some compared).2
  obtain ⟨likely, ordered, certain⟩ := closing
  rcases run.chain.reader.readState_cases input.raw with ⟨refused, _⟩ |
    ⟨state, read, observed, _, _, _⟩
  · rw [refused] at valid
    cases valid
  · rw [observed] at likely built
    have width : 0 ≤ input.bounds.monotonicAfterNs - input.bounds.monotonicBeforeNs :=
      sub_nonneg.mpr (not_lt.mp fun back => forward (Or.inr back))
    change input.bounds.monotonicAfterNs - last.bounds.monotonicAfterNs +
      (input.bounds.monotonicAfterNs - input.bounds.monotonicBeforeNs) ≤
        run.chain.sampler.maximumUncertaintyNs at certain
    rw [traced.maximum] at certain
    refine ⟨opening, member, ?_⟩
    constructor
    · exact ⟨last.state, state, opened, read, (isPlausibleTransition_iff.mp likely).2.2.2,
        by rw [built]; rfl⟩
    · rw [built, bounds]
      rfl
    · rw [bounds]
      exact ordered
    · rw [bounds]
      linarith

private theorem traced_record (traced : Traced maximumUncertaintyNs run) :
    Traced maximumUncertaintyNs (run.record input) := by
  have later : ∀ poll ∈ run.polls, poll ∈ (run.record input).polls := by
    intro poll member
    rw [Publications.polls_record]
    exact List.mem_append_left _ member
  have last : input ∈ (run.record input).polls := by
    rw [Publications.polls_record]
    exact List.mem_append_right _ (List.mem_singleton_self input)
  constructor
  · exact (poll_maximum _ _ _).trans traced.maximum
  · intro stored remembered
    rcases poll_stores remembered with kept | ⟨state, read, same, bounds, _, _⟩
    · obtain ⟨poll, member, opened, bounds⟩ := traced.stored stored kept
      exact ⟨poll, later poll member, opened, bounds⟩
    · rw [same, bounds]
      exact ⟨input, last, read, rfl⟩
  · rw [Publications.emitted_record]
    apply forall_mem_extended
    · intro sample member
      obtain ⟨opening, opened, closing, closed, closes⟩ := traced.closed sample member
      exact ⟨opening, later opening opened, closing, later closing closed, closes⟩
    · intro sample emits
      obtain ⟨opening, opened, closes⟩ := traced.closes emits
      exact ⟨opening, later opening opened, input, last, closes⟩

theorem traced_of_reachable (reachable : (publicationSystem maximumUncertaintyNs).Reachable run) :
    Traced maximumUncertaintyNs run := by
  apply reachable.invariant (Traced maximumUncertaintyNs)
  · intro start initial
    obtain ⟨fresh, empty⟩ := initial
    constructor
    · rw [fresh]
    · intro stored remembered
      rw [fresh] at remembered
      cases remembered
    · unfold Publications.emitted
      rw [empty]
      intro sample member
      cases member
  · intro before input after step traced
    rw [step.2.2]
    exact traced_record traced

end Step

/-! ### A realtime clock over the monotonic one -/

/-- A device, and the realtime clock of the host as a function of the monotonic one. It is
never set back, and it gains at most `rate` nanoseconds in each. -/
structure TrueClocks where
  device : PublishingDevice
  realtime : ℝ → ℝ
  rate : ℚ
  forward : Monotone realtime
  limited : ∀ earlier later, earlier ≤ later →
    realtime later - realtime earlier ≤ rate * (later - earlier)

namespace TrueClocks

/-- The realtime readings were taken around the monotonic ones and at most `latency` apart,
and a state that was read is one the device showed. -/
structure Honest (clocks : TrueClocks) (latency : Int) (input : PollInput) : Prop where
  before : (input.bounds.realtimeBeforeNs : ℝ) ≤ clocks.realtime input.bounds.monotonicBeforeNs
  after : clocks.realtime input.bounds.monotonicAfterNs ≤ input.bounds.realtimeAfterNs
  prompt : input.bounds.realtimeAfterNs - input.bounds.realtimeBeforeNs ≤ latency
  read : ∀ state, input.raw = .ok state → clocks.device.ReadBetween input.bounds state

/-- How far the date of a sample can be off. -/
def dateError (clocks : TrueClocks) (maximumUncertaintyNs latency : Int) : ℚ :=
  (clocks.rate * maximumUncertaintyNs + 3 * latency + 1) / 2

variable (clocks : TrueClocks)

private theorem rate_nonneg : 0 ≤ clocks.rate := by
  have gained := clocks.limited 0 1 zero_le_one
  have forward := clocks.forward (zero_le_one : (0 : ℝ) ≤ 1)
  have real : (0 : ℝ) ≤ clocks.rate := by linarith
  exact_mod_cast real

variable {clocks} {maximumUncertaintyNs latency : Int} {opening closing : PollInput}
  {sample : PublicationSample}

/-- The device published the state of a sample between its two polls, and the realtime clock
stood between the readings of these. -/
private theorem published_between (openingHonest : clocks.Honest latency opening)
    (closingHonest : clocks.Honest latency closing)
    (closes : Closes maximumUncertaintyNs opening closing sample) :
    ∃ publication, (clocks.device.state publication).timeNs = sample.smartnicNs ∧
      opening.bounds.realtimeBeforeNs ≤
        clocks.realtime (clocks.device.publishedAt publication) ∧
      clocks.realtime (clocks.device.publishedAt publication) ≤
        clocks.realtime closing.bounds.monotonicAfterNs := by
  obtain ⟨old, new, oldRaw, newRaw, advanced, time⟩ := closes.read
  obtain ⟨_, publication, _, _, _, shown⟩ := closingHonest.read new newRaw
  obtain ⟨begun, ended⟩ := PublishingDevice.publishedAt_between (openingHonest.read old oldRaw)
    (closingHonest.read new newRaw) advanced shown
  have opened := clocks.forward begun.le
  exact ⟨publication, by rw [← shown, time], openingHonest.before.trans opened,
    clocks.forward ended⟩

private theorem gained_between (openingHonest : clocks.Honest latency opening)
    (closes : Closes maximumUncertaintyNs opening closing sample) :
    clocks.realtime closing.bounds.monotonicAfterNs ≤
      opening.bounds.realtimeAfterNs + clocks.rate * maximumUncertaintyNs := by
  have gained := clocks.limited opening.bounds.monotonicAfterNs
    closing.bounds.monotonicAfterNs (by exact_mod_cast closes.ordered)
  have certain : (clocks.rate : ℝ) *
      (closing.bounds.monotonicAfterNs - opening.bounds.monotonicAfterNs) ≤
        clocks.rate * maximumUncertaintyNs := by
    apply mul_le_mul_of_nonneg_left
    · exact_mod_cast closes.certain
    · exact_mod_cast clocks.rate_nonneg
  have after := openingHonest.after
  linarith

private theorem Honest.before_end (honest : clocks.Honest latency closing)
    (closes : Closes maximumUncertaintyNs opening closing sample) :
    closing.bounds.realtimeBeforeNs ≤ clocks.realtime closing.bounds.monotonicAfterNs := by
  obtain ⟨_, new, _, newRaw, _⟩ := closes.read
  obtain ⟨_, _, begun, ended, _⟩ := honest.read new newRaw
  exact honest.before.trans (clocks.forward (begun.trans ended))

theorem date_near (openingHonest : clocks.Honest latency opening)
    (closingHonest : clocks.Honest latency closing)
    (closes : Closes maximumUncertaintyNs opening closing sample) :
    ∃ publication, (clocks.device.state publication).timeNs = sample.smartnicNs ∧
      |(sample.hostRealtimeNs : ℝ) -
          clocks.realtime (clocks.device.publishedAt publication)| ≤
        clocks.dateError maximumUncertaintyNs latency := by
  obtain ⟨publication, time, opened, closed⟩ :=
    published_between openingHonest closingHonest closes
  refine ⟨publication, time, ?_⟩
  have gained := gained_between openingHonest closes
  have begun := closingHonest.before_end closes
  have ended := closingHonest.after
  have openingPrompt : (opening.bounds.realtimeAfterNs : ℝ) - opening.bounds.realtimeBeforeNs ≤
      latency := by exact_mod_cast openingHonest.prompt
  have closingPrompt : (closing.bounds.realtimeAfterNs : ℝ) - closing.bounds.realtimeBeforeNs ≤
      latency := by exact_mod_cast closingHonest.prompt
  have centred : |2 * (sample.hostRealtimeNs : ℝ) -
      (opening.bounds.realtimeAfterNs + closing.bounds.realtimeAfterNs)| ≤ 1 := by
    rw [closes.realtime]
    exact_mod_cast abs_two_mul_truncMidpoint_sub_le opening.bounds.realtimeAfterNs
      closing.bounds.realtimeAfterNs
  obtain ⟨low, high⟩ := abs_le.mp centred
  unfold dateError
  push_cast
  rw [abs_le]
  constructor <;> linarith

end TrueClocks

end SflowMiddle.Clock

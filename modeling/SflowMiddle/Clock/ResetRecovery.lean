/-
Recovery of reader and sampler from a device clock reset. The reader refuses every
state below the last one it accepted and keeps that one, so a rolled-back clock is
reported only once it has caught up. The condition is stated on the chain before
the first poll after the reset and on what the three polls read.
-/

import SflowMiddle.Clock.PollSpec
import SflowMiddle.Foundation.TransitionSystem

namespace SflowMiddle.Clock

open SflowMiddle.Foundation
open ClockSampler

def chainSystem (maximumUncertaintyNs : Int) : TransitionSystem ClockChain PollInput where
  initial chain := chain = { sampler := { maximumUncertaintyNs := maximumUncertaintyNs } }
  step before input after := after = (before.poll input).2

structure Steady (realtimeNs monotonicNs : Int) (bounds : HostClockBounds) : Prop where
  forward : ¬ bounds.rollsBack
  noStep : |(realtimeMidpoint bounds - realtimeNs) -
    (monotonicMidpoint bounds - monotonicNs)| ≤ 500000

private theorem Steady.not_hostStepSeen {sampler : ClockSampler} {bounds : HostClockBounds}
    (steady : Steady sampler.previousRealtimeMidpointNs
      sampler.previousMonotonicMidpointNs bounds) : ¬ sampler.HostStepSeen bounds :=
  fun seen => absurd seen.2 (not_lt.mpr steady.noStep)

/-- Three successive polls after a reset: every raw read succeeds with a well-formed
state of one conversion, the MAC time advances strictly, the host clocks do not step
and each poll closes on the one before within the configured uncertainty. -/
structure ResetPolls (chain : ClockChain) (first second third : PollInput)
    (firstState secondState thirdState : MacTimeStateHost) : Prop where
  firstRead : first.raw = .ok firstState
  secondRead : second.raw = .ok secondState
  thirdRead : third.raw = .ok thirdState
  firstWellFormed : firstState.WellFormed
  secondWellFormed : secondState.WellFormed
  thirdWellFormed : thirdState.WellFormed
  secondConversion : secondState.convMult = firstState.convMult ∧
    secondState.convRshift = firstState.convRshift
  thirdConversion : thirdState.convMult = secondState.convMult ∧
    thirdState.convRshift = secondState.convRshift
  secondAdvances : firstState.timeNs < secondState.timeNs
  thirdAdvances : secondState.timeNs < thirdState.timeNs
  firstSteady : Steady chain.sampler.previousRealtimeMidpointNs
    chain.sampler.previousMonotonicMidpointNs first.bounds
  secondSteady : Steady (realtimeMidpoint first.bounds) (monotonicMidpoint first.bounds)
    second.bounds
  thirdSteady : Steady (realtimeMidpoint second.bounds) (monotonicMidpoint second.bounds)
    third.bounds
  secondLater : first.bounds.monotonicAfterNs ≤ second.bounds.monotonicAfterNs
  thirdLater : second.bounds.monotonicAfterNs ≤ third.bounds.monotonicAfterNs
  secondUncertainty : second.bounds.monotonicAfterNs - first.bounds.monotonicAfterNs +
    (second.bounds.monotonicAfterNs - second.bounds.monotonicBeforeNs) ≤
      chain.sampler.maximumUncertaintyNs
  thirdUncertainty : third.bounds.monotonicAfterNs - second.bounds.monotonicAfterNs +
    (third.bounds.monotonicAfterNs - third.bounds.monotonicBeforeNs) ≤
      chain.sampler.maximumUncertaintyNs

/-- At the latest the third poll returns a sample of the state it read. -/
def Recovers (chain : ClockChain) (first second third : PollInput)
    (firstState secondState thirdState : MacTimeStateHost) : Prop :=
  (∃ sample, (chain.poll first).1 = some sample ∧ sample.smartnicNs = firstState.timeNs) ∨
    (∃ sample, ((chain.poll first).2.poll second).1 = some sample ∧
      sample.smartnicNs = secondState.timeNs) ∨
    ∃ sample, (((chain.poll first).2.poll second).2.poll third).1 = some sample ∧
      sample.smartnicNs = thirdState.timeNs

/-- The clock has caught up with the reader in time: by the second state, or by the
third if the sampler can still close the interval it opened before the reset. -/
def CaughtUp (chain : ClockChain) (third : PollInput)
    (secondState thirdState : MacTimeStateHost) : Prop :=
  ∀ last, chain.reader.lastState = some last →
    last.timeNs ≤ secondState.timeNs ∨
      (last.timeNs ≤ thirdState.timeNs ∧
        ∃ old, chain.sampler.lastObservation = some old ∧
          chain.sampler.Emits old
            (stamped third.bounds { state := thirdState, valid := true }))

private theorem poll_of_read {chain : ClockChain} {input : PollInput} {state : MacTimeStateHost}
    (read : input.raw = .ok state) :
    chain.poll input =
      ((chain.sampler.poll input.bounds (chain.reader.readState (.ok state)).1).1,
        { reader := (chain.reader.readState (.ok state)).2
          sampler :=
            (chain.sampler.poll input.bounds (chain.reader.readState (.ok state)).1).2 }) := by
  unfold ClockChain.poll
  rw [read]

private theorem poll_accepted {chain : ClockChain} {input : PollInput} {state : MacTimeStateHost}
    (read : input.raw = .ok state) (wellFormed : state.WellFormed)
    (notBelow : ∀ last, chain.reader.lastState = some last → last.timeNs ≤ state.timeNs)
    (steady : Steady chain.sampler.previousRealtimeMidpointNs
      chain.sampler.previousMonotonicMidpointNs input.bounds) :
    (chain.poll input).1 =
        (chain.sampler.lastObservation.bind fun last =>
          if chain.sampler.Emits last
              (stamped input.bounds { state := state, valid := true }) then
            some (transitionSample last
              (stamped input.bounds { state := state, valid := true }) state.timeNs)
          else none) ∧
      (chain.poll input).2.reader.lastState = some state ∧
      (chain.poll input).2.sampler.lastObservation =
        some (stamped input.bounds { state := state, valid := true }) := by
  obtain ⟨observed, remembered⟩ :=
    MacClockReader.readState_accepted wellFormed notBelow
  rw [poll_of_read read, observed]
  refine ⟨?_, remembered, ?_⟩
  · rw [poll_sample, if_neg (by simp [steady.forward]), comparedWith,
      if_neg steady.not_hostStepSeen]
  · rw [poll_lastObservation, if_neg steady.forward, if_neg (by simp)]

private theorem poll_rolledBack {chain : ClockChain} {input : PollInput}
    {state last : MacTimeStateHost} (read : input.raw = .ok state)
    (wellFormed : state.WellFormed) (remembered : chain.reader.lastState = some last)
    (below : state.timeNs < last.timeNs)
    (steady : Steady chain.sampler.previousRealtimeMidpointNs
      chain.sampler.previousMonotonicMidpointNs input.bounds) :
    (chain.poll input).1 = none ∧ (chain.poll input).2.reader.lastState = some last ∧
      (chain.poll input).2.sampler.lastObservation = chain.sampler.lastObservation := by
  obtain ⟨invalid, kept⟩ :=
    MacClockReader.readState_rolledBack wellFormed remembered below
  rw [poll_of_read read]
  refine ⟨?_, kept, ?_⟩
  · rw [poll_sample, if_pos (Or.inr invalid)]
  · rw [poll_lastObservation, if_neg steady.forward, if_pos invalid, comparedWith,
      if_neg steady.not_hostStepSeen]

private theorem poll_steady_next (chain : ClockChain) {input : PollInput}
    (forward : ¬ input.bounds.rollsBack) {bounds : HostClockBounds}
    (steady : Steady (realtimeMidpoint input.bounds) (monotonicMidpoint input.bounds) bounds) :
    Steady (chain.poll input).2.sampler.previousRealtimeMidpointNs
      (chain.poll input).2.sampler.previousMonotonicMidpointNs bounds := by
  unfold ClockChain.poll
  dsimp only
  obtain ⟨realtime, monotonic⟩ :=
    poll_midpoints chain.sampler forward (chain.reader.readState input.raw).1
  rw [realtime, monotonic]
  exact steady

private theorem poll_chain_maximum (chain : ClockChain) (input : PollInput) :
    (chain.poll input).2.sampler.maximumUncertaintyNs =
      chain.sampler.maximumUncertaintyNs := by
  unfold ClockChain.poll
  exact poll_maximum _ _ _

private theorem emits_successive {sampler : ClockSampler} {earlier later : HostClockBounds}
    {earlierState laterState : MacTimeStateHost}
    (earlierWellFormed : earlierState.WellFormed) (laterWellFormed : laterState.WellFormed)
    (conversion : laterState.convMult = earlierState.convMult ∧
      laterState.convRshift = earlierState.convRshift)
    (advances : earlierState.timeNs < laterState.timeNs)
    (ordered : earlier.monotonicAfterNs ≤ later.monotonicAfterNs)
    (bounded : later.monotonicAfterNs - earlier.monotonicAfterNs +
      (later.monotonicAfterNs - later.monotonicBeforeNs) ≤ sampler.maximumUncertaintyNs) :
    sampler.Emits (stamped earlier { state := earlierState, valid := true })
      (stamped later { state := laterState, valid := true }) :=
  ⟨isPlausibleTransition_iff.mpr
    ⟨conversion, earlierWellFormed.nanoseconds, laterWellFormed.nanoseconds, advances⟩,
    ordered, bounded⟩

private theorem poll_emits {chain : ClockChain} {input : PollInput} {state : MacTimeStateHost}
    {last : MacStateObservation} (read : input.raw = .ok state)
    (wellFormed : state.WellFormed)
    (notBelow : ∀ old, chain.reader.lastState = some old → old.timeNs ≤ state.timeNs)
    (steady : Steady chain.sampler.previousRealtimeMidpointNs
      chain.sampler.previousMonotonicMidpointNs input.bounds)
    (stored : chain.sampler.lastObservation = some last)
    (emits : chain.sampler.Emits last
      (stamped input.bounds { state := state, valid := true })) :
    ∃ sample, (chain.poll input).1 = some sample ∧ sample.smartnicNs = state.timeNs := by
  refine ⟨transitionSample last (stamped input.bounds { state := state, valid := true })
    state.timeNs, ?_, rfl⟩
  rw [(poll_accepted read wellFormed notBelow steady).1, stored, Option.bind_some,
    if_pos emits]

private theorem emits_congr {sampler other : ClockSampler} {last observation : MacStateObservation}
    (same : other.maximumUncertaintyNs = sampler.maximumUncertaintyNs) :
    other.Emits last observation ↔ sampler.Emits last observation := by
  unfold Emits
  rw [same]

section Reset

variable {chain : ClockChain} {first second third : PollInput}
  {firstState secondState thirdState : MacTimeStateHost}

private theorem recovers_second
    (polls : ResetPolls chain first second third firstState secondState thirdState)
    (notBelow : ∀ last, chain.reader.lastState = some last →
      last.timeNs ≤ firstState.timeNs) :
    ∃ sample, ((chain.poll first).2.poll second).1 = some sample ∧
      sample.smartnicNs = secondState.timeNs := by
  obtain ⟨_, remembered, stored⟩ :=
    poll_accepted polls.firstRead polls.firstWellFormed notBelow polls.firstSteady
  refine poll_emits polls.secondRead polls.secondWellFormed ?_
    (poll_steady_next _ polls.firstSteady.forward polls.secondSteady) stored ?_
  · intro old same
    rw [remembered] at same
    cases same
    exact polls.secondAdvances.le
  · exact emits_successive polls.firstWellFormed polls.secondWellFormed
      polls.secondConversion polls.secondAdvances polls.secondLater
      (by rw [poll_chain_maximum]; exact polls.secondUncertainty)

private theorem recovers_third
    (polls : ResetPolls chain first second third firstState secondState thirdState)
    {last : MacTimeStateHost} (remembered : chain.reader.lastState = some last)
    (below : firstState.timeNs < last.timeNs) (reached : last.timeNs ≤ secondState.timeNs) :
    ∃ sample, (((chain.poll first).2.poll second).2.poll third).1 = some sample ∧
      sample.smartnicNs = thirdState.timeNs := by
  obtain ⟨_, kept, _⟩ :=
    poll_rolledBack polls.firstRead polls.firstWellFormed remembered below polls.firstSteady
  have secondSteady := poll_steady_next chain polls.firstSteady.forward polls.secondSteady
  obtain ⟨_, replaced, stored⟩ :=
    poll_accepted polls.secondRead polls.secondWellFormed
      (by intro old same; rw [kept] at same; cases same; exact reached) secondSteady
  refine poll_emits polls.thirdRead polls.thirdWellFormed ?_
    (poll_steady_next _ polls.secondSteady.forward polls.thirdSteady) stored ?_
  · intro old same
    rw [replaced] at same
    cases same
    exact polls.thirdAdvances.le
  · exact emits_successive polls.secondWellFormed polls.thirdWellFormed
      polls.thirdConversion polls.thirdAdvances polls.thirdLater
      (by rw [poll_chain_maximum, poll_chain_maximum]; exact polls.thirdUncertainty)

private theorem two_refused
    (polls : ResetPolls chain first second third firstState secondState thirdState)
    {last : MacTimeStateHost} (remembered : chain.reader.lastState = some last)
    (below : secondState.timeNs < last.timeNs) :
    (chain.poll first).1 = none ∧ ((chain.poll first).2.poll second).1 = none ∧
      ((chain.poll first).2.poll second).2.reader.lastState = some last ∧
      ((chain.poll first).2.poll second).2.sampler.lastObservation =
        chain.sampler.lastObservation ∧
      Steady ((chain.poll first).2.poll second).2.sampler.previousRealtimeMidpointNs
        ((chain.poll first).2.poll second).2.sampler.previousMonotonicMidpointNs
        third.bounds := by
  obtain ⟨firstNone, firstKept, firstStored⟩ :=
    poll_rolledBack polls.firstRead polls.firstWellFormed remembered
      (polls.secondAdvances.trans below) polls.firstSteady
  obtain ⟨secondNone, secondKept, secondStored⟩ :=
    poll_rolledBack polls.secondRead polls.secondWellFormed firstKept below
      (poll_steady_next _ polls.firstSteady.forward polls.secondSteady)
  exact ⟨firstNone, secondNone, secondKept, secondStored.trans firstStored,
    poll_steady_next _ polls.secondSteady.forward polls.thirdSteady⟩

private theorem caughtUp_of_recovers
    (polls : ResetPolls chain first second third firstState secondState thirdState)
    (recovers : Recovers chain first second third firstState secondState thirdState) :
    CaughtUp chain third secondState thirdState := by
  intro last remembered
  rcases le_or_gt last.timeNs secondState.timeNs with reached | below
  · exact Or.inl reached
  · right
    obtain ⟨firstNone, secondNone, kept, stored, steady⟩ :=
      two_refused polls remembered below
    have emitted : ∃ sample,
        (((chain.poll first).2.poll second).2.poll third).1 = some sample := by
      rcases recovers with ⟨_, early, _⟩ | ⟨_, early, _⟩ | ⟨sample, late, _⟩
      · rw [firstNone] at early
        cases early
      · rw [secondNone] at early
        cases early
      · exact ⟨sample, late⟩
    obtain ⟨sample, emitted⟩ := emitted
    rcases le_or_gt last.timeNs thirdState.timeNs with reached | stillBelow
    · have accepted := (poll_accepted polls.thirdRead polls.thirdWellFormed
        (by intro old same; rw [kept] at same; cases same; exact reached) steady).1
      rw [emitted, stored] at accepted
      obtain ⟨old, compared, chosen⟩ := Option.bind_eq_some_iff.mp accepted.symm
      split at chosen
      · rename_i emits
        exact ⟨reached, old, compared,
          (emits_congr ((poll_chain_maximum _ _).trans (poll_chain_maximum _ _))).mp emits⟩
      · cases chosen
    · have refused := (poll_rolledBack polls.thirdRead polls.thirdWellFormed kept
        stillBelow steady).1
      rw [refused] at emitted
      cases emitted

private theorem recovers_of_caughtUp
    (polls : ResetPolls chain first second third firstState secondState thirdState)
    (caughtUp : CaughtUp chain third secondState thirdState) :
    Recovers chain first second third firstState secondState thirdState := by
  cases remembered : chain.reader.lastState with
  | none =>
      have notBelow : ∀ last, chain.reader.lastState = some last →
          last.timeNs ≤ firstState.timeNs := by
        intro last same
        rw [remembered] at same
        cases same
      exact Or.inr (Or.inl (recovers_second polls notBelow))
  | some last =>
      rcases le_or_gt last.timeNs firstState.timeNs with reached | below
      · have notBelow : ∀ old, chain.reader.lastState = some old →
            old.timeNs ≤ firstState.timeNs := by
          intro old same
          rw [remembered] at same
          cases same
          exact reached
        exact Or.inr (Or.inl (recovers_second polls notBelow))
      · right
        right
        rcases le_or_gt last.timeNs secondState.timeNs with reached | stillBelow
        · exact recovers_third polls remembered below reached
        · obtain ⟨late, old, stored, emits⟩ :=
            (caughtUp last remembered).resolve_left (not_le.mpr stillBelow)
          obtain ⟨_, _, kept, unchanged, steady⟩ := two_refused polls remembered stillBelow
          refine poll_emits polls.thirdRead polls.thirdWellFormed ?_ steady
            (unchanged.trans stored) ?_
          · intro known same
            rw [kept] at same
            cases same
            exact late
          · exact (emits_congr
              ((poll_chain_maximum _ _).trans (poll_chain_maximum _ _))).mpr emits

end Reset

/-! ### A reset the chain does not recover from -/

def quietPoll (startNs : Int) (state : MacTimeStateHost) : PollInput :=
  { bounds :=
      { realtimeBeforeNs := startNs
        realtimeAfterNs := startNs + 100
        monotonicBeforeNs := startNs
        monotonicAfterNs := startNs + 100 }
    raw := .ok state }

def chainAtTenSeconds : ClockChain :=
  (({ sampler := { maximumUncertaintyNs := 10000 } } : ClockChain).poll
    (quietPoll 1000 ⟨10, 0, 0, 16, 0⟩)).2

private theorem resetPolls_fiveSeconds :
    ResetPolls chainAtTenSeconds (quietPoll 2000 ⟨5, 0, 0, 16, 0⟩)
      (quietPoll 3000 ⟨5, 1000, 0, 16, 0⟩) (quietPoll 4000 ⟨5, 2000, 0, 16, 0⟩)
      ⟨5, 0, 0, 16, 0⟩ ⟨5, 1000, 0, 16, 0⟩ ⟨5, 2000, 0, 16, 0⟩ where
  firstRead := rfl
  secondRead := rfl
  thirdRead := rfl
  firstWellFormed := ⟨by decide, by decide, by decide⟩
  secondWellFormed := ⟨by decide, by decide, by decide⟩
  thirdWellFormed := ⟨by decide, by decide, by decide⟩
  secondConversion := ⟨rfl, rfl⟩
  thirdConversion := ⟨rfl, rfl⟩
  secondAdvances := by decide
  thirdAdvances := by decide
  firstSteady := ⟨by decide, by decide⟩
  secondSteady := ⟨by decide, by decide⟩
  thirdSteady := ⟨by decide, by decide⟩
  secondLater := by decide
  thirdLater := by decide
  secondUncertainty := by decide
  thirdUncertainty := by decide

private theorem not_caughtUp_fiveSeconds :
    ¬ CaughtUp chainAtTenSeconds (quietPoll 4000 ⟨5, 2000, 0, 16, 0⟩)
      ⟨5, 1000, 0, 16, 0⟩ ⟨5, 2000, 0, 16, 0⟩ := by
  intro caughtUp
  rcases caughtUp ⟨10, 0, 0, 16, 0⟩ rfl with reached | ⟨reached, _⟩
  · exact absurd reached (by decide)
  · exact absurd reached (by decide)

end SflowMiddle.Clock

/-
Soundness of the reported uncertainty against a device whose state is a piecewise
constant function of true time. The interval a sample stands for opens at the
after-reading of the stored poll, but the device was read anywhere inside that
poll; only the latency of the current poll is added to the width.
-/

import SflowMiddle.Clock.PollSpec
import SflowMiddle.Foundation.TransitionSystem
import Mathlib.Data.Real.Basic

namespace SflowMiddle.Clock

open SflowMiddle.Foundation
open ClockSampler

/-- Publications in order of time, each with a later MAC time than the one before.
MAC time is bounded, so there are finitely many. -/
structure PublishingDevice where
  count : Nat
  publishedAt : Fin count → ℝ
  state : Fin count → MacTimeStateHost
  ordered : StrictMono publishedAt
  advancing : StrictMono fun publication => (state publication).timeNs

def PublishingDevice.Shows (device : PublishingDevice) (instant : ℝ)
    (publication : Fin device.count) : Prop :=
  device.publishedAt publication ≤ instant ∧
    ∀ later, publication < later → instant < device.publishedAt later

/-- A valid observation is the state shown at some instant between the two readings. -/
def PublishingDevice.ReadBetween (device : PublishingDevice) (bounds : HostClockBounds)
    (state : MacTimeStateHost) : Prop :=
  ∃ instant publication, (bounds.monotonicBeforeNs : ℝ) ≤ instant ∧
    instant ≤ bounds.monotonicAfterNs ∧ device.Shows instant publication ∧
    state = device.state publication

private theorem PublishingDevice.publication_lt {device : PublishingDevice}
    {earlier later : Fin device.count}
    (advanced : (device.state earlier).timeNs < (device.state later).timeNs) :
    earlier < later :=
  device.advancing.lt_iff_lt.mp advanced

/-- A state newer than one read in an earlier poll was published after that poll began
and before the current poll ended. -/
theorem PublishingDevice.publishedAt_between {device : PublishingDevice}
    {earlier later : HostClockBounds} {old new : MacTimeStateHost}
    (oldRead : device.ReadBetween earlier old) (newRead : device.ReadBetween later new)
    (advanced : old.timeNs < new.timeNs) {publication : Fin device.count}
    (published : new = device.state publication) :
    (earlier.monotonicBeforeNs : ℝ) < device.publishedAt publication ∧
      device.publishedAt publication ≤ later.monotonicAfterNs := by
  obtain ⟨oldInstant, oldPublication, oldAfter, _, oldShown, oldState⟩ := oldRead
  obtain ⟨newInstant, newPublication, _, newBefore, newShown, newState⟩ := newRead
  have same : newPublication = publication := by
    apply device.advancing.injective
    change (device.state newPublication).timeNs = (device.state publication).timeNs
    rw [← newState, ← published]
  rw [same] at newShown
  have inOrder : oldPublication < publication :=
    publication_lt (by rw [← oldState, ← published]; exact advanced)
  exact ⟨oldAfter.trans_lt (oldShown.2 publication inOrder), newShown.1.trans newBefore⟩

/-! ### The interval the readings leave open -/

/-- The stored poll was read promptly enough for the current one: from the centre of
the sample back to its start the reported uncertainty is not exceeded. -/
def PromptlyStored (last observation : HostClockBounds) : Prop :=
  midpoint last.monotonicAfterNs observation.monotonicAfterNs - last.monotonicBeforeNs ≤
    observation.monotonicAfterNs - last.monotonicAfterNs +
      (observation.monotonicAfterNs - observation.monotonicBeforeNs)

private theorem within_uncertainty_iff {last observation : HostClockBounds}
    (lastForward : last.monotonicBeforeNs ≤ last.monotonicAfterNs)
    (later : last.monotonicAfterNs ≤ observation.monotonicBeforeNs)
    (forward : observation.monotonicBeforeNs ≤ observation.monotonicAfterNs) :
    (∀ instant : ℝ, (last.monotonicBeforeNs : ℝ) < instant →
        instant ≤ observation.monotonicAfterNs →
        |instant - (midpoint last.monotonicAfterNs observation.monotonicAfterNs : Int)| ≤
          ((observation.monotonicAfterNs - last.monotonicAfterNs +
            (observation.monotonicAfterNs - observation.monotonicBeforeNs) : Int) : ℝ)) ↔
      PromptlyStored last observation := by
  obtain ⟨centreLow, centreHigh⟩ := truncMidpoint_bounds (later.trans forward)
  change last.monotonicAfterNs ≤
    midpoint last.monotonicAfterNs observation.monotonicAfterNs at centreLow
  change midpoint last.monotonicAfterNs observation.monotonicAfterNs ≤
    observation.monotonicAfterNs at centreHigh
  constructor
  · intro within
    by_contra slow
    unfold PromptlyStored at slow
    rw [not_le] at slow
    have gap : ((observation.monotonicAfterNs - last.monotonicAfterNs +
        (observation.monotonicAfterNs - observation.monotonicBeforeNs) : Int) : ℝ) + 1 ≤
        ((midpoint last.monotonicAfterNs observation.monotonicAfterNs -
          last.monotonicBeforeNs : Int) : ℝ) := by
      exact_mod_cast slow
    have low : (last.monotonicBeforeNs : ℝ) ≤ last.monotonicAfterNs := by
      exact_mod_cast lastForward
    have wide : (last.monotonicAfterNs : ℝ) ≤ observation.monotonicBeforeNs := by
      exact_mod_cast later
    have ends : (observation.monotonicBeforeNs : ℝ) ≤ observation.monotonicAfterNs := by
      exact_mod_cast forward
    have centre : (midpoint last.monotonicAfterNs observation.monotonicAfterNs : ℝ) ≤
        observation.monotonicAfterNs := by
      exact_mod_cast centreHigh
    push_cast at gap
    have bounded := within (last.monotonicBeforeNs + 1 / 2) (by linarith) (by linarith)
    rw [abs_le] at bounded
    push_cast at bounded
    linarith [bounded.1]
  · intro prompt instant opened closed
    have reach : ((midpoint last.monotonicAfterNs observation.monotonicAfterNs -
        last.monotonicBeforeNs : Int) : ℝ) ≤
        ((observation.monotonicAfterNs - last.monotonicAfterNs +
          (observation.monotonicAfterNs - observation.monotonicBeforeNs) : Int) : ℝ) := by
      exact_mod_cast prompt
    have centre : (last.monotonicAfterNs : ℝ) ≤
        (midpoint last.monotonicAfterNs observation.monotonicAfterNs : Int) := by
      exact_mod_cast centreLow
    have ends : (observation.monotonicBeforeNs : ℝ) ≤ observation.monotonicAfterNs := by
      exact_mod_cast forward
    push_cast at reach ⊢
    rw [abs_le]
    constructor <;> linarith

/-! ### Runs over the device -/

/-- A sampler, the last monotonic reading taken, and every sample emitted so far with
the state it was emitted for. -/
structure SamplerRun where
  sampler : ClockSampler
  clockNs : Int
  emitted : List (PublicationSample × MacTimeStateHost)

structure DevicePoll where
  bounds : HostClockBounds
  observed : MacStateObservation

def SamplerRun.poll (run : SamplerRun) (poll : DevicePoll) : SamplerRun :=
  { sampler := (run.sampler.poll poll.bounds poll.observed).2
    clockNs := poll.bounds.monotonicAfterNs
    emitted := run.emitted ++
      ((run.sampler.poll poll.bounds poll.observed).1.toList.map fun sample =>
        (sample, poll.observed.state)) }

def samplerSystem (device : PublishingDevice) (maximumUncertaintyNs : Int) :
    TransitionSystem SamplerRun DevicePoll where
  initial run :=
    run.sampler = { maximumUncertaintyNs := maximumUncertaintyNs } ∧ run.emitted = []
  step before poll after :=
    before.clockNs ≤ poll.bounds.monotonicBeforeNs ∧
      poll.bounds.monotonicBeforeNs ≤ poll.bounds.monotonicAfterNs ∧
      (poll.observed.valid = true → device.ReadBetween poll.bounds poll.observed.state) ∧
      after = before.poll poll

/-- A poll that emits a sample closes an interval whose stored poll was prompt. -/
def EmitsPromptly (run : SamplerRun) (poll : DevicePoll) : Prop :=
  ∀ last, run.sampler.comparedWith poll.bounds = some last →
    run.sampler.Emits last (stamped poll.bounds poll.observed) →
      PromptlyStored last.bounds poll.bounds

/-- The stored observation is a device read that ended before now. -/
def StoredRead (device : PublishingDevice) (run : SamplerRun) : Prop :=
  ∀ last, run.sampler.lastObservation = some last →
    device.ReadBetween last.bounds last.state ∧
      last.bounds.monotonicBeforeNs ≤ last.bounds.monotonicAfterNs ∧
      last.bounds.monotonicAfterNs ≤ run.clockNs

def SoundSample (device : PublishingDevice) (sample : PublicationSample)
    (state : MacTimeStateHost) : Prop :=
  ∀ publication, state = device.state publication →
    |device.publishedAt publication - (sample.hostMonotonicNs : ℝ)| ≤ sample.uncertaintyNs

private theorem storedRead_step {device : PublishingDevice} {maximumUncertaintyNs : Int}
    {before after : SamplerRun} {poll : DevicePoll}
    (step : (samplerSystem device maximumUncertaintyNs).step before poll after)
    (stored : StoredRead device before) : StoredRead device after := by
  obtain ⟨later, forward, read, rfl⟩ := step
  intro last remembered
  change (before.sampler.poll poll.bounds poll.observed).2.lastObservation = some last
    at remembered
  have carried : before.sampler.lastObservation = some last →
      device.ReadBetween last.bounds last.state ∧
        last.bounds.monotonicBeforeNs ≤ last.bounds.monotonicAfterNs ∧
        last.bounds.monotonicAfterNs ≤ poll.bounds.monotonicAfterNs := by
    intro same
    obtain ⟨oldRead, oldForward, oldEnded⟩ := stored last same
    exact ⟨oldRead, oldForward, oldEnded.trans (later.trans forward)⟩
  rw [poll_lastObservation] at remembered
  split at remembered
  · exact carried remembered
  · split at remembered
    · exact carried (comparedWith_eq_some remembered).2
    · rename_i valid
      cases remembered
      exact ⟨read (Bool.of_not_eq_false valid), forward, le_refl _⟩

private theorem soundSample_of_emitsPromptly {device : PublishingDevice}
    {maximumUncertaintyNs : Int} {before after : SamplerRun} {poll : DevicePoll}
    (step : (samplerSystem device maximumUncertaintyNs).step before poll after)
    (stored : StoredRead device before) (prompt : EmitsPromptly before poll)
    {sample : PublicationSample}
    (emitted : (before.sampler.poll poll.bounds poll.observed).1 = some sample) :
    SoundSample device sample poll.observed.state := by
  obtain ⟨later, forward, read, _⟩ := step
  obtain ⟨_, valid, last, compared, emits, rfl⟩ := poll_eq_some emitted
  obtain ⟨oldRead, oldForward, oldEnded⟩ := stored last (comparedWith_eq_some compared).2
  have advanced := (isPlausibleTransition_iff.mp emits.1).2.2.2
  intro publication published
  obtain ⟨opened, closed⟩ :=
    PublishingDevice.publishedAt_between oldRead (read valid) advanced published
  exact (within_uncertainty_iff oldForward (oldEnded.trans later) forward).mpr
    (prompt last compared emits) _ opened closed

/-- In every run whose emitting polls close prompt intervals, every sample is sound. -/
theorem uncertainty_sound (device : PublishingDevice) (maximumUncertaintyNs : Int)
    (run : SamplerRun)
    (reachable : ((samplerSystem device maximumUncertaintyNs).restrict
      EmitsPromptly).Reachable run) :
    ∀ sample state, (sample, state) ∈ run.emitted → SoundSample device sample state := by
  have both := reachable.invariant
    (fun current => StoredRead device current ∧
      ∀ sample state, (sample, state) ∈ current.emitted → SoundSample device sample state)
    (by
      rintro start ⟨fresh, none⟩
      refine ⟨?_, by rw [none]; simp⟩
      intro last remembered
      rw [fresh] at remembered
      cases remembered)
    (by
      rintro before poll after ⟨prompt, step⟩ ⟨stored, sound⟩
      refine ⟨storedRead_step step stored, ?_⟩
      intro sample state member
      have written := step.2.2.2
      rw [written] at member
      rcases List.mem_append.mp member with earlier | new
      · exact sound sample state earlier
      · obtain ⟨fresh, freshMember, same⟩ := List.mem_map.mp new
        cases same
        exact soundSample_of_emitsPromptly step stored prompt
          (Option.mem_toList.mp freshMember))
  exact both.2

/-! ### A prompt and a slow stored poll -/

def twoStates (publication : Nat) : MacTimeStateHost :=
  ⟨10, UInt32.ofNat publication, 0, 16, 0⟩

def twoPublications : PublishingDevice where
  count := 2
  publishedAt := fun publication => ((publication.val : Nat) : ℝ)
  state := fun publication => twoStates publication.val
  ordered := by
    intro left right below
    exact Nat.cast_lt.mpr below
  advancing := by
    intro left right below
    revert below
    revert left right
    decide

def readOf (startNs endNs : Int) (publication : Nat) : DevicePoll where
  bounds :=
    { realtimeBeforeNs := startNs
      realtimeAfterNs := endNs
      monotonicBeforeNs := startNs
      monotonicAfterNs := endNs }
  observed := { state := twoStates publication, valid := true }

private theorem readBetween_first {endNs : Int} (later : 0 ≤ endNs) :
    twoPublications.ReadBetween (readOf 0 endNs 0).bounds (twoStates 0) := by
  refine ⟨0, (0 : Fin 2), ?_, ?_, ⟨?_, ?_⟩, rfl⟩
  · change ((0 : Int) : ℝ) ≤ 0
    norm_num
  · change (0 : ℝ) ≤ ((endNs : Int) : ℝ)
    exact_mod_cast later
  · change (((0 : Fin 2).val : Nat) : ℝ) ≤ 0
    norm_num
  · intro other after
    have positive : 0 < other.val := after
    change (0 : ℝ) < ((other.val : Nat) : ℝ)
    exact_mod_cast positive

private theorem readBetween_second {startNs endNs : Int} (started : 1 ≤ startNs)
    (ordered : startNs ≤ endNs) :
    twoPublications.ReadBetween (readOf startNs endNs 1).bounds (twoStates 1) := by
  refine ⟨(startNs : ℝ), (1 : Fin 2), le_refl _, ?_, ⟨?_, ?_⟩, rfl⟩
  · change ((startNs : Int) : ℝ) ≤ ((endNs : Int) : ℝ)
    exact_mod_cast ordered
  · change (((1 : Fin 2).val : Nat) : ℝ) ≤ ((startNs : Int) : ℝ)
    norm_num
    exact_mod_cast started
  · intro other after
    have large : 1 < other.val := after
    have small : other.val < 2 := other.isLt
    omega

def freshRun : SamplerRun :=
  { sampler := { maximumUncertaintyNs := 800000 }, clockNs := 0, emitted := [] }

def firstRead (endNs : Int) : SamplerRun := freshRun.poll (readOf 0 endNs 0)

private theorem firstRead_step {endNs : Int} (later : 0 ≤ endNs) :
    (samplerSystem twoPublications 800000).step freshRun (readOf 0 endNs 0)
      (firstRead endNs) :=
  ⟨le_refl _, later, fun _ => readBetween_first later, rfl⟩

private theorem secondRead_step {firstEndNs startNs endNs : Int} (started : 1 ≤ startNs)
    (after : firstEndNs ≤ startNs) (ordered : startNs ≤ endNs) :
    (samplerSystem twoPublications 800000).step (firstRead firstEndNs)
      (readOf startNs endNs 1) ((firstRead firstEndNs).poll (readOf startNs endNs 1)) :=
  ⟨after, ordered, fun _ => readBetween_second started ordered, rfl⟩

theorem uncertainty_sound_prompt_reads :
    ∃ emitted ∈ ((firstRead 100).poll (readOf 200 300 1)).emitted,
      SoundSample twoPublications emitted.1 emitted.2 := by
  have fresh : (samplerSystem twoPublications 800000).initial freshRun := ⟨rfl, rfl⟩
  have first : EmitsPromptly freshRun (readOf 0 100 0) := by
    intro last compared
    cases compared
  have second : EmitsPromptly (firstRead 100) (readOf 200 300 1) := by
    intro last compared _
    cases compared
    unfold PromptlyStored
    decide
  have emits : ((firstRead 100).poll (readOf 200 300 1)).emitted ≠ [] := by decide
  obtain ⟨emitted, member⟩ := List.exists_mem_of_ne_nil _ emits
  exact ⟨emitted, member, uncertainty_sound twoPublications 800000 _
    (.next (.next (.start fresh) ⟨first, firstRead_step (by decide)⟩)
      ⟨second, secondRead_step (by decide) (by decide) (by decide)⟩) _ _ member⟩

/-- A read of a microsecond followed by one of ten nanoseconds: the state published
while the slow read was under way is dated a microsecond late. -/
theorem slow_read_unsound :
    ∃ device run sample state, (samplerSystem device 800000).Reachable run ∧
      (sample, state) ∈ run.emitted ∧ ¬ SoundSample device sample state := by
  have fresh : (samplerSystem twoPublications 800000).initial freshRun := ⟨rfl, rfl⟩
  refine ⟨twoPublications, (firstRead 1000).poll (readOf 1001 1011 1),
    ⟨10000000001, 1005, 1005, 21, 1000, 1011, 0, 16, 0⟩, twoStates 1,
    .next (.next (.start fresh) (firstRead_step (by decide)))
      (secondRead_step (by decide) (by decide) (by decide)), by decide, ?_⟩
  intro sound
  have bounded := sound (1 : Fin 2) rfl
  change |(((1 : Fin 2).val : Nat) : ℝ) - ((1005 : Int) : ℝ)| ≤ ((21 : Int) : ℝ) at bounded
  norm_num at bounded

end SflowMiddle.Clock

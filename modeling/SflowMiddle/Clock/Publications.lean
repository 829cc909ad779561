/-
The samples of a whole run of reader and sampler. The sampler alone accepts a
rolled-back state as its new baseline and forgets its baseline on a host step; that
its samples still advance follows from the reader, which never accepts a state
below the last one it accepted.
-/

import SflowMiddle.Clock.PollSpec
import SflowMiddle.Foundation.TransitionSystem

namespace SflowMiddle.Clock

open SflowMiddle.Foundation
open ClockSampler

/-- A chain, the last monotonic reading taken, and every poll with what it returned. -/
structure Publications where
  chain : ClockChain
  clockNs : Int
  history : List (PollInput × Option PublicationSample) := []

namespace Publications

def record (run : Publications) (input : PollInput) : Publications :=
  { chain := (run.chain.poll input).2
    clockNs := input.bounds.monotonicAfterNs
    history := run.history ++ [(input, (run.chain.poll input).1)] }

def emitted (run : Publications) : List PublicationSample :=
  run.history.filterMap Prod.snd

@[simp]
theorem emitted_record (run : Publications) (input : PollInput) :
    (run.record input).emitted = run.emitted ++ (run.chain.poll input).1.toList := by
  unfold emitted record
  rw [List.filterMap_append]
  cases (run.chain.poll input).1 <;> rfl

end Publications

/-- The monotonic clock does not run backwards; nothing is asked of the realtime clock
or of the device. -/
def publicationSystem (maximumUncertaintyNs : Int) : TransitionSystem Publications PollInput where
  initial run :=
    run.chain = { sampler := { maximumUncertaintyNs := maximumUncertaintyNs } } ∧
      run.history = []
  step before input after :=
    before.clockNs ≤ input.bounds.monotonicBeforeNs ∧
      input.bounds.monotonicBeforeNs ≤ input.bounds.monotonicAfterNs ∧
      after = before.record input

/-! ### What links reader, sampler and the samples emitted so far -/

def StoredBehind (run : Publications) : Prop :=
  ∀ stored, run.chain.sampler.lastObservation = some stored →
    stored.bounds.monotonicAfterNs ≤ run.clockNs ∧
      ∃ last, run.chain.reader.lastState = some last ∧ stored.state.timeNs ≤ last.timeNs

/-- A sample is not ahead of anything the chain remembers. -/
structure SampleBehind (run : Publications) (sample : PublicationSample) : Prop where
  ended : sample.transitionEndMonoNs ≤ run.clockNs
  read : ∃ last, run.chain.reader.lastState = some last ∧ sample.smartnicNs ≤ last.timeNs
  stored : ∀ stored, run.chain.sampler.lastObservation = some stored →
    sample.smartnicNs ≤ stored.state.timeNs ∧
      sample.transitionEndMonoNs ≤ stored.bounds.monotonicAfterNs

/-- The interval of the later sample opens after that of the earlier one closed. -/
structure Precedes (earlier later : PublicationSample) : Prop where
  smartnic : earlier.smartnicNs < later.smartnicNs
  interval : earlier.transitionEndMonoNs ≤ later.transitionStartMonoNs
  monotonic : earlier.hostMonotonicNs ≤ later.hostMonotonicNs

def InsideInterval (sample : PublicationSample) : Prop :=
  sample.transitionStartMonoNs ≤ sample.hostMonotonicNs ∧
    sample.hostMonotonicNs ≤ sample.transitionEndMonoNs

/-- What a poll returned belongs to the state it read. -/
def SampleOfRead (entry : PollInput × Option PublicationSample) : Prop :=
  ∀ sample, entry.2 = some sample →
    ∃ state, entry.1.raw = .ok state ∧ sample.smartnicNs = state.timeNs

structure Advancing (run : Publications) : Prop where
  storedBehind : StoredBehind run
  behind : ∀ sample ∈ run.emitted, SampleBehind run sample
  inside : ∀ sample ∈ run.emitted, InsideInterval sample
  ordered : run.emitted.Pairwise Precedes
  readOff : ∀ entry ∈ run.history, SampleOfRead entry

section Step

variable {run : Publications} {input : PollInput}

private theorem lastState_advances {reader : MacClockReader} {last : MacTimeStateHost}
    (raw : RawRead)
    (remembered : reader.lastState = some last) :
    ∃ next, (reader.readState raw).2.lastState = some next ∧ last.timeNs ≤ next.timeNs := by
  rcases reader.readState_cases raw with ⟨_, kept⟩ | ⟨state, _, _, stored, _, above⟩
  · exact ⟨last, kept.trans remembered, le_refl _⟩
  · exact ⟨state, stored, above last remembered⟩

theorem poll_stores {stored : MacStateObservation}
    (remembered : (run.record input).chain.sampler.lastObservation = some stored) :
    run.chain.sampler.lastObservation = some stored ∨
      ∃ state, input.raw = .ok state ∧ stored.state = state ∧
        stored.bounds = input.bounds ∧
        (run.record input).chain.reader.lastState = some state ∧
        ∀ last, run.chain.reader.lastState = some last → last.timeNs ≤ state.timeNs := by
  change (run.chain.sampler.poll input.bounds
    (run.chain.reader.readState input.raw).1).2.lastObservation = some stored at remembered
  rw [poll_lastObservation] at remembered
  split at remembered
  · exact Or.inl remembered
  · split at remembered
    · exact Or.inl (comparedWith_eq_some remembered).2
    · rename_i valid
      rcases run.chain.reader.readState_cases input.raw with ⟨refused, _⟩ |
        ⟨state, read, observed, last, _, above⟩
      · exact absurd refused valid
      · rw [observed] at remembered
        cases remembered
        exact Or.inr ⟨state, read, rfl, rfl, last, above⟩

private theorem storedBehind_record (behind : StoredBehind run)
    (later : run.clockNs ≤ input.bounds.monotonicBeforeNs)
    (forward : input.bounds.monotonicBeforeNs ≤ input.bounds.monotonicAfterNs) :
    StoredBehind (run.record input) := by
  intro stored remembered
  rcases poll_stores remembered with kept | ⟨state, _, same, bounds, last, _⟩
  · obtain ⟨ended, last, lastRead, below⟩ := behind stored kept
    obtain ⟨next, nextRead, advanced⟩ := lastState_advances input.raw lastRead
    exact ⟨ended.trans (later.trans forward), next, nextRead, below.trans advanced⟩
  · rw [same, bounds]
    exact ⟨le_refl _, state, last, le_refl _⟩

private theorem sampleBehind_record {sample : PublicationSample} (behind : SampleBehind run sample)
    (later : run.clockNs ≤ input.bounds.monotonicBeforeNs)
    (forward : input.bounds.monotonicBeforeNs ≤ input.bounds.monotonicAfterNs) :
    SampleBehind (run.record input) sample := by
  have ended := behind.ended.trans (later.trans forward)
  obtain ⟨last, lastRead, below⟩ := behind.read
  obtain ⟨next, nextRead, advanced⟩ := lastState_advances input.raw lastRead
  refine ⟨ended, ⟨next, nextRead, below.trans advanced⟩, ?_⟩
  intro stored remembered
  rcases poll_stores remembered with kept | ⟨state, _, same, bounds, _, above⟩
  · exact behind.stored stored kept
  · rw [same, bounds]
    exact ⟨below.trans (above last lastRead), ended⟩

private theorem publish_emits {sample : PublicationSample}
    (emits : (run.chain.poll input).1 = some sample) :
    ∃ state last, input.raw = .ok state ∧ sample.smartnicNs = state.timeNs ∧
      run.chain.sampler.lastObservation = some last ∧
      last.state.timeNs < state.timeNs ∧
      last.bounds.monotonicAfterNs ≤ input.bounds.monotonicAfterNs ∧
      sample = transitionSample last
        (stamped input.bounds { state := state, valid := true }) state.timeNs ∧
      (run.record input).chain.reader.lastState = some state ∧
      (run.record input).chain.sampler.lastObservation =
        some (stamped input.bounds { state := state, valid := true }) := by
  obtain ⟨forward, valid, last, compared, closes, built⟩ := poll_eq_some emits
  rcases run.chain.reader.readState_cases input.raw with ⟨refused, _⟩ |
    ⟨state, read, observed, remembered, _, _⟩
  · rw [refused] at valid
    cases valid
  · rw [observed] at closes built
    have stored : (run.record input).chain.sampler.lastObservation =
        some (stamped input.bounds { state := state, valid := true }) := by
      change (run.chain.sampler.poll input.bounds
        (run.chain.reader.readState input.raw).1).2.lastObservation = _
      rw [poll_lastObservation, if_neg forward, observed, if_neg (by simp)]
    exact ⟨state, last, read, by rw [built]; rfl, (comparedWith_eq_some compared).2,
      (isPlausibleTransition_iff.mp closes.1).2.2.2, closes.2.1, built, remembered, stored⟩

private theorem insideInterval_of_emits {sample : PublicationSample}
    (emits : (run.chain.poll input).1 = some sample) : InsideInterval sample := by
  obtain ⟨state, last, _, _, _, _, width, built, _, _⟩ := publish_emits emits
  rw [built]
  exact truncMidpoint_bounds width

private theorem sampleBehind_of_emits {sample : PublicationSample}
    (emits : (run.chain.poll input).1 = some sample) : SampleBehind (run.record input) sample := by
  obtain ⟨state, last, _, time, _, _, _, built, remembered, replaced⟩ := publish_emits emits
  refine ⟨?_, ⟨state, remembered, time.le⟩, ?_⟩
  · rw [built]
    exact le_refl _
  · intro held same
    rw [replaced] at same
    cases same
    rw [built]
    exact ⟨le_refl _, le_refl _⟩

private theorem precedes_of_emits {sample : PublicationSample} (advancing : Advancing run)
    (emits : (run.chain.poll input).1 = some sample) :
    ∀ earlier ∈ run.emitted, Precedes earlier sample := by
  intro earlier member
  obtain ⟨state, last, _, time, compared, advanced, _, built, _, _⟩ := publish_emits emits
  have behind := (advancing.behind earlier member).stored last compared
  have opens : earlier.transitionEndMonoNs ≤ sample.transitionStartMonoNs := by
    rw [built]
    exact behind.2
  constructor
  · rw [time]
    exact behind.1.trans_lt advanced
  · exact opens
  · exact (advancing.inside earlier member).2.trans
      (opens.trans (insideInterval_of_emits emits).1)

private theorem sampleOfRead_record : SampleOfRead (input, (run.chain.poll input).1) := by
  intro sample emits
  obtain ⟨state, _, read, time, _⟩ := publish_emits emits
  exact ⟨state, read, time⟩

private theorem advancing_record (advancing : Advancing run)
    (later : run.clockNs ≤ input.bounds.monotonicBeforeNs)
    (forward : input.bounds.monotonicBeforeNs ≤ input.bounds.monotonicAfterNs) :
    Advancing (run.record input) := by
  have earlier : ∀ sample ∈ run.emitted, SampleBehind (run.record input) sample :=
    fun sample member => sampleBehind_record (advancing.behind sample member) later forward
  constructor
  · exact storedBehind_record advancing.storedBehind later forward
  · rw [Publications.emitted_record]
    exact forall_mem_extended earlier (fun sample emits => sampleBehind_of_emits emits)
  · rw [Publications.emitted_record]
    exact forall_mem_extended advancing.inside (fun sample emits => insideInterval_of_emits emits)
  · rw [Publications.emitted_record]
    exact pairwise_extended advancing.ordered
      (fun sample emits => precedes_of_emits advancing emits)
  · exact List.forall_mem_append.mpr
      ⟨advancing.readOff, List.forall_mem_singleton.mpr sampleOfRead_record⟩

end Step

theorem advancing_of_reachable {maximumUncertaintyNs : Int} {run : Publications}
    (reachable : (publicationSystem maximumUncertaintyNs).Reachable run) : Advancing run := by
  apply reachable.invariant Advancing
  · intro start initial
    obtain ⟨fresh, empty⟩ := initial
    have none : start.emitted = [] := by
      unfold Publications.emitted
      rw [empty]
      rfl
    constructor
    · intro stored remembered
      rw [fresh] at remembered
      cases remembered
    · rw [none]
      simp
    · rw [none]
      simp
    · rw [none]
      exact List.Pairwise.nil
    · rw [empty]
      simp
  · intro before input after step advancing
    obtain ⟨later, forward, recorded⟩ := step
    rw [recorded]
    exact advancing_record advancing later forward

private theorem Advancing.states_distinct {run : Publications} (advancing : Advancing run) :
    run.history.Pairwise fun earlier later =>
      ∀ first second, earlier.2 = some first → later.2 = some second →
        earlier.1.raw ≠ later.1.raw := by
  have ordered := advancing.ordered
  unfold Publications.emitted at ordered
  rw [List.pairwise_filterMap] at ordered
  apply ordered.imp_of_mem
  intro earlier later earlierMember laterMember precedes first second firstEmitted
    secondEmitted same
  obtain ⟨firstState, firstRead, firstTime⟩ :=
    advancing.readOff earlier earlierMember first firstEmitted
  obtain ⟨secondState, secondRead, secondTime⟩ :=
    advancing.readOff later laterMember second secondEmitted
  have advanced := (precedes first firstEmitted second secondEmitted).smartnic
  rw [firstRead, secondRead, Except.ok.injEq] at same
  rw [firstTime, secondTime, same] at advanced
  exact lt_irrefl _ advanced

/-- The samples of a run form one strictly advancing chain. -/
structure ChainAdvances (run : Publications) : Prop where
  ordered : run.emitted.Pairwise Precedes
  inside : ∀ sample ∈ run.emitted, InsideInterval sample
  distinct : run.history.Pairwise fun earlier later =>
    ∀ first second, earlier.2 = some first → later.2 = some second → earlier.1.raw ≠ later.1.raw

theorem chainAdvances_of_reachable {maximumUncertaintyNs : Int} {run : Publications}
    (reachable : (publicationSystem maximumUncertaintyNs).Reachable run) : ChainAdvances run := by
  have advancing := advancing_of_reachable reachable
  exact ⟨advancing.ordered, advancing.inside, advancing.states_distinct⟩

/-! ### Several polls in a row -/

def Publications.recordAll (run : Publications) (inputs : List PollInput) : Publications :=
  inputs.foldl Publications.record run

def InOrder (clockNs : Int) : List PollInput → Prop
  | [] => True
  | input :: inputs =>
      clockNs ≤ input.bounds.monotonicBeforeNs ∧
        input.bounds.monotonicBeforeNs ≤ input.bounds.monotonicAfterNs ∧
        InOrder input.bounds.monotonicAfterNs inputs

instance decidableInOrder : (clockNs : Int) → (inputs : List PollInput) →
    Decidable (InOrder clockNs inputs)
  | _, [] => .isTrue trivial
  | clockNs, input :: inputs =>
      have := decidableInOrder input.bounds.monotonicAfterNs inputs
      inferInstanceAs (Decidable (clockNs ≤ _ ∧ _ ≤ _ ∧ _))

theorem reachable_recordAll {maximumUncertaintyNs : Int} {inputs : List PollInput}
    {run : Publications} (reachable : (publicationSystem maximumUncertaintyNs).Reachable run)
    (inOrder : InOrder run.clockNs inputs) :
    (publicationSystem maximumUncertaintyNs).Reachable (run.recordAll inputs) := by
  induction inputs generalizing run with
  | nil => exact reachable
  | cons input inputs ih =>
      obtain ⟨later, forward, rest⟩ := inOrder
      have polled : (publicationSystem maximumUncertaintyNs).Reachable (run.record input) :=
        reachable.next ⟨later, forward, rfl⟩
      exact ih polled rest

end SflowMiddle.Clock

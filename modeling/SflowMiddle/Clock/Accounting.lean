/-
The statistics of sampler and reader. A poll leaves by one of six exits, each with
its own counters; only the first observation after a cleared baseline is counted by
none of them. A baseline is cleared by a host step, which is counted, or by `reset`,
so the polls counted nowhere are bounded by those two.
-/

import Mathlib.Algebra.BigOperators.Ring.Finset
import SflowMiddle.Clock.PollSpec
import SflowMiddle.Foundation.TransitionSystem

namespace SflowMiddle.Clock

open SflowMiddle.Foundation
open ClockSampler

/-! ### The exits of one poll -/

inductive PollExit where
  | invalid
  | seeded
  | duplicate
  | unlikely
  | refused
  | accepted
  deriving DecidableEq, Repr

/-- What each exit adds to the counters, besides the observation itself. -/
def PollExit.count (counters : ClockSamplerCounters) : PollExit → ClockSamplerCounters
  | .invalid => { counters with invalidObservations := counters.invalidObservations + 1 }
  | .seeded => counters
  | .duplicate => { counters with duplicateStates := counters.duplicateStates + 1 }
  | .unlikely =>
      { counters with
        deviceResets := counters.deviceResets + 1
        rejectedTransitions := counters.rejectedTransitions + 1 }
  | .refused => { counters with rejectedTransitions := counters.rejectedTransitions + 1 }
  | .accepted => { counters with acceptedTransitions := counters.acceptedTransitions + 1 }

/-- The counters once the observation and a host step are counted. -/
def stepCounted (sampler : ClockSampler) (bounds : HostClockBounds) : ClockSamplerCounters :=
  { sampler.counters with
    observations := sampler.counters.observations + 1
    hostClockSteps :=
      if ¬ bounds.rollsBack ∧ sampler.HostStepSeen bounds then
        sampler.counters.hostClockSteps + 1
      else sampler.counters.hostClockSteps }

def transitionExit (sampler : ClockSampler) (last observation : MacStateObservation) : PollExit :=
  if observation.state = last.state then .duplicate
  else if isPlausibleTransition last.state observation.state = false then .unlikely
  else if sampler.Emits last observation then .accepted
  else .refused

def pollExit (sampler : ClockSampler) (bounds : HostClockBounds)
    (observed : MacStateObservation) : PollExit :=
  if bounds.rollsBack ∨ observed.valid = false then .invalid
  else
    match sampler.comparedWith bounds with
    | none => .seeded
    | some last => transitionExit sampler last (stamped bounds observed)

private theorem transition_counters (sampler : ClockSampler)
    (last observation : MacStateObservation) :
    (sampler.transition last observation).2.counters =
      (transitionExit sampler last observation).count sampler.counters := by
  have sampled := transition_sample sampler last observation
  unfold transition at sampled ⊢
  unfold transitionExit
  by_cases same : observation.state = last.state
  · rw [if_pos same, if_pos same]
    rfl
  · rw [if_neg same] at sampled ⊢
    rw [if_neg same]
    by_cases unlikely : isPlausibleTransition last.state observation.state = false
    · rw [if_pos unlikely, if_pos unlikely]
      rfl
    · rw [if_neg unlikely] at sampled ⊢
      rw [if_neg unlikely]
      -- the exits that refuse return nothing, and nothing is returned unless `Emits` fails
      by_cases emits : sampler.Emits last observation
      · rw [if_pos emits] at sampled ⊢
        cases timed : stateTimeNs observation.state with
        | none =>
            rw [timed] at sampled
            cases sampled
        | some smartnicNs =>
            rw [timed] at sampled
            dsimp only at sampled ⊢
            split at sampled
            · cases sampled
            · rename_i fits
              rw [if_neg fits]
              rfl
      · rw [if_neg emits] at sampled ⊢
        cases timed : stateTimeNs observation.state with
        | none => rfl
        | some smartnicNs =>
            rw [timed] at sampled
            dsimp only at sampled ⊢
            split at sampled
            · rename_i refused
              rw [if_pos refused]
              rfl
            · cases sampled

private theorem trackMidpoints_counters (sampler : ClockSampler) (bounds : HostClockBounds) :
    (sampler.trackMidpoints bounds).counters =
      { sampler.counters with
        hostClockSteps :=
          if sampler.HostStepSeen bounds then sampler.counters.hostClockSteps + 1
          else sampler.counters.hostClockSteps } := by
  unfold trackMidpoints
  dsimp only
  split
  · rfl
  · rfl

def stepTracked (sampler : ClockSampler) (bounds : HostClockBounds) : ClockSampler :=
  ({ sampler with
      counters :=
        { sampler.counters with observations := sampler.counters.observations + 1 } }
    ).trackMidpoints bounds

private theorem stepTracked_counters {sampler : ClockSampler} {bounds : HostClockBounds}
    (forward : ¬ bounds.rollsBack) :
    (stepTracked sampler bounds).counters = stepCounted sampler bounds := by
  unfold stepTracked stepCounted
  rw [trackMidpoints_counters]
  by_cases seen : sampler.HostStepSeen bounds
  · rw [if_pos (by exact seen), if_pos ⟨forward, seen⟩]
  · rw [if_neg (by exact seen), if_neg (fun both => seen both.2)]

private theorem transitionExit_stepTracked (sampler : ClockSampler) (bounds : HostClockBounds)
    (last observation : MacStateObservation) :
    transitionExit (stepTracked sampler bounds) last observation =
      transitionExit sampler last observation := by
  have same : (stepTracked sampler bounds).Emits last observation ↔
      sampler.Emits last observation := by
    unfold Emits stepTracked
    rw [trackMidpoints_maximum]
  simp only [transitionExit, same]

private theorem poll_counters (sampler : ClockSampler) (bounds : HostClockBounds)
    (observed : MacStateObservation) :
    (sampler.poll bounds observed).2.counters =
      (pollExit sampler bounds observed).count (stepCounted sampler bounds) := by
  unfold pollExit
  by_cases back : bounds.rollsBack
  · have uncounted : stepCounted sampler bounds =
        { sampler.counters with observations := sampler.counters.observations + 1 } := by
      unfold stepCounted
      rw [if_neg (fun both => both.1 back)]
    unfold poll
    dsimp only
    rw [if_pos back, if_pos (Or.inl back), uncounted]
    rfl
  · rw [← stepTracked_counters back]
    by_cases invalid : observed.valid = false
    · unfold poll
      dsimp only
      rw [if_neg back, if_pos (by exact invalid), if_pos (Or.inr invalid)]
      rfl
    · have compared : (stepTracked sampler bounds).lastObservation =
          sampler.comparedWith bounds :=
        trackMidpoints_lastObservation _ bounds
      have polled : sampler.poll bounds observed =
          match (stepTracked sampler bounds).lastObservation with
          | none =>
              (none,
                { stepTracked sampler bounds with
                  lastObservation := some (stamped bounds observed) })
          | some last =>
              (stepTracked sampler bounds).transition last (stamped bounds observed) := by
        unfold poll
        dsimp only
        rw [if_neg back, if_neg (by exact invalid)]
        rfl
      rw [polled, compared, if_neg (not_or.mpr ⟨back, invalid⟩)]
      cases sampler.comparedWith bounds with
      | none => rfl
      | some last =>
          dsimp only
          rw [transition_counters, transitionExit_stepTracked]

private theorem transitionExit_accepted_iff {sampler : ClockSampler}
    {last observation : MacStateObservation} :
    transitionExit sampler last observation = .accepted ↔ sampler.Emits last observation := by
  unfold transitionExit
  by_cases emits : sampler.Emits last observation
  · rw [if_neg (state_ne_of_transition emits.1), if_neg (by simp [emits.1]), if_pos emits]
    exact ⟨fun _ => emits, fun _ => rfl⟩
  · rw [if_neg emits]
    split
    · simp [emits]
    · split
      · simp [emits]
      · simp [emits]

private theorem poll_isSome_iff (sampler : ClockSampler) (bounds : HostClockBounds)
    (observed : MacStateObservation) :
    (sampler.poll bounds observed).1.isSome ↔ pollExit sampler bounds observed = .accepted := by
  rw [poll_sample]
  unfold pollExit
  by_cases unusable : bounds.rollsBack ∨ observed.valid = false
  · rw [if_pos unusable, if_pos unusable]
    simp
  · rw [if_neg unusable, if_neg unusable]
    cases sampler.comparedWith bounds with
    | none => simp
    | some last =>
        dsimp only
        rw [Option.bind_some, transitionExit_accepted_iff]
        split
        · rename_i emits
          simp [emits]
        · rename_i kept
          simp [kept]

private theorem pollExit_seeded_iff {sampler : ClockSampler} {bounds : HostClockBounds}
    {observed : MacStateObservation} :
    pollExit sampler bounds observed = .seeded ↔
      ¬ (bounds.rollsBack ∨ observed.valid = false) ∧ sampler.comparedWith bounds = none := by
  unfold pollExit
  by_cases unusable : bounds.rollsBack ∨ observed.valid = false
  · rw [if_pos unusable]
    simp [unusable]
  · rw [if_neg unusable]
    cases sampler.comparedWith bounds with
    | none => simp [unusable]
    | some last =>
        dsimp only
        unfold transitionExit
        split
        · simp
        · split
          · simp
          · split
            · simp
            · simp

/-! ### The balance of one poll -/

/-- The polls the counters account for by their exit. -/
def ClockSamplerCounters.exits (counters : ClockSamplerCounters) : Nat :=
  counters.acceptedTransitions + counters.duplicateStates + counters.invalidObservations +
    counters.rejectedTransitions

private theorem exits_count (counters : ClockSamplerCounters) (exit : PollExit) :
    (exit.count counters).exits = counters.exits + if exit = .seeded then 0 else 1 := by
  unfold ClockSamplerCounters.exits
  cases exit with
  | seeded => rfl
  | invalid => simp only [PollExit.count]; rw [if_neg (by decide)]; omega
  | duplicate => simp only [PollExit.count]; rw [if_neg (by decide)]; omega
  | unlikely => simp only [PollExit.count]; rw [if_neg (by decide)]; omega
  | refused => simp only [PollExit.count]; rw [if_neg (by decide)]; omega
  | accepted => simp only [PollExit.count]; rw [if_neg (by decide)]; omega

private theorem observations_count (counters : ClockSamplerCounters) (exit : PollExit) :
    (exit.count counters).observations = counters.observations := by
  cases exit <;> rfl

private theorem hostClockSteps_count (counters : ClockSamplerCounters) (exit : PollExit) :
    (exit.count counters).hostClockSteps = counters.hostClockSteps := by
  cases exit <;> rfl

private theorem deviceResets_count {counters : ClockSamplerCounters}
    (fewer : counters.deviceResets ≤ counters.rejectedTransitions) (exit : PollExit) :
    (exit.count counters).deviceResets ≤ (exit.count counters).rejectedTransitions := by
  cases exit with
  | unlikely => exact Nat.succ_le_succ fewer
  | refused => exact fewer.trans (Nat.le_succ _)
  | invalid => exact fewer
  | seeded => exact fewer
  | duplicate => exact fewer
  | accepted => exact fewer

private theorem acceptedTransitions_count (counters : ClockSamplerCounters) (exit : PollExit) :
    (exit.count counters).acceptedTransitions =
      counters.acceptedTransitions + if exit = .accepted then 1 else 0 := by
  cases exit <;> rfl

/-! ### Runs of the sampler -/

inductive SamplerCall where
  | poll (bounds : HostClockBounds) (observed : MacStateObservation)
  | reset

def SamplerCall.isPoll : SamplerCall → Bool
  | .poll _ _ => true
  | .reset => false

def SamplerCall.isReset : SamplerCall → Bool
  | .poll _ _ => false
  | .reset => true

/-- The poll stores an observation and, but for itself and a host step, counts nothing. -/
def OnlyStores (sampler : ClockSampler) (bounds : HostClockBounds)
    (observed : MacStateObservation) : Prop :=
  (sampler.poll bounds observed).2.lastObservation = some (stamped bounds observed) ∧
    (sampler.poll bounds observed).2.counters = stepCounted sampler bounds

instance (sampler : ClockSampler) (bounds : HostClockBounds) (observed : MacStateObservation) :
    Decidable (OnlyStores sampler bounds observed) :=
  inferInstanceAs (Decidable (_ ∧ _))

private theorem onlyStores_iff {sampler : ClockSampler} {bounds : HostClockBounds}
    {observed : MacStateObservation} :
    OnlyStores sampler bounds observed ↔ pollExit sampler bounds observed = .seeded := by
  unfold OnlyStores
  rw [poll_counters, poll_lastObservation]
  constructor
  · rintro ⟨_, uncounted⟩
    by_contra counted
    have balance := exits_count (stepCounted sampler bounds) (pollExit sampler bounds observed)
    rw [uncounted, if_neg counted] at balance
    omega
  · intro seeded
    obtain ⟨usable, _⟩ := pollExit_seeded_iff.mp seeded
    rw [not_or] at usable
    rw [if_neg usable.1, if_neg usable.2, seeded]
    exact ⟨rfl, rfl⟩

/-- A sampler with the calls that its counters do not count and the samples it returned. -/
structure StatisticsRun where
  sampler : ClockSampler
  seeds : Nat := 0
  resets : Nat := 0
  returned : List PublicationSample := []

def StatisticsRun.perform (run : StatisticsRun) : SamplerCall → StatisticsRun
  | .poll bounds observed =>
      { run with
        sampler := (run.sampler.poll bounds observed).2
        seeds := if OnlyStores run.sampler bounds observed then run.seeds + 1 else run.seeds
        returned := run.returned ++ (run.sampler.poll bounds observed).1.toList }
  | .reset => { run with sampler := run.sampler.reset, resets := run.resets + 1 }

def statisticsSystem (maximumUncertaintyNs : Int) : TransitionSystem StatisticsRun SamplerCall where
  initial run := run = { sampler := { maximumUncertaintyNs := maximumUncertaintyNs } }
  step before call after := after = before.perform call

structure Accounted (run : StatisticsRun) : Prop where
  observations : run.sampler.counters.observations =
    run.sampler.counters.acceptedTransitions + run.sampler.counters.duplicateStates +
      run.sampler.counters.invalidObservations + run.sampler.counters.rejectedTransitions +
      run.seeds
  seeds : run.seeds ≤ 1 + run.sampler.counters.hostClockSteps + run.resets
  deviceResets :
    run.sampler.counters.deviceResets ≤ run.sampler.counters.rejectedTransitions
  returned : run.sampler.counters.acceptedTransitions = run.returned.length

/-- Without a baseline the next seed is already paid for. -/
def BaselinePaid (run : StatisticsRun) : Prop :=
  run.sampler.lastObservation = none →
    run.seeds ≤ run.sampler.counters.hostClockSteps + run.resets

private theorem hostClockSteps_le_stepCounted (sampler : ClockSampler) (bounds : HostClockBounds) :
    sampler.counters.hostClockSteps ≤ (stepCounted sampler bounds).hostClockSteps := by
  unfold stepCounted
  dsimp only
  split
  · exact Nat.le_succ _
  · exact le_refl _

/-- A poll that finds no baseline was preceded by what cleared it, and that was counted. -/
private theorem seeds_of_uncompared {run : StatisticsRun} (accounted : Accounted run)
    (paid : BaselinePaid run) {bounds : HostClockBounds} (forward : ¬ bounds.rollsBack)
    (uncompared : run.sampler.comparedWith bounds = none) :
    run.seeds ≤ (stepCounted run.sampler bounds).hostClockSteps + run.resets := by
  have seeds := accounted.seeds
  unfold comparedWith at uncompared
  by_cases seen : run.sampler.HostStepSeen bounds
  · have counted : (stepCounted run.sampler bounds).hostClockSteps =
        run.sampler.counters.hostClockSteps + 1 :=
      if_pos ⟨forward, seen⟩
    omega
  · rw [if_neg seen] at uncompared
    have unpaid := paid uncompared
    have counted := hostClockSteps_le_stepCounted run.sampler bounds
    omega

private theorem accounted_poll {run : StatisticsRun} (accounted : Accounted run)
    (paid : BaselinePaid run)
    (bounds : HostClockBounds) (observed : MacStateObservation) :
    Accounted (run.perform (.poll bounds observed)) := by
  have counted := poll_counters run.sampler bounds observed
  have steps := hostClockSteps_le_stepCounted run.sampler bounds
  set exit := pollExit run.sampler bounds observed with chosen
  have seeded : OnlyStores run.sampler bounds observed ↔ exit = .seeded := onlyStores_iff
  constructor
  · have balance := exits_count (stepCounted run.sampler bounds) exit
    have before := accounted.observations
    simp only [StatisticsRun.perform, counted, observations_count]
    unfold ClockSamplerCounters.exits at balance
    have first : (stepCounted run.sampler bounds).observations =
        run.sampler.counters.observations + 1 := rfl
    have unchanged : (stepCounted run.sampler bounds).acceptedTransitions +
        (stepCounted run.sampler bounds).duplicateStates +
        (stepCounted run.sampler bounds).invalidObservations +
        (stepCounted run.sampler bounds).rejectedTransitions + run.seeds =
          run.sampler.counters.observations := before.symm
    by_cases fresh : exit = .seeded
    · rw [if_pos (seeded.mpr fresh)]
      rw [if_pos fresh] at balance
      omega
    · rw [if_neg (fun only => fresh (seeded.mp only))]
      rw [if_neg fresh] at balance
      omega
  · have before := accounted.seeds
    simp only [StatisticsRun.perform, counted, hostClockSteps_count]
    by_cases fresh : exit = .seeded
    · obtain ⟨usable, uncompared⟩ := pollExit_seeded_iff.mp (chosen.symm.trans fresh)
      have covered := seeds_of_uncompared accounted paid (fun back => usable (Or.inl back))
        uncompared
      rw [if_pos (seeded.mpr fresh)]
      omega
    · rw [if_neg (fun only => fresh (seeded.mp only))]
      omega
  · simp only [StatisticsRun.perform, counted]
    exact @deviceResets_count (stepCounted run.sampler bounds) accounted.deviceResets exit
  · have sample := poll_isSome_iff run.sampler bounds observed
    simp only [StatisticsRun.perform, counted, acceptedTransitions_count, List.length_append]
    have before : (stepCounted run.sampler bounds).acceptedTransitions = run.returned.length :=
      accounted.returned
    rw [before]
    congr 1
    cases returned : (run.sampler.poll bounds observed).1 with
    | none =>
        rw [returned] at sample
        rw [if_neg (fun accepted => absurd (sample.mpr accepted) Bool.false_ne_true)]
        rfl
    | some value =>
        rw [returned] at sample
        rw [if_pos (sample.mp rfl)]
        rfl

private theorem baselinePaid_poll {run : StatisticsRun} (accounted : Accounted run)
    (paid : BaselinePaid run) (bounds : HostClockBounds) (observed : MacStateObservation) :
    BaselinePaid (run.perform (.poll bounds observed)) := by
  intro cleared
  have counted := poll_counters run.sampler bounds observed
  have steps := hostClockSteps_le_stepCounted run.sampler bounds
  have stored : (run.sampler.poll bounds observed).2.lastObservation = none := cleared
  have counts : ¬ OnlyStores run.sampler bounds observed := by
    rintro ⟨kept, _⟩
    rw [stored] at kept
    cases kept
  simp only [StatisticsRun.perform, counted, hostClockSteps_count]
  rw [if_neg counts]
  rw [poll_lastObservation] at stored
  by_cases back : bounds.rollsBack
  · rw [if_pos back] at stored
    have before := paid stored
    omega
  · rw [if_neg back] at stored
    split at stored
    · exact seeds_of_uncompared accounted paid back stored
    · cases stored

theorem accounted_of_reachable {maximumUncertaintyNs : Int} {run : StatisticsRun}
    (reachable : (statisticsSystem maximumUncertaintyNs).Reachable run) :
    Accounted run ∧ BaselinePaid run := by
  refine reachable.invariant (fun state => Accounted state ∧ BaselinePaid state) ?_ ?_
  · intro state initial
    rw [initial]
    exact ⟨⟨rfl, Nat.zero_le _, le_refl 0, rfl⟩, fun _ => le_refl 0⟩
  · rintro before call after step ⟨accounted, paid⟩
    rw [step]
    cases call with
    | poll bounds observed =>
        exact ⟨accounted_poll accounted paid bounds observed,
          baselinePaid_poll accounted paid bounds observed⟩
    | reset =>
        have seeds := accounted.seeds
        refine ⟨⟨accounted.observations, ?_, accounted.deviceResets, accounted.returned⟩, ?_⟩
        · exact seeds.trans (Nat.le_succ _)
        · intro _
          simp only [StatisticsRun.perform, ClockSampler.reset]
          omega

private theorem calls_counted {maximumUncertaintyNs : Int} {first last : StatisticsRun}
    {calls : List SamplerCall}
    (run : (statisticsSystem maximumUncertaintyNs).Run first calls last) :
    last.sampler.counters.observations =
        first.sampler.counters.observations + calls.countP SamplerCall.isPoll ∧
      last.resets = first.resets + calls.countP SamplerCall.isReset := by
  constructor
  · refine run.count_eq (fun state => state.sampler.counters.observations) _ ?_
    intro before call after step
    rw [step]
    cases call with
    | poll bounds observed =>
        simp only [StatisticsRun.perform, poll_counters, observations_count]
        rfl
    | reset => rfl
  · refine run.count_eq StatisticsRun.resets _ ?_
    intro before call after step
    rw [step]
    cases call <;> rfl

/-! ### Runs of the reader -/

instance : Fintype RejectReason where
  elems :=
    {.areaAllocFailed, .areaAcquireFailed, .shortRead, .invalidNanoseconds, .invalidRshift,
      .invalidConvMult, .allZeroState, .macTimeRollback, .hostClockRollback}
  complete reason := by cases reason <;> decide

def readerSystem : TransitionSystem MacClockReader RawRead where
  initial reader := reader = {}
  step before raw after := after = (before.readState raw).2

structure ReadsAccounted (reader : MacClockReader) : Prop where
  attempts : reader.status.readAttempts =
    reader.status.validReads + ∑ reason, reader.status.rejectReasons reason
  failures : reader.status.readFailures ≤ ∑ reason, reader.status.rejectReasons reason

private theorem sum_reject (reader : MacClockReader) (reason : RejectReason) :
    ∑ other, (reader.reject reason).status.rejectReasons other =
      ∑ other, reader.status.rejectReasons other + 1 := by
  have split : ∀ other, (reader.reject reason).status.rejectReasons other =
      reader.status.rejectReasons other + if other = reason then 1 else 0 := by
    intro other
    unfold MacClockReader.reject
    dsimp only
    split
    · rfl
    · rfl
  simp only [split, Finset.sum_add_distrib, Finset.sum_ite_eq', Finset.mem_univ, if_true]

private theorem readsAccounted_readState {reader : MacClockReader}
    (accounted : ReadsAccounted reader)
    (raw : RawRead) : ReadsAccounted (reader.readState raw).2 := by
  have attempts := accounted.attempts
  have failures := accounted.failures
  have refused : ∀ (reason : RejectReason) (tried : MacClockReader),
      tried.status.rejectReasons = reader.status.rejectReasons →
      tried.status.readAttempts = reader.status.readAttempts + 1 →
      tried.status.validReads = reader.status.validReads →
      tried.status.readFailures ≤ reader.status.readFailures + 1 →
      ReadsAccounted (tried.reject reason) := by
    intro reason tried reasons attempted valid failed
    have sum := sum_reject tried reason
    rw [reasons] at sum
    constructor
    · rw [sum]
      change tried.status.readAttempts = tried.status.validReads + _
      omega
    · rw [sum]
      change tried.status.readFailures ≤ _
      omega
  unfold MacClockReader.readState
  cases raw with
  | error reason => exact refused reason _ rfl rfl rfl (le_refl _)
  | ok state =>
      dsimp only
      cases reader.validateState state with
      | some reason => exact refused reason _ rfl rfl rfl (Nat.le_succ _)
      | none =>
          constructor
          · change reader.status.readAttempts + 1 =
              reader.status.validReads + 1 + ∑ reason, reader.status.rejectReasons reason
            omega
          · exact failures

/-- The entry of `reject_reasons`, which the source keys by the text of the reason. -/
def MacClockReaderStatus.rejectedUnder (status : MacClockReaderStatus) (text : String) : Nat :=
  ∑ reason, if reason.text = text then status.rejectReasons reason else 0

private theorem rejectedUnder_text (status : MacClockReaderStatus) (reason : RejectReason) :
    status.rejectedUnder reason.text = status.rejectReasons reason := by
  unfold MacClockReaderStatus.rejectedUnder
  simp only [RejectReason.text_injective.eq_iff, Finset.sum_ite_eq', Finset.mem_univ, if_true]

private theorem sum_rejectedUnder (status : MacClockReaderStatus) :
    ∑ text ∈ Finset.univ.image RejectReason.text, status.rejectedUnder text =
      ∑ reason, status.rejectReasons reason := by
  rw [Finset.sum_image RejectReason.text_injective.injOn]
  exact Finset.sum_congr rfl fun reason _ => rejectedUnder_text status reason

private theorem readAttempts_readState (reader : MacClockReader) (raw : RawRead) :
    (reader.readState raw).2.status.readAttempts = reader.status.readAttempts + 1 := by
  unfold MacClockReader.readState
  cases raw with
  | error reason => rfl
  | ok state =>
      dsimp only
      cases reader.validateState state <;> rfl

private theorem readsAccounted_of_run {reader : MacClockReader} {reads : List RawRead}
    (run : readerSystem.Run {} reads reader) : ReadsAccounted reader := by
  refine run.invariant ReadsAccounted ?_ ⟨by simp, Nat.zero_le _⟩
  intro before raw after step accounted
  rw [step]
  exact readsAccounted_readState accounted raw

/-- Every poll and every read is in exactly one count, but for the polls that only stored a
first observation, and of those there are few; and the polls and reads themselves are counted. -/
theorem every_observation_accounted (maximumUncertaintyNs : Int) :
    (∀ calls run, (statisticsSystem maximumUncertaintyNs).Run
        { sampler := { maximumUncertaintyNs := maximumUncertaintyNs } } calls run →
        Accounted run ∧
          run.sampler.counters.observations = calls.countP SamplerCall.isPoll ∧
          run.resets = calls.countP SamplerCall.isReset) ∧
      ∀ reads reader, readerSystem.Run {} reads reader →
        ReadsAccounted reader ∧ reader.status.readAttempts = reads.length ∧
          reader.status.readAttempts = reader.status.validReads +
            ∑ text ∈ Finset.univ.image RejectReason.text, reader.status.rejectedUnder text := by
  constructor
  · intro calls run performed
    obtain ⟨polls, resets⟩ := calls_counted performed
    exact ⟨(accounted_of_reachable (performed.reachable (.start rfl))).1,
      polls.trans (Nat.zero_add _), resets.trans (Nat.zero_add _)⟩
  · intro reads reader performed
    have attempts := performed.count_eq (fun reader => reader.status.readAttempts)
      (fun _ => true) (fun before raw after step => by
        rw [step]
        exact readAttempts_readState before raw)
    have accounted := readsAccounted_of_run performed
    refine ⟨accounted, attempts.trans ?_, ?_⟩
    · rw [List.countP_true]
      exact Nat.zero_add _
    · rw [sum_rejectedUnder]
      exact accounted.attempts

def pollAt (monotonicNs ahead : Int) (seconds : UInt32) : SamplerCall :=
  .poll ⟨monotonicNs + ahead, monotonicNs + ahead + 100, monotonicNs, monotonicNs + 100⟩
    { state := ⟨seconds, 0, 0, 16, 0⟩, valid := true }

def mixedCalls : List SamplerCall :=
  [pollAt 1000 0 1, pollAt 2000 0 1, pollAt 3000 0 2, pollAt 4000 0 1,
    .poll ⟨5000, 5100, 5000, 5100⟩ {}, .reset, pollAt 6000 0 5, pollAt 7000 9000000 6]

def mixedReads : List RawRead :=
  [.ok ⟨2, 0, 0, 16, 0⟩, .error .shortRead, .ok ⟨1, 0, 0, 16, 0⟩, .ok ⟨3, 0, 0, 16, 0⟩]

theorem every_observation_accounted_mixed :
    (∃ run : StatisticsRun, Accounted run ∧ run.sampler.counters.observations = 7 ∧
      run.seeds = 3 ∧ run.resets = 1 ∧ run.returned.length = 1) ∧
      ∃ reader : MacClockReader, ReadsAccounted reader ∧ reader.status.readAttempts = 4 ∧
        reader.status.validReads = 2 := by
  obtain ⟨calls, reads⟩ := every_observation_accounted 800000
  constructor
  · obtain ⟨accounted, polls, resets⟩ := calls mixedCalls _ (.foldl (fun _ _ => rfl) _ _)
    exact ⟨_, accounted, polls, by decide +kernel, resets, by decide +kernel⟩
  · obtain ⟨accounted, attempts, _⟩ := reads mixedReads _ (.foldl (fun _ _ => rfl) _ _)
    exact ⟨_, accounted, attempts, by decide +kernel⟩

end SflowMiddle.Clock

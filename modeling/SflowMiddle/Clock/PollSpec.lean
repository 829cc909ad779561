/-
What one poll can do, said once. Every exit of `poll` is described by the sample
it returns, the observation it stores and the midpoints it leaves behind; the
counters are described where they are counted.
-/

import SflowMiddle.Clock.MacClockReader

namespace SflowMiddle.Clock

open SflowMiddle.Foundation

private theorem stateTimeNs_eq_some_iff {state : MacTimeStateHost} {timeNs : Int} :
    stateTimeNs state = some timeNs ↔
      (state.macTimeNs.toNat : Int) < kNanosecondsPerSecond ∧ state.timeNs = timeNs := by
  unfold stateTimeNs
  split
  · rename_i large
    simp only [reduceCtorEq, false_iff, not_and]
    intro small
    omega
  · rename_i small
    simp only [Option.some.injEq]
    exact ⟨fun same => ⟨not_le.mp small, same⟩, fun parts => parts.2⟩

namespace ClockSampler

/-- A transition is plausible between two well-formed states with the same
conversion and strictly advancing MAC time. -/
theorem isPlausibleTransition_iff {previous current : MacTimeStateHost} :
    isPlausibleTransition previous current = true ↔
      (current.convMult = previous.convMult ∧ current.convRshift = previous.convRshift) ∧
        (previous.macTimeNs.toNat : Int) < kNanosecondsPerSecond ∧
        (current.macTimeNs.toNat : Int) < kNanosecondsPerSecond ∧
        previous.timeNs < current.timeNs := by
  unfold isPlausibleTransition
  split
  · rename_i changed
    simp only [Bool.false_eq_true, false_iff]
    rintro ⟨⟨sameMult, sameRshift⟩, _⟩
    exact changed.elim (fun different => different sameMult)
      (fun different => different sameRshift)
  · rename_i unchanged
    have same : current.convMult = previous.convMult ∧
        current.convRshift = previous.convRshift := by
      simpa only [ne_eq, not_or, not_not] using unchanged
    split
    · rename_i previousNs currentNs previousTime currentTime
      have previousParts := stateTimeNs_eq_some_iff.mp previousTime
      have currentParts := stateTimeNs_eq_some_iff.mp currentTime
      rw [decide_eq_true_iff, ← previousParts.2, ← currentParts.2]
      exact ⟨fun advanced => ⟨same, previousParts.1, currentParts.1, advanced⟩,
        fun parts => parts.2.2.2⟩
    · rename_i missing
      simp only [Bool.false_eq_true, false_iff]
      rintro ⟨_, previousSmall, currentSmall, _⟩
      exact missing _ _ (stateTimeNs_eq_some_iff.mpr ⟨previousSmall, rfl⟩)
        (stateTimeNs_eq_some_iff.mpr ⟨currentSmall, rfl⟩)

theorem state_ne_of_transition {previous current : MacTimeStateHost}
    (likely : isPlausibleTransition previous current = true) : current ≠ previous := by
  intro same
  have advanced := (isPlausibleTransition_iff.mp likely).2.2.2
  rw [same] at advanced
  exact lt_irrefl _ advanced

/-- The conditions under which a transition between two stored observations is emitted. -/
def Emits (sampler : ClockSampler) (last observation : MacStateObservation) : Prop :=
  isPlausibleTransition last.state observation.state = true ∧
    last.bounds.monotonicAfterNs ≤ observation.bounds.monotonicAfterNs ∧
    observation.bounds.monotonicAfterNs - last.bounds.monotonicAfterNs +
        observation.readLatencyNs ≤ sampler.maximumUncertaintyNs

instance (sampler : ClockSampler) (last observation : MacStateObservation) :
    Decidable (sampler.Emits last observation) :=
  inferInstanceAs (Decidable (_ ∧ _ ∧ _))

theorem transition_sample (sampler : ClockSampler) (last observation : MacStateObservation) :
    (sampler.transition last observation).1 =
      if sampler.Emits last observation then
        some (transitionSample last observation observation.state.timeNs)
      else none := by
  unfold transition
  by_cases likely : isPlausibleTransition last.state observation.state = true
  · have parts := isPlausibleTransition_iff.mp likely
    have timed := stateTimeNs_eq_some_iff.mpr ⟨parts.2.2.1, rfl⟩
    rw [if_neg (state_ne_of_transition likely), if_neg (by simp [likely]), timed]
    by_cases emits : sampler.Emits last observation
    · have fits : ¬ (observation.bounds.monotonicAfterNs - last.bounds.monotonicAfterNs < 0 ∨
          observation.bounds.monotonicAfterNs - last.bounds.monotonicAfterNs +
            observation.readLatencyNs > sampler.maximumUncertaintyNs) := by
        have ordered := emits.2.1
        have bounded := emits.2.2
        omega
      rw [if_pos emits]
      dsimp only [transitionSample]
      rw [if_neg fits]
    · have refused : observation.bounds.monotonicAfterNs - last.bounds.monotonicAfterNs < 0 ∨
          observation.bounds.monotonicAfterNs - last.bounds.monotonicAfterNs +
            observation.readLatencyNs > sampler.maximumUncertaintyNs := by
        by_contra fits
        rw [not_or] at fits
        exact emits ⟨likely, by omega, by omega⟩
      rw [if_neg emits]
      dsimp only [transitionSample]
      rw [if_pos refused]
  · rw [if_neg (fun emits : sampler.Emits last observation => likely emits.1)]
    split
    · rfl
    · rw [if_pos (Bool.of_not_eq_true likely)]

private theorem transition_stores (sampler : ClockSampler)
    (last observation : MacStateObservation) :
    (sampler.transition last observation).2.lastObservation = some observation ∧
      (sampler.transition last observation).2.maximumUncertaintyNs =
        sampler.maximumUncertaintyNs ∧
      (sampler.transition last observation).2.previousRealtimeMidpointNs =
        sampler.previousRealtimeMidpointNs ∧
      (sampler.transition last observation).2.previousMonotonicMidpointNs =
        sampler.previousMonotonicMidpointNs := by
  unfold transition
  split
  · exact ⟨rfl, rfl, rfl, rfl⟩
  · split
    · exact ⟨rfl, rfl, rfl, rfl⟩
    · split
      · exact ⟨rfl, rfl, rfl, rfl⟩
      · dsimp only
        split
        · exact ⟨rfl, rfl, rfl, rfl⟩
        · exact ⟨rfl, rfl, rfl, rfl⟩

/-- The stored observation a poll compares with, after the host step check. -/
def comparedWith (sampler : ClockSampler) (bounds : HostClockBounds) :
    Option MacStateObservation :=
  if sampler.HostStepSeen bounds then none else sampler.lastObservation

@[simp]
theorem trackMidpoints_lastObservation (sampler : ClockSampler) (bounds : HostClockBounds) :
    (sampler.trackMidpoints bounds).lastObservation = sampler.comparedWith bounds := by
  unfold trackMidpoints comparedWith
  split <;> rfl

@[simp]
theorem trackMidpoints_maximum (sampler : ClockSampler) (bounds : HostClockBounds) :
    (sampler.trackMidpoints bounds).maximumUncertaintyNs = sampler.maximumUncertaintyNs := by
  unfold trackMidpoints
  split <;> rfl

private theorem comparedWith_counted (sampler : ClockSampler) (counters : ClockSamplerCounters)
    (bounds : HostClockBounds) :
    ({ sampler with counters := counters }).comparedWith bounds =
      sampler.comparedWith bounds := rfl

theorem comparedWith_eq_some {sampler : ClockSampler} {bounds : HostClockBounds}
    {last : MacStateObservation} (compared : sampler.comparedWith bounds = some last) :
    ¬ sampler.HostStepSeen bounds ∧ sampler.lastObservation = some last := by
  unfold comparedWith at compared
  split at compared
  · cases compared
  · rename_i quiet
    exact ⟨quiet, compared⟩

theorem poll_sample (sampler : ClockSampler) (bounds : HostClockBounds)
    (observed : MacStateObservation) :
    (sampler.poll bounds observed).1 =
      if bounds.rollsBack ∨ observed.valid = false then none
      else
        (sampler.comparedWith bounds).bind fun last =>
          if sampler.Emits last (stamped bounds observed) then
            some (transitionSample last (stamped bounds observed) observed.state.timeNs)
          else none := by
  unfold poll
  dsimp only
  by_cases back : bounds.rollsBack
  · rw [if_pos back, if_pos (Or.inl back)]
  · rw [if_neg back]
    by_cases invalid : observed.valid = false
    · rw [if_pos (by exact invalid), if_pos (Or.inr invalid)]
    · rw [if_neg (by exact invalid), if_neg (not_or.mpr ⟨back, invalid⟩),
        trackMidpoints_lastObservation, comparedWith_counted]
      cases sampler.comparedWith bounds with
      | none => rfl
      | some last =>
          dsimp only
          rw [transition_sample]
          have same : (({ sampler with
              counters := { sampler.counters with
                observations := sampler.counters.observations + 1 } } :
              ClockSampler).trackMidpoints bounds).Emits last (stamped bounds observed) ↔
              sampler.Emits last (stamped bounds observed) := by
            unfold Emits
            rw [trackMidpoints_maximum]
          rw [Option.bind_some]
          exact if_congr same rfl rfl

theorem poll_eq_some {sampler : ClockSampler} {bounds : HostClockBounds}
    {observed : MacStateObservation} {sample : PublicationSample}
    (emitted : (sampler.poll bounds observed).1 = some sample) :
    ¬ bounds.rollsBack ∧ observed.valid = true ∧
      ∃ last, sampler.comparedWith bounds = some last ∧
        sampler.Emits last (stamped bounds observed) ∧
        sample = transitionSample last (stamped bounds observed) observed.state.timeNs := by
  rw [poll_sample] at emitted
  split at emitted
  · cases emitted
  · rename_i usable
    obtain ⟨last, compared, chosen⟩ := Option.bind_eq_some_iff.mp emitted
    split at chosen
    · rename_i emits
      cases chosen
      exact ⟨fun back => usable (Or.inl back),
        Bool.of_not_eq_false (fun invalid => usable (Or.inr invalid)),
        last, compared, emits, rfl⟩
    · cases chosen

theorem poll_lastObservation (sampler : ClockSampler) (bounds : HostClockBounds)
    (observed : MacStateObservation) :
    (sampler.poll bounds observed).2.lastObservation =
      if bounds.rollsBack then sampler.lastObservation
      else if observed.valid = false then sampler.comparedWith bounds
      else some (stamped bounds observed) := by
  unfold poll
  dsimp only
  split
  · rfl
  · by_cases invalid : observed.valid = false
    · rw [if_pos (by exact invalid), if_pos invalid]
      exact trackMidpoints_lastObservation _ bounds
    · rw [if_neg (by exact invalid), if_neg invalid]
      split
      · rfl
      · exact (transition_stores _ _ _).1

@[simp]
theorem poll_maximum (sampler : ClockSampler) (bounds : HostClockBounds)
    (observed : MacStateObservation) :
    (sampler.poll bounds observed).2.maximumUncertaintyNs = sampler.maximumUncertaintyNs := by
  unfold poll
  dsimp only
  split
  · rfl
  · split
    · exact trackMidpoints_maximum _ bounds
    · split
      · exact trackMidpoints_maximum _ bounds
      · exact (transition_stores _ _ _).2.1.trans (trackMidpoints_maximum _ bounds)

theorem poll_midpoints (sampler : ClockSampler) {bounds : HostClockBounds}
    (forward : ¬ bounds.rollsBack) (observed : MacStateObservation) :
    (sampler.poll bounds observed).2.previousRealtimeMidpointNs = realtimeMidpoint bounds ∧
      (sampler.poll bounds observed).2.previousMonotonicMidpointNs =
        monotonicMidpoint bounds := by
  unfold poll
  dsimp only
  rw [if_neg forward]
  split
  · exact ⟨rfl, rfl⟩
  · split
    · exact ⟨rfl, rfl⟩
    · exact (transition_stores _ _ _).2.2

end ClockSampler

/-! ### The reader -/

structure MacTimeStateHost.WellFormed (state : MacTimeStateHost) : Prop where
  nanoseconds : (state.macTimeNs.toNat : Int) < kNanosecondsPerSecond
  rshift : state.convRshift.toNat < 32
  mult : state.convMult ≠ 0

namespace MacClockReader

private theorem validateState_wellFormed (reader : MacClockReader) {state : MacTimeStateHost}
    (wellFormed : state.WellFormed) :
    reader.validateState state =
      match reader.lastState with
      | none => none
      | some last => if state.timeNs < last.timeNs then some .macTimeRollback else none := by
  exact (if_neg (not_le.mpr wellFormed.nanoseconds)).trans
    ((if_neg (not_le.mpr wellFormed.rshift)).trans
      ((if_neg wellFormed.mult).trans (if_neg fun zero => wellFormed.mult zero.2.2.2.1)))

/-- A read is refused and changes no memory, or its state is remembered: then its
nanoseconds are in range and it is not below the state remembered before. -/
theorem readState_cases (reader : MacClockReader) (raw : RawRead) :
    ((reader.readState raw).1.valid = false ∧
        (reader.readState raw).2.lastState = reader.lastState) ∨
      ∃ state, raw = .ok state ∧ (reader.readState raw).1 = { state := state, valid := true } ∧
        (reader.readState raw).2.lastState = some state ∧
        (state.macTimeNs.toNat : Int) < kNanosecondsPerSecond ∧
        ∀ last, reader.lastState = some last → last.timeNs ≤ state.timeNs := by
  cases raw with
  | error reason => exact Or.inl ⟨rfl, rfl⟩
  | ok state =>
      cases verdict : reader.validateState state with
      | some reason =>
          left
          unfold readState
          dsimp only
          rw [show MacClockReader.validateState _ state = some reason from verdict]
          exact ⟨rfl, rfl⟩
      | none =>
          right
          refine ⟨state, rfl, ?_, ?_, ?_, ?_⟩
          · unfold readState
            dsimp only
            rw [show MacClockReader.validateState _ state = none from verdict]
          · unfold readState
            dsimp only
            rw [show MacClockReader.validateState _ state = none from verdict]
          · by_contra large
            unfold validateState at verdict
            rw [if_pos (not_lt.mp large)] at verdict
            cases verdict
          · intro last remembered
            by_contra below
            unfold validateState at verdict
            rw [remembered] at verdict
            dsimp only at verdict
            rw [if_pos (not_le.mp below)] at verdict
            split_ifs at verdict

theorem readState_accepted {reader : MacClockReader} {state : MacTimeStateHost}
    (wellFormed : state.WellFormed)
    (notBelow : ∀ last, reader.lastState = some last → last.timeNs ≤ state.timeNs) :
    (reader.readState (.ok state)).1 = { state := state, valid := true } ∧
      (reader.readState (.ok state)).2.lastState = some state := by
  have accepted : reader.validateState state = none := by
    rw [validateState_wellFormed reader wellFormed]
    cases remembered : reader.lastState with
    | none => rfl
    | some last => exact if_neg (not_lt.mpr (notBelow last remembered))
  unfold readState
  dsimp only
  rw [accepted]
  exact ⟨rfl, rfl⟩

theorem readState_rolledBack {reader : MacClockReader} {state last : MacTimeStateHost}
    (wellFormed : state.WellFormed) (remembered : reader.lastState = some last)
    (below : state.timeNs < last.timeNs) :
    (reader.readState (.ok state)).1.valid = false ∧
      (reader.readState (.ok state)).2.lastState = some last := by
  have refused : reader.validateState state = some .macTimeRollback := by
    rw [validateState_wellFormed _ wellFormed, remembered]
    exact if_pos below
  unfold readState
  dsimp only
  rw [refused]
  exact ⟨rfl, remembered⟩

end MacClockReader

end SflowMiddle.Clock

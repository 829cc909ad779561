/-
The two sample counters of the status over a run without re-anchoring. Refusals are
counted one by one. Acceptances are not: after startup the counter only follows the
size of the window, so it is the number of accepted samples exactly as long as the
window has dropped none of them.
-/

import SflowMiddle.Calibration.DriftRecovery

namespace SflowMiddle.Calibration

open SflowMiddle.Foundation
open ClockCalibration

def addResults (calibration : ClockCalibration) : List TimeSample → List Bool
  | [] => []
  | sample :: rest =>
      (calibration.addSample sample).1 :: addResults (calibration.addSample sample).2 rest

private theorem addResults_concat (calibration : ClockCalibration) (samples : List TimeSample)
    (sample : TimeSample) :
    addResults calibration (samples ++ [sample]) =
      addResults calibration samples ++
        [((addSamples calibration samples).addSample sample).1] := by
  induction samples generalizing calibration with
  | nil => rfl
  | cons first rest ih =>
      change _ :: addResults (calibration.addSample first).2 (rest ++ [sample]) = _
      rw [ih]
      rfl

/-- No sample of the run takes the branch that starts a new model. -/
def NoneReanchors (calibration : ClockCalibration) (added : List TimeSample) : Prop :=
  ∀ before sample after, added = before ++ sample :: after →
    calibration.config.Admits sample → ¬ (addSamples calibration before).ReanchorsOn sample

/-- No accepted sample is further than the window from the first one. -/
def InsideWindowOf (config : Config) (first : TimeSample) (added : List TimeSample) : Prop :=
  ∀ sample ∈ added, config.Admits sample →
    sample.monotonicNs - first.monotonicNs ≤ config.regressionWindowNs

instance (config : Config) (first : TimeSample) (added : List TimeSample) :
    Decidable (InsideWindowOf config first added) :=
  inferInstanceAs (Decidable (∀ sample ∈ added, _ → _))

/-! ### One sample -/

private theorem fitIfDue_counts (calibration : ClockCalibration) :
    calibration.fitIfDue.status.acceptedSamples = calibration.status.acceptedSamples ∧
      calibration.fitIfDue.status.rejectedSamples = calibration.status.rejectedSamples := by
  rcases fitIfDue_cases calibration with same | ⟨after, _, fitted, installed⟩
  · rw [same]
    exact ⟨rfl, rfl⟩
  · rw [installed]
    obtain ⟨_, _, _, _, _, _, _, _, _, rfl⟩ := fit_eq_some fitted
    exact ⟨rfl, rfl⟩

private theorem addSample_keeps {calibration : ClockCalibration} {sample : TimeSample}
    (valid : calibration.status.valid = true) (admitted : calibration.config.Admits sample)
    (keeps : ¬ calibration.ReanchorsOn sample) :
    (calibration.addSample sample).1 = true ∧
      (calibration.addSample sample).2.samples =
        (calibration.samples ++ [sample]).dropWhile (outsideWindow calibration.config sample) ∧
      (calibration.addSample sample).2.status.acceptedSamples =
        max calibration.status.acceptedSamples
          ((calibration.samples ++ [sample]).dropWhile
            (outsideWindow calibration.config sample)).length ∧
      (calibration.addSample sample).2.status.rejectedSamples =
        calibration.status.rejectedSamples := by
  have absorbed := absorb_kept (mt (anchors_iff_of_valid valid).mp keeps)
  obtain ⟨accepted, rejected⟩ := fitIfDue_counts (calibration.absorb sample)
  have window := (fitIfDue_frame (calibration.absorb sample)).2.1
  rw [addSample_of_admits admitted]
  refine ⟨rfl, window.trans ?_, accepted.trans ?_, rejected.trans ?_⟩ <;> rw [absorbed] <;> rfl

/-! ### The counters along a run -/

/-- The counters after the samples of `added`, against the number of samples accepted. -/
structure Tallied (config : Config) (first : TimeSample) (selected refused : Nat)
    (added : List TimeSample) (results : List Bool) (calibration : ClockCalibration) : Prop where
  valid : calibration.status.valid = true
  same : calibration.config = config
  rejected : calibration.status.rejectedSamples = refused + results.count false
  whole : InsideWindowOf config first added →
    calibration.samples.head? = some first ∧
      calibration.samples.length = selected + results.count true ∧
      calibration.status.acceptedSamples = selected + results.count true
  trimmed : ¬ InsideWindowOf config first added →
    calibration.samples.length < selected + results.count true ∧
      calibration.status.acceptedSamples < selected + results.count true

section Step

variable {config : Config} {first sample : TimeSample} {selected refused : Nat}
  {added : List TimeSample} {results : List Bool} {calibration : ClockCalibration}

private theorem insideWindowOf_concat :
    InsideWindowOf config first (added ++ [sample]) ↔
      InsideWindowOf config first added ∧
        (config.Admits sample →
          sample.monotonicNs - first.monotonicNs ≤ config.regressionWindowNs) := by
  unfold InsideWindowOf
  simp only [List.mem_append, List.mem_singleton, or_imp, forall_and, forall_eq]

private theorem Tallied.refuse
    (tallied : Tallied config first selected refused added results calibration)
    (rejected : ¬ config.Admits sample) :
    Tallied config first selected refused (added ++ [sample])
      (results ++ [(calibration.addSample sample).1]) (calibration.addSample sample).2 := by
  have refusal := addSample_of_not_admits (by rw [tallied.same]; exact rejected :
    ¬ calibration.config.Admits sample)
  have inside : InsideWindowOf config first (added ++ [sample]) ↔
      InsideWindowOf config first added := by
    rw [insideWindowOf_concat]
    exact and_iff_left (fun admitted => absurd admitted rejected)
  rw [refusal]
  constructor
  · exact tallied.valid
  · exact tallied.same
  · have before := tallied.rejected
    simp only [List.count_append, List.count_singleton_self]
    omega
  · rw [inside]
    simpa using tallied.whole
  · rw [inside]
    simpa using tallied.trimmed

private theorem Tallied.accept
    (tallied : Tallied config first selected refused added results calibration)
    (admitted : config.Admits sample) (keeps : ¬ calibration.ReanchorsOn sample) :
    Tallied config first selected refused (added ++ [sample])
      (results ++ [(calibration.addSample sample).1]) (calibration.addSample sample).2 := by
  obtain ⟨accepted, window, counted, rejected⟩ := addSample_keeps tallied.valid
    (by rw [tallied.same]; exact admitted) keeps
  rw [tallied.same] at window counted
  have shorter : ((calibration.samples ++ [sample]).dropWhile
      (outsideWindow config sample)).length ≤ calibration.samples.length + 1 := by
    have sublist := (List.dropWhile_sublist (l := calibration.samples ++ [sample])
      (outsideWindow config sample)).length_le
    rw [List.length_append, List.length_singleton] at sublist
    exact sublist
  have one : (results ++ [true]).count true = results.count true + 1 := by simp
  rw [accepted]
  constructor
  · exact addSample_valid sample tallied.valid
  · exact (addSample_config calibration sample).trans tallied.same
  · rw [rejected, tallied.rejected]
    simp
  · intro inside
    obtain ⟨before, newest⟩ := insideWindowOf_concat.mp inside
    obtain ⟨front, length, count⟩ := tallied.whole before
    obtain ⟨rest, shape⟩ : ∃ rest, calibration.samples = first :: rest :=
      List.head?_eq_some_iff.mp front
    have everything : (calibration.samples ++ [sample]).dropWhile (outsideWindow config sample) =
        calibration.samples ++ [sample] := by
      rw [shape, List.cons_append]
      exact List.dropWhile_cons_of_neg (by
        rw [outsideWindow_false_iff.mpr (newest admitted)]
        decide)
    rw [window, counted, one, everything, List.length_append, List.length_singleton]
    refine ⟨?_, by omega, by omega⟩
    rw [shape]
    rfl
  · intro outside
    rw [window, counted, one]
    by_cases before : InsideWindowOf config first added
    · obtain ⟨front, length, count⟩ := tallied.whole before
      obtain ⟨rest, shape⟩ : ∃ rest, calibration.samples = first :: rest :=
        List.head?_eq_some_iff.mp front
      have beyond : outsideWindow config sample first = true := by
        by_contra near
        exact outside (insideWindowOf_concat.mpr ⟨before, fun _ =>
          outsideWindow_false_iff.mp (Bool.of_not_eq_true near)⟩)
      have dropped : ((calibration.samples ++ [sample]).dropWhile
          (outsideWindow config sample)).length ≤ calibration.samples.length := by
        rw [shape, List.cons_append, List.dropWhile_cons_of_pos beyond]
        have sublist := (List.dropWhile_sublist (l := rest ++ [sample])
          (outsideWindow config sample)).length_le
        rw [List.length_append, List.length_singleton] at sublist
        exact sublist
      omega
    · obtain ⟨length, count⟩ := tallied.trimmed before
      omega

end Step

private theorem tallied_addSamples {config : Config} {first : TimeSample} {selected refused : Nat}
    {calibration : ClockCalibration}
    (started : Tallied config first selected refused [] [] calibration)
    {added : List TimeSample} (noStep : NoneReanchors calibration added) :
    Tallied config first selected refused added (addResults calibration added)
      (addSamples calibration added) := by
  induction added using List.reverseRecOn with
  | nil => exact started
  | append_singleton added sample ih =>
      have earlier := ih (by
        intro before other after split
        exact noStep before other (after ++ [sample]) (by rw [split]; simp))
      rw [addSamples_concat, addResults_concat]
      by_cases admitted : config.Admits sample
      · exact earlier.accept admitted
          (noStep added sample [] rfl (by rw [started.same]; exact admitted))
      · exact earlier.refuse admitted

/-! ### After one startup -/

/-- What the counters of the status should say after startup and the samples added. -/
structure CountsSamples (std : StdSort) (config : Config) (startup added : List TimeSample) :
    Prop where
  accepted : (calibrateThenAdd std { config := config } startup added).status.acceptedSamples =
    (startupSelection std config startup).length +
      (addResults (({ config := config } : ClockCalibration).initializeFrom std startup).2
        added).count true
  rejected : (calibrateThenAdd std { config := config } startup added).status.rejectedSamples =
    (startup.filter fun sample => ¬ config.Admits sample).length +
      (addResults (({ config := config } : ClockCalibration).initializeFrom std startup).2
        added).count false

private theorem tallied_initializeFrom {std : StdSort} {config : Config} {startup : List TimeSample}
    (started : (({ config := config } : ClockCalibration).initializeFrom std startup).1 = true)
    {first : TimeSample} (front : (startupSelection std config startup).head? = some first) :
    Tallied config first (startupSelection std config startup).length
      (startup.filter fun sample => ¬ config.Admits sample).length [] []
      (({ config := config } : ClockCalibration).initializeFrom std startup).2 := by
  have stored := initializeFrom_samples std { config := config } startup
  have enough := (initializeFrom_true_iff std { config := config } startup).mp started
  rw [started, if_pos rfl] at stored
  have written : (({ config := config } : ClockCalibration).initializeFrom std
        startup).2.status.rejectedSamples =
        (startup.filter fun sample => ¬ config.Admits sample).length ∧
      (({ config := config } : ClockCalibration).initializeFrom std
        startup).2.status.acceptedSamples = (startupSelection std config startup).length := by
    unfold startupSelection initializeFrom
    dsimp only
    rw [if_neg (not_lt.mpr enough), std.length_sort]
    exact ⟨Nat.zero_add _, Nat.zero_add _⟩
  constructor
  · exact (initializeFrom_valid std _ startup).trans started
  · exact initializeFrom_config std _ startup
  · exact written.1
  · intro _
    rw [stored]
    exact ⟨front, rfl, written.2⟩
  · intro outside
    exact absurd (fun sample member => by cases member) outside

private theorem insideWindowOf_selection {std : StdSort} {config : Config}
    {startup added : List TimeSample} {first : TimeSample}
    (front : (startupSelection std config startup).head? = some first) :
    InsideWindowOf config first added ↔
      ∀ earlier ∈ startupSelection std config startup, InsideWindowOf config earlier added := by
  constructor
  · intro inside earlier selected sample member admitted
    obtain ⟨rest, shape⟩ := List.head?_eq_some_iff.mp front
    have ordered : (startupSelection std config startup).Pairwise
        (fun left right => left.monotonicNs ≤ right.monotonicNs) := std.ascending _ _
    have near := inside sample member admitted
    rw [shape] at ordered selected
    rcases List.mem_cons.mp selected with same | behind
    · rw [same]
      exact near
    · have later := (List.pairwise_cons.mp ordered).1 earlier behind
      omega
  · intro inside
    exact inside first (List.mem_of_head? front)

/-- After a successful startup and any samples that keep the model, both counters are right
if and only if no accepted sample is past the window of a startup sample that was kept. -/
theorem counts_samples_iff (std : StdSort) (config : Config) (startup added : List TimeSample)
    (started : (({ config := config } : ClockCalibration).initializeFrom std startup).1 = true)
    (noStep : NoneReanchors (({ config := config } : ClockCalibration).initializeFrom std
      startup).2 added) :
    CountsSamples std config startup added ↔
      ∀ earlier ∈ startupSelection std config startup, InsideWindowOf config earlier added := by
  have enough := (initializeFrom_true_iff std { config := config } startup).mp started
  obtain ⟨first, front⟩ : ∃ first, (startupSelection std config startup).head? = some first :=
    ⟨_, List.head?_eq_some_head
      (@startupSelection_ne_nil { config := config } startup std enough)⟩
  have tallied := tallied_addSamples (tallied_initializeFrom started front) noStep
  rw [← insideWindowOf_selection front]
  constructor
  · intro counts
    by_contra outside
    exact absurd counts.accepted (tallied.trimmed outside).2.ne
  · intro inside
    exact ⟨(tallied.whole inside).2.2, tallied.rejected⟩

def steadySample (milliseconds : Nat) : TimeSample :=
  { macNs := 1000000000 + 1000000 * milliseconds
    unixNs := 1780000000000000000 + 1000000 * milliseconds
    monotonicNs := 5000000000 + 1000000 * milliseconds
    latencyNs := 80000 }

def steadyStartup : List TimeSample := [0, 1, 2, 3].map steadySample

private theorem noneReanchors_singleton {calibration : ClockCalibration} {sample : TimeSample}
    (keeps : ¬ calibration.ReanchorsOn sample) : NoneReanchors calibration [sample] := by
  intro before other after split _
  obtain ⟨none, same⟩ := singleton_split split
  rw [none, same]
  exact keeps

/-- One second after startup the count is right. -/
theorem counts_samples_one_second :
    CountsSamples StdSort.insertion {} steadyStartup [steadySample 1000] :=
  (counts_samples_iff StdSort.insertion {} steadyStartup [steadySample 1000] (by decide +kernel)
    (noneReanchors_singleton (by decide +kernel))).mpr (by decide +kernel)

/-- A sample two minutes and one second later pushes the startup samples out of the window;
it is accepted and not counted. -/
theorem accepted_sample_uncounted :
    (({} : ClockCalibration).initializeFrom StdSort.insertion steadyStartup).1 = true ∧
      NoneReanchors (({} : ClockCalibration).initializeFrom StdSort.insertion steadyStartup).2
        [steadySample 121000] ∧
      ¬ CountsSamples StdSort.insertion {} steadyStartup [steadySample 121000] := by
  refine ⟨by decide +kernel, noneReanchors_singleton (by decide +kernel), ?_⟩
  intro counts
  exact absurd counts.accepted (by decide +kernel)

end SflowMiddle.Calibration

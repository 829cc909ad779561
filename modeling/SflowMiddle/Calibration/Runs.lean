/-
Runs of the calibration object: any sequence of `initialize`, `addSample` and
`reset` calls. The phase invariant needs no assumption on the samples; the window
invariant needs accepted samples in monotonic order and a non-negative window.
-/

import SflowMiddle.Calibration.Invariant

namespace SflowMiddle.Calibration

open SflowMiddle.Foundation
open ClockCalibration

inductive CalibrationCall where
  | initializeFrom (samples : List TimeSample)
  | addSample (sample : TimeSample)
  | reset

def CalibrationCall.samples : CalibrationCall → List TimeSample
  | .initializeFrom samples => samples
  | .addSample sample => [sample]
  | .reset => []

/-- The object and the samples accepted since its model was last anchored. -/
structure Tracked where
  calibration : ClockCalibration
  kept : List TimeSample

def Tracked.perform (std : StdSort) (tracked : Tracked) : CalibrationCall → Tracked
  | .initializeFrom samples =>
      let started := (tracked.calibration.initializeFrom std samples).2
      { calibration := started, kept := started.samples }
  | .addSample sample =>
      { calibration := (tracked.calibration.addSample sample).2
        kept :=
          if tracked.calibration.config.Admits sample then
            keptAfter tracked.calibration tracked.kept sample
          else tracked.kept }
  | .reset => { calibration := tracked.calibration.reset, kept := [] }

def calibrationSystem (std : StdSort) (config : Config) :
    TransitionSystem Tracked CalibrationCall where
  initial tracked := tracked = { calibration := { config := config }, kept := [] }
  step before call after := after = before.perform std call

/-- The monotonic time of an accepted sample is not below that of the one before. -/
def AcceptsInOrder (tracked : Tracked) : CalibrationCall → Prop
  | .addSample sample =>
      tracked.calibration.config.Admits sample → tracked.calibration.status.valid = true →
        tracked.calibration.lastMonotonicNs ≤ sample.monotonicNs
  | _ => True

instance (tracked : Tracked) : (call : CalibrationCall) → Decidable (AcceptsInOrder tracked call)
  | .addSample sample => inferInstanceAs (Decidable (_ → _ → _ ≤ sample.monotonicNs))
  | .initializeFrom _ => isTrue trivial
  | .reset => isTrue trivial

theorem addSample_of_admits {calibration : ClockCalibration} {sample : TimeSample}
    (admitted : calibration.config.Admits sample) :
    calibration.addSample sample = (true, (calibration.absorb sample).fitIfDue) := by
  unfold ClockCalibration.addSample
  rw [if_neg (not_not_intro admitted)]

theorem addSample_of_not_admits {calibration : ClockCalibration} {sample : TimeSample}
    (rejected : ¬ calibration.config.Admits sample) :
    calibration.addSample sample =
      (false,
        { calibration with
          status :=
            { calibration.status with
              rejectedSamples := calibration.status.rejectedSamples + 1 } }) := by
  unfold ClockCalibration.addSample
  rw [if_pos rejected]

theorem addSample_true_iff {calibration : ClockCalibration} {sample : TimeSample} :
    (calibration.addSample sample).1 = true ↔ calibration.config.Admits sample := by
  by_cases admitted : calibration.config.Admits sample
  · rw [addSample_of_admits admitted]
    exact ⟨fun _ => admitted, fun _ => rfl⟩
  · rw [addSample_of_not_admits admitted]
    exact ⟨fun impossible => absurd impossible Bool.false_ne_true,
      fun present => absurd present admitted⟩

@[simp]
theorem addSample_config (calibration : ClockCalibration) (sample : TimeSample) :
    (calibration.addSample sample).2.config = calibration.config := by
  by_cases admitted : calibration.config.Admits sample
  · rw [addSample_of_admits admitted]
    exact (fitIfDue_frame _).1.trans (absorb_config calibration sample)
  · rw [addSample_of_not_admits admitted]

theorem addSample_valid {calibration : ClockCalibration} (sample : TimeSample)
    (valid : calibration.status.valid = true) :
    (calibration.addSample sample).2.status.valid = true := by
  by_cases admitted : calibration.config.Admits sample
  · rw [addSample_of_admits admitted]
    exact (fitIfDue_frame _).2.2.2.2.2.1.trans (absorb_valid calibration sample)
  · rw [addSample_of_not_admits admitted]
    exact valid

private theorem phase_addSample {calibration : ClockCalibration}
    (phase : Phase calibration.config calibration.status) (sample : TimeSample) :
    Phase calibration.config (calibration.addSample sample).2.status := by
  by_cases admitted : calibration.config.Admits sample
  · rw [addSample_of_admits admitted]
    have absorbed : Phase (calibration.absorb sample).config
        (calibration.absorb sample).status := by
      rw [absorb_config]
      exact phase_absorb phase sample
    have fitted := phase_fitIfDue absorbed (absorb_valid calibration sample)
    rw [absorb_config] at fitted
    exact fitted
  · rw [addSample_of_not_admits admitted]
    exact phase.congr rfl rfl rfl rfl

theorem config_of_reachable {std : StdSort} {config : Config} {tracked : Tracked}
    (reachable : (calibrationSystem std config).Reachable tracked) :
    tracked.calibration.config = config := by
  refine reachable.invariant (fun state => state.calibration.config = config) ?_ ?_
  · intro state initial
    rw [initial]
  · intro before call after step same
    rw [step]
    cases call with
    | initializeFrom samples => exact (initializeFrom_config _ _ _).trans same
    | addSample sample => exact (addSample_config _ _).trans same
    | reset => exact same

/-- The phase invariant of every reachable state, whatever samples arrived. -/
theorem phase_of_reachable {std : StdSort} {config : Config} {tracked : Tracked}
    (reachable : (calibrationSystem std config).Reachable tracked) :
    Phase tracked.calibration.config tracked.calibration.status := by
  refine reachable.invariant
    (fun state => Phase state.calibration.config state.calibration.status) ?_ ?_
  · intro state initial
    rw [initial]
    exact .warmingUp rfl rfl rfl rfl
  · intro before call after step phase
    rw [step]
    cases call with
    | initializeFrom samples =>
        change Phase (before.calibration.initializeFrom std samples).2.config
          (before.calibration.initializeFrom std samples).2.status
        rw [initializeFrom_config]
        exact phase_initializeFrom std before.calibration samples
    | addSample sample =>
        change Phase (before.calibration.addSample sample).2.config
          (before.calibration.addSample sample).2.status
        rw [addSample_config]
        exact phase_addSample phase sample
    | reset => exact phase_reset before.calibration

/-! ### The window over a run -/

private theorem windowState_fitIfDue {calibration : ClockCalibration} {kept : List TimeSample}
    {newest : TimeSample}
    (valid : calibration.status.valid = true)
    (retained : Retained calibration.config newest kept calibration.samples)
    (last : calibration.lastMacNs = newest.macNs ∧ calibration.lastUnixNs = newest.unixNs ∧
      calibration.lastMonotonicNs = newest.monotonicNs)
    (latency : ∀ sample ∈ calibration.samples,
      calibration.status.minimumLatencyNs ≤ sample.latencyNs) :
    WindowState calibration.fitIfDue kept := by
  obtain ⟨config, samples, mac, unix, monotonic, stillValid, least⟩ :=
    fitIfDue_frame calibration
  refine .running newest (stillValid.trans valid) ?_ ?_ ?_ ?_ ?_
  · rw [config, samples]
    exact retained
  · rw [mac, last.1]
  · rw [unix, last.2.1]
  · rw [monotonic, last.2.2]
  · rw [samples, least]
    exact latency

private theorem windowState_addSample {calibration : ClockCalibration} {kept : List TimeSample}
    (window : 0 ≤ calibration.config.regressionWindowNs)
    (state : WindowState calibration kept) {sample : TimeSample}
    (admitted : calibration.config.Admits sample)
    (inOrder : calibration.status.valid = true →
      calibration.lastMonotonicNs ≤ sample.monotonicNs) :
    WindowState (calibration.addSample sample).2 (keptAfter calibration kept sample) := by
  obtain ⟨_, retained, latency⟩ := windowState_absorb window state admitted inOrder
  rw [addSample_of_admits admitted]
  refine windowState_fitIfDue (absorb_valid calibration sample) ?_
    (absorb_last calibration sample) latency
  rw [absorb_config]
  exact retained

theorem windowState_of_reachable {std : StdSort} {config : Config} {tracked : Tracked}
    (window : 0 ≤ config.regressionWindowNs)
    (reachable : ((calibrationSystem std config).restrict AcceptsInOrder).Reachable tracked) :
    WindowState tracked.calibration tracked.kept ∧ tracked.calibration.config = config := by
  refine reachable.invariant
    (fun state => WindowState state.calibration state.kept ∧
      state.calibration.config = config) ?_ ?_
  · intro state initial
    rw [initial]
    exact ⟨.empty rfl rfl rfl, rfl⟩
  · rintro before call after ⟨inOrder, step⟩ ⟨state, same⟩
    rw [step]
    cases call with
    | initializeFrom samples =>
        exact ⟨windowState_initializeFrom std before.calibration samples,
          (initializeFrom_config _ _ _).trans same⟩
    | addSample sample =>
        refine ⟨?_, (addSample_config _ _).trans same⟩
        simp only [Tracked.perform]
        by_cases admitted : before.calibration.config.Admits sample
        · rw [if_pos admitted]
          exact windowState_addSample (by rw [same]; exact window) state admitted
            (inOrder admitted)
        · rw [if_neg admitted, addSample_of_not_admits admitted]
          cases state with
          | empty invalid noSamples noneKept => exact .empty invalid noSamples noneKept
          | running newest valid retained mac unix monotonic latency =>
              exact .running newest valid retained mac unix monotonic latency
    | reset => exact ⟨.empty rfl rfl rfl, same⟩

/-! ### The representation invariant -/

structure Representation (calibration : ClockCalibration) : Prop where
  warmingUp_iff : calibration.status.state = .warmingUp ↔ calibration.status.valid = false
  offsetOnly_iff : calibration.status.state = .offsetOnly ↔
    calibration.status.valid = true ∧ calibration.status.driftCalibrated = false
  tracking_iff : calibration.status.state = .tracking ↔
    calibration.status.driftCalibrated = true
  drift_valid : calibration.status.driftCalibrated = true → calibration.status.valid = true
  unit_scale : calibration.status.driftCalibrated = false → calibration.status.scale = 1
  bounded_scale : calibration.status.driftCalibrated = true →
    |calibration.status.scale - 1| * 10 ^ 6 ≤ calibration.config.maximumDriftPpm
  samples_iff : calibration.samples ≠ [] ↔ calibration.status.valid = true
  admitted : ∀ sample ∈ calibration.samples, calibration.config.Admits sample
  ordered : calibration.samples.Pairwise
    (fun left right => left.monotonicNs ≤ right.monotonicNs)
  last_recorded : ∀ newest, calibration.samples.getLast? = some newest →
    newest.macNs = calibration.lastMacNs ∧ newest.unixNs = calibration.lastUnixNs ∧
      newest.monotonicNs = calibration.lastMonotonicNs
  minimum_latency : ∀ sample ∈ calibration.samples,
    calibration.status.minimumLatencyNs ≤ sample.latencyNs

private theorem representation_of_window {calibration : ClockCalibration} {kept : List TimeSample}
    (phase : Phase calibration.config calibration.status)
    (window : WindowState calibration kept) : Representation calibration where
  warmingUp_iff := by cases phase <;> simp_all
  offsetOnly_iff := by cases phase <;> simp_all
  tracking_iff := by cases phase <;> simp_all
  drift_valid := by cases phase <;> simp_all
  unit_scale := by cases phase <;> simp_all
  bounded_scale := by
    intro drift
    cases phase with
    | warmingUp _ _ noDrift _ => rw [drift] at noDrift; cases noDrift
    | offsetOnly _ _ noDrift _ => rw [drift] at noDrift; cases noDrift
    | tracking _ _ _ bounded =>
        norm_num at bounded ⊢
        exact bounded
  samples_iff := by
    cases window with
    | empty invalid noSamples => simp [invalid, noSamples]
    | running newest valid retained =>
        refine ⟨fun _ => valid, fun _ none => ?_⟩
        have last := retained.last
        rw [none] at last
        cases last
  admitted := by
    cases window with
    | empty _ noSamples => rw [noSamples]; simp
    | running _ _ retained => exact retained.admitted
  ordered := by
    cases window with
    | empty _ noSamples => rw [noSamples]; exact List.Pairwise.nil
    | running _ _ retained => exact retained.ordered
  last_recorded := by
    intro newest last
    cases window with
    | empty _ noSamples => rw [noSamples] at last; cases last
    | running recorded _ retained mac unix monotonic =>
        have same : recorded = newest := Option.some.inj (retained.last.symm.trans last)
        rw [← same]
        exact ⟨mac, unix, monotonic⟩
  minimum_latency := by
    cases window with
    | empty _ noSamples => rw [noSamples]; simp
    | running _ _ _ _ _ _ latency => exact latency

private theorem IsLongestSuffix.congr {passes other : TimeSample → Prop}
    {whole part : List TimeSample}
    (longest : IsLongestSuffix passes whole part) (same : ∀ item, passes item ↔ other item) :
    IsLongestSuffix other whole part where
  suffix := longest.suffix
  all := fun item member => (same item).mp (longest.all item member)
  longest := fun rest restSuffix all =>
    longest.longest rest restSuffix (fun item member => (same item).mpr (all item member))

theorem outsideWindow_false_iff {config : Config} {newest sample : TimeSample} :
    outsideWindow config newest sample = false ↔
      newest.monotonicNs - sample.monotonicNs ≤ config.regressionWindowNs := by
  simp [outsideWindow]

/-! ### A run that fits a line and trims its window -/

/-- A sample of the line through the origin of slope 2001 / 2000, up to two nanoseconds late. -/
def lateSample (elapsed : Nat) : TimeSample :=
  { macNs := 2000000000 + 2000000 * elapsed
    unixNs := 2001000000 + 2001000 * elapsed + elapsed % 3
    monotonicNs := 2001000000 + 2001000 * elapsed + elapsed % 3
    latencyNs := 4 }

/-- Ten samples over six seconds; the last one makes the fit due. -/
def lateRun : List CalibrationCall :=
  .initializeFrom ([0, 1, 2, 3].map lateSample) ::
    [500, 1000, 1501, 2000, 2500, 3001].map fun elapsed => .addSample (lateSample elapsed)

/-- A minute later, and two: by then the first ten are outside the window. -/
def trimmedRun : List CalibrationCall :=
  lateRun ++ [33000, 63500].map fun elapsed => .addSample (lateSample elapsed)

def Tracked.ofCalls (calls : List CalibrationCall) : Tracked :=
  calls.foldl (Tracked.perform StdSort.insertion) { calibration := {}, kept := [] }

theorem reachable_foldl {std : StdSort} {config : Config} (calls : List CalibrationCall)
    {tracked : Tracked} (reachable : (calibrationSystem std config).Reachable tracked) :
    (calibrationSystem std config).Reachable (calls.foldl (Tracked.perform std) tracked) :=
  (TransitionSystem.Run.foldl (fun _ _ => rfl) calls tracked).reachable reachable

def ComeInOrder (std : StdSort) : Tracked → List CalibrationCall → Prop
  | _, [] => True
  | tracked, call :: calls =>
      AcceptsInOrder tracked call ∧ ComeInOrder std (tracked.perform std call) calls

instance (std : StdSort) : (tracked : Tracked) → (calls : List CalibrationCall) →
    Decidable (ComeInOrder std tracked calls)
  | _, [] => isTrue trivial
  | tracked, call :: calls =>
      let _ := instDecidableComeInOrder std (tracked.perform std call) calls
      inferInstanceAs (Decidable (AcceptsInOrder tracked call ∧ _))

theorem reachable_inOrder {std : StdSort} {config : Config} {calls : List CalibrationCall}
    {tracked : Tracked}
    (reachable : ((calibrationSystem std config).restrict AcceptsInOrder).Reachable tracked)
    (inOrder : ComeInOrder std tracked calls) :
    ((calibrationSystem std config).restrict AcceptsInOrder).Reachable
      (calls.foldl (Tracked.perform std) tracked) := by
  induction calls generalizing tracked with
  | nil => exact reachable
  | cons call calls ih =>
      obtain ⟨next, rest⟩ := inOrder
      exact ih (reachable.next ⟨next, rfl⟩) rest

/-! ### Every run -/

/-- Every call sequence keeps the representation; a sample is accepted exactly if it passes the
filter, and leaves exactly the longest suffix of the kept samples inside the window of the
newest; and a valid calibration stays valid. -/
theorem calibration_representation (std : StdSort) (config : Config)
    (window : 0 ≤ config.regressionWindowNs) (tracked : Tracked)
    (reachable : ((calibrationSystem std config).restrict AcceptsInOrder).Reachable tracked) :
    Representation tracked.calibration ∧
      (∀ sample, (tracked.calibration.addSample sample).1 = true ↔ config.Admits sample) ∧
      (∀ sample, AcceptsInOrder tracked (.addSample sample) → config.Admits sample →
        IsLongestSuffix
          (fun item => sample.monotonicNs - item.monotonicNs ≤ config.regressionWindowNs)
          (tracked.perform std (.addSample sample)).kept
          (tracked.perform std (.addSample sample)).calibration.samples) ∧
      (∀ sample, tracked.calibration.status.valid = true →
        (tracked.calibration.addSample sample).2.status.valid = true) := by
  obtain ⟨state, same⟩ := windowState_of_reachable window reachable
  refine ⟨representation_of_window (phase_of_reachable reachable.of_restrict) state, ?_, ?_,
    fun sample valid => addSample_valid sample valid⟩
  · intro sample
    rw [← same]
    exact addSample_true_iff
  · intro sample inOrder admitted
    rw [← same] at admitted
    have longest := (windowState_absorb (by rw [same]; exact window) state admitted
      (inOrder admitted)).1
    simp only [Tracked.perform, if_pos admitted, addSample_of_admits admitted]
    rw [(fitIfDue_frame _).2.1]
    rw [same] at longest
    exact IsLongestSuffix.congr longest (fun item => outsideWindow_false_iff)

/-- Twelve samples since the anchor, two of them in the window, under a fitted line. -/
theorem calibration_representation_trimmed :
    Representation (Tracked.ofCalls trimmedRun).calibration ∧
      (Tracked.ofCalls trimmedRun).calibration.status.driftCalibrated = true ∧
      (Tracked.ofCalls trimmedRun).kept.length = 12 ∧
      (Tracked.ofCalls trimmedRun).calibration.samples = [lateSample 33000, lateSample 63500] ∧
      IsLongestSuffix
        (fun item => (lateSample 63500).monotonicNs - item.monotonicNs ≤ 120000000000)
        (Tracked.ofCalls trimmedRun).kept (Tracked.ofCalls trimmedRun).calibration.samples := by
  have reached (calls : List CalibrationCall)
      (inOrder : ComeInOrder StdSort.insertion { calibration := {}, kept := [] } calls) :
      ((calibrationSystem StdSort.insertion {}).restrict AcceptsInOrder).Reachable
        (Tracked.ofCalls calls) := reachable_inOrder (.start rfl) inOrder
  obtain ⟨representation, _⟩ := calibration_representation StdSort.insertion {} (by decide) _
    (reached trimmedRun (by decide +kernel))
  obtain ⟨_, _, longest, _⟩ := calibration_representation StdSort.insertion {} (by decide) _
    (reached trimmedRun.dropLast (by decide +kernel))
  exact ⟨representation, by decide +kernel, by decide +kernel, by decide +kernel,
    longest (lateSample 63500) (by decide +kernel) (by decide +kernel)⟩

end SflowMiddle.Calibration

/-
Representation invariant of the calibration over every sequence of calls. The
status is always in one of three phases; the retained samples are the admitted
ones of the current window. The ghost list `kept` holds every sample accepted
since the model was last anchored, so that trimming can be compared with it.
-/

import SflowMiddle.Calibration.ClockCalibration
import SflowMiddle.Foundation.Suffix
import SflowMiddle.Foundation.TransitionSystem

namespace SflowMiddle.Calibration

open SflowMiddle.Foundation
open ClockCalibration

/-! ### Phases of the status -/

inductive Phase (config : Config) (status : CalibrationStatus) : Prop where
  | warmingUp (state : status.state = .warmingUp) (invalid : status.valid = false)
      (noDrift : status.driftCalibrated = false) (unitScale : status.scale = 1)
  | offsetOnly (state : status.state = .offsetOnly) (valid : status.valid = true)
      (noDrift : status.driftCalibrated = false) (unitScale : status.scale = 1)
  | tracking (state : status.state = .tracking) (valid : status.valid = true)
      (drift : status.driftCalibrated = true)
      (bounded : |status.scale - 1| * 1000000 ≤ config.maximumDriftPpm)

theorem Phase.congr {config : Config} {before after : CalibrationStatus}
    (phase : Phase config before) (state : after.state = before.state)
    (valid : after.valid = before.valid)
    (drift : after.driftCalibrated = before.driftCalibrated)
    (scale : after.scale = before.scale) : Phase config after := by
  cases phase with
  | warmingUp s v d u =>
      exact .warmingUp (state.trans s) (valid.trans v) (drift.trans d) (scale.trans u)
  | offsetOnly s v d u =>
      exact .offsetOnly (state.trans s) (valid.trans v) (drift.trans d) (scale.trans u)
  | tracking s v d bounded =>
      exact .tracking (state.trans s) (valid.trans v) (drift.trans d)
        (by rw [scale]; exact bounded)

private theorem Phase.noDrift_of_invalid {config : Config} {status : CalibrationStatus}
    (phase : Phase config status) (invalid : status.valid = false) :
    status.driftCalibrated = false := by
  cases phase with
  | warmingUp _ _ noDrift _ => exact noDrift
  | offsetOnly _ valid _ _ => rw [valid] at invalid; cases invalid
  | tracking _ valid _ _ => rw [valid] at invalid; cases invalid

private theorem phase_anchorStatus {config : Config} {status : CalibrationStatus}
    (noDrift : status.driftCalibrated = false) (sample : TimeSample) :
    Phase config (anchorStatus status sample) :=
  .offsetOnly rfl rfl noDrift rfl

theorem phase_reset (calibration : ClockCalibration) :
    Phase calibration.config calibration.reset.status :=
  .warmingUp rfl rfl rfl rfl

/-! ### What a successful fit writes -/

/-- Both passes of a fit that returns true: the line of the whole window, the inliers of
that line, and the line of the inliers, which passed the drift limit. -/
theorem fit_passes {calibration fitted : ClockCalibration}
    (success : calibration.fit = some fitted) :
    ∃ front initialScale initialUnixOrigin kept origin finalScale fittedUnixOrigin,
      calibration.samples.head? = some front ∧
      fitLine calibration.samples front.macNs front.unixNs =
        some (initialScale, initialUnixOrigin) ∧
      kept = inliers calibration.samples front.macNs initialUnixOrigin initialScale ∧
      4 ≤ kept.length ∧ kept.head? = some origin ∧
      fitLine kept origin.macNs origin.unixNs = some (finalScale, fittedUnixOrigin) ∧
      |finalScale - 1| * 1000000 ≤ calibration.config.maximumDriftPpm ∧
      fitted =
        { calibration with
          status :=
            { calibration.status with
              macOriginNs := origin.macNs
              unixOriginNs := fittedUnixOrigin
              scale := finalScale
              medianResidualNs := median (kept.map fun sample =>
                |residual origin.macNs fittedUnixOrigin finalScale sample|)
              sampleCount := kept.length
              driftCalibrated := true
              sampleSpanNs := spanNs kept
              state := .tracking } } := by
  unfold ClockCalibration.fit at success
  simp only [Option.bind_eq_bind, Option.bind_eq_some_iff] at success
  obtain ⟨front, frontFirst, ⟨initialScale, initialUnixOrigin⟩, initialLine, rest⟩ := success
  dsimp only at rest
  split at rest
  · cases rest
  · rename_i enough
    simp only [Option.bind_eq_some_iff] at rest
    obtain ⟨origin, originFirst, ⟨finalScale, fittedUnixOrigin⟩, finalLine, written⟩ := rest
    dsimp only at written
    split at written
    · cases written
    · rename_i withinDrift
      refine ⟨front, initialScale, initialUnixOrigin, _, origin, finalScale, fittedUnixOrigin,
        frontFirst, initialLine, rfl, not_lt.mp enough, originFirst, finalLine, ?_,
        (Option.some.inj written).symm⟩
      rw [not_lt, abs_mul] at withinDrift
      simpa using withinDrift

theorem fit_eq_some {calibration fitted : ClockCalibration}
    (success : calibration.fit = some fitted) :
    ∃ kept origin finalScale fittedUnixOrigin,
      4 ≤ kept.length ∧ kept.head? = some origin ∧
      kept.Sublist calibration.samples ∧
      fitLine kept origin.macNs origin.unixNs = some (finalScale, fittedUnixOrigin) ∧
      |finalScale - 1| * 1000000 ≤ calibration.config.maximumDriftPpm ∧
      fitted =
        { calibration with
          status :=
            { calibration.status with
              macOriginNs := origin.macNs
              unixOriginNs := fittedUnixOrigin
              scale := finalScale
              medianResidualNs := median (kept.map fun sample =>
                |residual origin.macNs fittedUnixOrigin finalScale sample|)
              sampleCount := kept.length
              driftCalibrated := true
              sampleSpanNs := spanNs kept
              state := .tracking } } := by
  obtain ⟨_, _, _, kept, origin, finalScale, fittedUnixOrigin, _, _, chosen, enough, front, line,
    bounded, written⟩ := fit_passes success
  refine ⟨kept, origin, finalScale, fittedUnixOrigin, enough, front, ?_, line, bounded, written⟩
  rw [chosen]
  exact List.filter_sublist

theorem fitIfDue_of_fit {calibration after : ClockCalibration} (due : calibration.FitDue)
    (fitted : calibration.fit = some after) : calibration.fitIfDue = after := by
  unfold ClockCalibration.fitIfDue
  rw [if_pos due, fitted]
  rfl

theorem fitIfDue_cases (calibration : ClockCalibration) :
    calibration.fitIfDue = calibration ∨
      ∃ after, calibration.FitDue ∧ calibration.fit = some after ∧
        calibration.fitIfDue = after := by
  by_cases due : calibration.FitDue
  · cases fitted : calibration.fit with
    | some after => exact Or.inr ⟨after, due, rfl, fitIfDue_of_fit due fitted⟩
    | none =>
        unfold ClockCalibration.fitIfDue
        rw [if_pos due, fitted]
        exact Or.inl rfl
  · exact Or.inl (if_neg due)

theorem phase_fitIfDue {calibration : ClockCalibration}
    (phase : Phase calibration.config calibration.status)
    (valid : calibration.status.valid = true) :
    Phase calibration.config calibration.fitIfDue.status := by
  rcases fitIfDue_cases calibration with same | ⟨after, _, fitted, installed⟩
  · rw [same]
    exact phase
  · rw [installed]
    obtain ⟨_, _, _, _, _, _, _, _, bounded, rfl⟩ := fit_eq_some fitted
    exact .tracking rfl valid rfl bounded

theorem fitIfDue_frame (calibration : ClockCalibration) :
    calibration.fitIfDue.config = calibration.config ∧
      calibration.fitIfDue.samples = calibration.samples ∧
      calibration.fitIfDue.lastMacNs = calibration.lastMacNs ∧
      calibration.fitIfDue.lastUnixNs = calibration.lastUnixNs ∧
      calibration.fitIfDue.lastMonotonicNs = calibration.lastMonotonicNs ∧
      calibration.fitIfDue.status.valid = calibration.status.valid ∧
      calibration.fitIfDue.status.minimumLatencyNs = calibration.status.minimumLatencyNs := by
  rcases fitIfDue_cases calibration with same | ⟨after, _, fitted, installed⟩
  · rw [same]
    exact ⟨rfl, rfl, rfl, rfl, rfl, rfl, rfl⟩
  · rw [installed]
    obtain ⟨_, _, _, _, _, _, _, _, _, rfl⟩ := fit_eq_some fitted
    exact ⟨rfl, rfl, rfl, rfl, rfl, rfl, rfl⟩

/-! ### The retained window -/

/-- `samples` against the history `kept` of the model they belong to. -/
structure Retained (config : Config) (newest : TimeSample)
    (kept samples : List TimeSample) : Prop where
  last : samples.getLast? = some newest
  admitted : ∀ sample ∈ samples, config.Admits sample
  ordered : samples.Pairwise (fun left right => left.monotonicNs ≤ right.monotonicNs)
  suffix : samples <:+ kept
  longest : ∀ other, other <:+ kept →
    (∀ sample ∈ other, outsideWindow config newest sample = false) → other <:+ samples

private theorem outsideWindow_self {config : Config} (window : 0 ≤ config.regressionWindowNs)
    (sample : TimeSample) : outsideWindow config sample sample = false := by
  simp only [outsideWindow, sub_self, gt_iff_lt, decide_eq_false_iff_not, not_lt]
  exact window

private theorem outsideWindow_mono {config : Config} {earlier later sample : TimeSample}
    (advanced : earlier.monotonicNs ≤ later.monotonicNs)
    (inside : outsideWindow config later sample = false) :
    outsideWindow config earlier sample = false := by
  simp only [outsideWindow, gt_iff_lt, decide_eq_false_iff_not, not_lt] at inside ⊢
  omega

private theorem outsideWindow_settles {config : Config} (newest : TimeSample)
    {samples : List TimeSample}
    (ordered : samples.Pairwise (fun left right => left.monotonicNs ≤ right.monotonicNs)) :
    samples.Pairwise (fun left right =>
      outsideWindow config newest left = false → outsideWindow config newest right = false) := by
  apply ordered.imp
  intro left right advanced inside
  simp only [outsideWindow, gt_iff_lt, decide_eq_false_iff_not, not_lt] at inside ⊢
  omega

private theorem Retained.monotonic_le {config : Config} {newest : TimeSample}
    {kept samples : List TimeSample} (retained : Retained config newest kept samples) :
    ∀ sample ∈ samples, sample.monotonicNs ≤ newest.monotonicNs := by
  obtain ⟨front, shape⟩ := List.getLast?_eq_some_iff.mp retained.last
  have ordered := retained.ordered
  rw [shape, List.pairwise_append] at ordered
  intro sample member
  rw [shape] at member
  rcases List.mem_append.mp member with early | same
  · exact ordered.2.2 sample early newest (List.mem_singleton_self newest)
  · rw [List.mem_singleton.mp same]

private theorem pairwise_concat_monotonic {samples : List TimeSample} {newest : TimeSample}
    (ordered : samples.Pairwise (fun left right => left.monotonicNs ≤ right.monotonicNs))
    (advanced : ∀ sample ∈ samples, sample.monotonicNs ≤ newest.monotonicNs) :
    (samples ++ [newest]).Pairwise
      (fun left right => left.monotonicNs ≤ right.monotonicNs) := by
  rw [List.pairwise_append]
  refine ⟨ordered, List.pairwise_singleton _ _, ?_⟩
  intro sample member other same
  rw [List.mem_singleton.mp same]
  exact advanced sample member

private theorem retained_trim {config : Config} (window : 0 ≤ config.regressionWindowNs)
    {newest : TimeSample} {kept samples : List TimeSample}
    (admitted : ∀ sample ∈ samples ++ [newest], config.Admits sample)
    (ordered : (samples ++ [newest]).Pairwise
      (fun left right => left.monotonicNs ≤ right.monotonicNs))
    (trimmed : IsLongestSuffix (fun sample => outsideWindow config newest sample = false)
      (kept ++ [newest]) ((samples ++ [newest]).dropWhile (outsideWindow config newest))) :
    Retained config newest (kept ++ [newest])
      ((samples ++ [newest]).dropWhile (outsideWindow config newest)) where
  last := by
    have survives : [newest] <:+ (samples ++ [newest]).dropWhile (outsideWindow config newest) :=
      suffix_dropWhile (List.suffix_append samples [newest]) (by
        intro sample same
        rw [List.mem_singleton.mp same]
        exact outsideWindow_self window newest)
    obtain ⟨front, shape⟩ := survives
    exact List.getLast?_eq_some_iff.mpr ⟨front, shape.symm⟩
  admitted := fun sample member => admitted sample (List.dropWhile_subset _ member)
  ordered := ordered.sublist (List.dropWhile_sublist _)
  suffix := trimmed.suffix
  longest := trimmed.longest

private theorem Retained.trim_longest {config : Config} {last newest : TimeSample}
    {kept samples : List TimeSample} (retained : Retained config last kept samples)
    (advanced : last.monotonicNs ≤ newest.monotonicNs) :
    IsLongestSuffix (fun sample => outsideWindow config newest sample = false)
      (kept ++ [newest]) ((samples ++ [newest]).dropWhile (outsideWindow config newest)) := by
  apply IsLongestSuffix.append_dropWhile retained.suffix
  · intro other otherSuffix inside
    exact retained.longest other otherSuffix
      (fun sample member => outsideWindow_mono advanced (inside sample member))
  · exact outsideWindow_settles newest (pairwise_concat_monotonic retained.ordered
      (fun sample member => (retained.monotonic_le sample member).trans advanced))

private theorem singleton_trim_longest {config : Config} (newest : TimeSample) :
    IsLongestSuffix (fun sample => outsideWindow config newest sample = false)
      ([] ++ [newest]) (([] ++ [newest]).dropWhile (outsideWindow config newest)) :=
  IsLongestSuffix.append_dropWhile (List.nil_suffix)
    (fun _ otherSuffix _ => otherSuffix) (List.pairwise_singleton _ _)

/-! ### One admitted sample -/

/-- The sample starts a new model: the first one, or one that trips a detector. -/
def Anchors (calibration : ClockCalibration) (sample : TimeSample) : Prop :=
  calibration.status.valid = false ∨ calibration.ReanchorsOn sample

instance (calibration : ClockCalibration) (sample : TimeSample) :
    Decidable (Anchors calibration sample) :=
  inferInstanceAs (Decidable (_ ∨ _))

theorem anchors_iff_of_valid {calibration : ClockCalibration} {sample : TimeSample}
    (valid : calibration.status.valid = true) :
    Anchors calibration sample ↔ calibration.ReanchorsOn sample := by
  unfold Anchors
  rw [valid]
  simp

def keptAfter (calibration : ClockCalibration) (kept : List TimeSample) (sample : TimeSample) :
    List TimeSample :=
  (if Anchors calibration sample then [] else kept) ++ [sample]

inductive WindowState (calibration : ClockCalibration) (kept : List TimeSample) : Prop where
  | empty (invalid : calibration.status.valid = false) (noSamples : calibration.samples = [])
      (noneKept : kept = [])
  | running (newest : TimeSample) (valid : calibration.status.valid = true)
      (retained : Retained calibration.config newest kept calibration.samples)
      (lastMac : newest.macNs = calibration.lastMacNs)
      (lastUnix : newest.unixNs = calibration.lastUnixNs)
      (lastMonotonic : newest.monotonicNs = calibration.lastMonotonicNs)
      (latency : ∀ sample ∈ calibration.samples,
        calibration.status.minimumLatencyNs ≤ sample.latencyNs)

/-- The two shapes an absorbed sample leaves behind, before `fit` may run. -/
theorem absorb_anchored {calibration : ClockCalibration} {sample : TimeSample}
    (empty : calibration.status.valid = false → calibration.samples = [])
    (anchors : Anchors calibration sample) :
    (calibration.absorb sample).samples =
        ([] ++ [sample]).dropWhile (outsideWindow calibration.config sample) ∧
      (calibration.absorb sample).status.minimumLatencyNs = sample.latencyNs ∧
      (calibration.absorb sample).status.macOriginNs = sample.macNs ∧
      (calibration.absorb sample).status.unixOriginNs = sample.unixNs ∧
      (calibration.absorb sample).status.scale = 1 ∧
      (calibration.absorb sample).status.state = .offsetOnly ∧
      ((calibration.status.valid = false → calibration.status.driftCalibrated = false) →
        (calibration.absorb sample).status.driftCalibrated = false) := by
  unfold absorb
  by_cases invalid : calibration.status.valid = false
  · rw [if_pos invalid]
    refine ⟨?_, rfl, rfl, rfl, rfl, rfl, fun noDrift => noDrift invalid⟩
    change (calibration.samples ++ [sample]).dropWhile _ = _
    rw [empty invalid]
    rfl
  · have steps := anchors.resolve_left invalid
    rw [if_neg invalid, if_pos steps]
    exact ⟨rfl, rfl, rfl, rfl, rfl, rfl, fun _ => rfl⟩

theorem absorb_kept {calibration : ClockCalibration} {sample : TimeSample}
    (keeps : ¬ Anchors calibration sample) :
    calibration.absorb sample =
      ((calibration.keepModel sample).recordLast sample).trimWindow sample := by
  unfold absorb
  rw [if_neg (fun invalid => keeps (Or.inl invalid)),
    if_neg (fun steps => keeps (Or.inr steps))]

@[simp]
theorem absorb_config (calibration : ClockCalibration) (sample : TimeSample) :
    (calibration.absorb sample).config = calibration.config := by
  unfold absorb
  split
  · rfl
  · split <;> rfl

@[simp]
theorem absorb_last (calibration : ClockCalibration) (sample : TimeSample) :
    (calibration.absorb sample).lastMacNs = sample.macNs ∧
      (calibration.absorb sample).lastUnixNs = sample.unixNs ∧
      (calibration.absorb sample).lastMonotonicNs = sample.monotonicNs := by
  unfold absorb
  exact ⟨rfl, rfl, rfl⟩

theorem absorb_valid (calibration : ClockCalibration) (sample : TimeSample) :
    (calibration.absorb sample).status.valid = true := by
  unfold absorb
  split
  · rfl
  · rename_i valid
    split
    · rfl
    · exact Bool.of_not_eq_false valid

theorem phase_absorb {calibration : ClockCalibration}
    (phase : Phase calibration.config calibration.status) (sample : TimeSample) :
    Phase calibration.config (calibration.absorb sample).status := by
  unfold absorb
  split
  · rename_i invalid
    exact (phase_anchorStatus (phase.noDrift_of_invalid invalid) sample).congr rfl rfl rfl rfl
  · split
    · exact .offsetOnly rfl rfl rfl rfl
    · exact phase.congr rfl rfl rfl rfl

/-- The window after one admitted sample, whichever way it was absorbed. -/
theorem windowState_absorb {calibration : ClockCalibration} {kept : List TimeSample}
    (window : 0 ≤ calibration.config.regressionWindowNs)
    (state : WindowState calibration kept) {sample : TimeSample}
    (admitted : calibration.config.Admits sample)
    (inOrder : calibration.status.valid = true →
      calibration.lastMonotonicNs ≤ sample.monotonicNs) :
    IsLongestSuffix (fun item => outsideWindow calibration.config sample item = false)
        (keptAfter calibration kept sample) (calibration.absorb sample).samples ∧
      Retained calibration.config sample (keptAfter calibration kept sample)
        (calibration.absorb sample).samples ∧
      ∀ item ∈ (calibration.absorb sample).samples,
        (calibration.absorb sample).status.minimumLatencyNs ≤ item.latencyNs := by
  by_cases anchors : Anchors calibration sample
  · have empty : calibration.status.valid = false → calibration.samples = [] := by
      intro invalid
      cases state with
      | empty _ noSamples _ => exact noSamples
      | running _ valid => rw [valid] at invalid; cases invalid
    obtain ⟨samples, latency, _⟩ := absorb_anchored empty anchors
    have longest := @singleton_trim_longest calibration.config sample
    rw [samples, latency, keptAfter, if_pos anchors]
    refine ⟨longest, retained_trim window ?_ ?_ longest, ?_⟩
    · exact List.forall_mem_singleton.mpr admitted
    · exact List.pairwise_singleton _ _
    · intro item member
      have same := List.mem_singleton.mp (List.dropWhile_subset _ member)
      rw [same]
  · cases state with
    | empty invalid => exact absurd (Or.inl invalid) anchors
    | running last valid retained _ _ lastMonotonic latency =>
        have advanced : last.monotonicNs ≤ sample.monotonicNs := by
          rw [lastMonotonic]
          exact inOrder valid
        have longest := retained.trim_longest advanced
        rw [absorb_kept anchors, keptAfter, if_neg anchors]
        refine ⟨longest, retained_trim window ?_ ?_ longest, ?_⟩
        · exact List.forall_mem_append.mpr
            ⟨retained.admitted, List.forall_mem_singleton.mpr admitted⟩
        · exact pairwise_concat_monotonic retained.ordered
            (fun item member => (retained.monotonic_le item member).trans advanced)
        · intro item member
          change min calibration.status.minimumLatencyNs sample.latencyNs ≤ item.latencyNs
          rcases List.mem_append.mp (List.dropWhile_subset _ member) with early | same
          · exact (min_le_left _ _).trans (latency item early)
          · rw [List.mem_singleton.mp same]
            exact min_le_right _ _

/-! ### Startup -/

private theorem foldl_min_le (samples : List TimeSample) (start : Int) :
    samples.foldl (fun least sample => min least sample.latencyNs) start ≤ start ∧
      ∀ sample ∈ samples,
        samples.foldl (fun least sample => min least sample.latencyNs) start ≤
          sample.latencyNs := by
  induction samples generalizing start with
  | nil => exact ⟨le_refl start, by simp⟩
  | cons head tail ih =>
      obtain ⟨below, each⟩ := ih (min start head.latencyNs)
      constructor
      · exact below.trans (min_le_left _ _)
      · intro sample member
        rcases List.mem_cons.mp member with same | later
        · rw [same]
          exact below.trans (min_le_right _ _)
        · exact each sample later

/-- The samples startup selects, in the order it stores them. -/
def startupSelection (std : StdSort) (config : Config) (samples : List TimeSample) :
    List TimeSample :=
  std.sort TimeSample.monotonicNs
    ((std.sort TimeSample.latencyNs
      (samples.filter fun sample => config.Admits sample)).take kStartupBestSampleCount)

theorem mem_startupSelection {std : StdSort} {config : Config} {samples : List TimeSample}
    {sample : TimeSample} (member : sample ∈ startupSelection std config samples) :
    sample ∈ samples ∧ config.Admits sample := by
  have inBest := (std.mem_sort _ _ _).mp member
  have inAccepted := (std.mem_sort _ _ _).mp (List.mem_of_mem_take inBest)
  have parts := List.mem_filter.mp inAccepted
  exact ⟨parts.1, of_decide_eq_true parts.2⟩

theorem length_startupSelection (std : StdSort) (config : Config) (samples : List TimeSample) :
    (startupSelection std config samples).length =
      min 8 (samples.filter fun sample => config.Admits sample).length := by
  unfold startupSelection
  rw [std.length_sort, List.length_take, std.length_sort]
  rfl

/-- The cleared object of `initialize`, with the refused samples counted. -/
def emptied (calibration : ClockCalibration) (samples : List TimeSample) : ClockCalibration :=
  { calibration.reset with
    status :=
      { calibration.reset.status with
        rejectedSamples := calibration.reset.status.rejectedSamples +
          (samples.filter (fun sample => ¬ calibration.config.Admits sample)).length } }

/-- The admitted samples of least latency, which set the offset. -/
def startupBest (std : StdSort) (config : Config) (samples : List TimeSample) :
    List TimeSample :=
  (std.sort TimeSample.latencyNs (samples.filter (fun sample => config.Admits sample))).take
    kStartupBestSampleCount

def installOffset (std : StdSort) (calibration : ClockCalibration) (best : List TimeSample) :
    ClockCalibration :=
  ({ calibration.setOffsetModel best with
      samples := std.sort TimeSample.monotonicNs best }).recordLast
    ((std.sort TimeSample.monotonicNs best).getLastD {})

theorem startupBest_ne_nil (std : StdSort) {config : Config} {samples : List TimeSample}
    (enough : 4 ≤ (samples.filter fun sample => config.Admits sample).length) :
    startupBest std config samples ≠ [] := by
  intro none
  have length := congrArg List.length none
  unfold startupBest kStartupBestSampleCount at length
  rw [List.length_take, std.length_sort, List.length_nil] at length
  omega

theorem initializeFrom_eq (std : StdSort) (calibration : ClockCalibration)
    (samples : List TimeSample) :
    calibration.initializeFrom std samples =
      if (samples.filter fun sample => calibration.config.Admits sample).length < 4 then
        (false, emptied calibration samples)
      else
        (true, installOffset std (emptied calibration samples)
          (startupBest std calibration.config samples)) := rfl

theorem initializeFrom_samples (std : StdSort) (calibration : ClockCalibration)
    (samples : List TimeSample) :
    (calibration.initializeFrom std samples).2.samples =
      if (calibration.initializeFrom std samples).1 = true then
        startupSelection std calibration.config samples
      else [] := by
  unfold initializeFrom
  dsimp only
  split <;> rfl

theorem initializeFrom_true_iff (std : StdSort) (calibration : ClockCalibration)
    (samples : List TimeSample) :
    (calibration.initializeFrom std samples).1 = true ↔
      4 ≤ (samples.filter fun sample => calibration.config.Admits sample).length := by
  unfold initializeFrom
  dsimp only
  split
  · rename_i few
    constructor
    · intro impossible
      cases impossible
    · intro enough
      omega
  · rename_i enough
    exact ⟨fun _ => not_lt.mp enough, fun _ => rfl⟩

@[simp]
theorem initializeFrom_config (std : StdSort) (calibration : ClockCalibration)
    (samples : List TimeSample) :
    (calibration.initializeFrom std samples).2.config = calibration.config := by
  unfold initializeFrom
  dsimp only
  split <;> rfl

theorem initializeFrom_valid (std : StdSort) (calibration : ClockCalibration)
    (samples : List TimeSample) :
    (calibration.initializeFrom std samples).2.status.valid =
      (calibration.initializeFrom std samples).1 := by
  unfold initializeFrom
  dsimp only
  split <;> rfl

theorem phase_initializeFrom (std : StdSort) (calibration : ClockCalibration)
    (samples : List TimeSample) :
    Phase calibration.config (calibration.initializeFrom std samples).2.status := by
  unfold initializeFrom
  dsimp only
  split
  · exact (phase_reset calibration).congr rfl rfl rfl rfl
  · exact .offsetOnly rfl rfl rfl rfl

theorem getLast?_eq_getLastD {samples : List TimeSample} (nonempty : samples ≠ []) :
    samples.getLast? = some (samples.getLastD {}) := by
  cases samples with
  | nil => exact absurd rfl nonempty
  | cons head tail => rfl

theorem windowState_initializeFrom (std : StdSort) (calibration : ClockCalibration)
    (samples : List TimeSample) :
    WindowState (calibration.initializeFrom std samples).2
      (calibration.initializeFrom std samples).2.samples := by
  have stored := initializeFrom_samples std calibration samples
  have valid := initializeFrom_valid std calibration samples
  cases started : (calibration.initializeFrom std samples).1 with
  | false =>
      rw [started] at stored valid
      exact .empty valid stored stored
  | true =>
      rw [started, if_pos rfl] at stored
      rw [started] at valid
      have enough := (initializeFrom_true_iff std calibration samples).mp started
      have nonempty : startupSelection std calibration.config samples ≠ [] := by
        intro none
        have count := length_startupSelection std calibration.config samples
        rw [none, List.length_nil] at count
        omega
      have last : (calibration.initializeFrom std samples).2 =
          ((calibration.initializeFrom std samples).2).recordLast
            ((startupSelection std calibration.config samples).getLastD {}) := by
        unfold initializeFrom
        dsimp only
        rw [if_neg (not_lt.mpr enough)]
        rfl
      refine .running ((startupSelection std calibration.config samples).getLastD {})
        valid ?_ ?_ ?_ ?_ ?_
      · rw [stored]
        exact
          { last := getLast?_eq_getLastD nonempty
            admitted := by
              intro sample member
              rw [initializeFrom_config]
              exact (mem_startupSelection member).2
            ordered := std.ascending _ _
            suffix := List.suffix_refl _
            longest := fun _ otherSuffix _ => otherSuffix }
      · rw [last]
        rfl
      · rw [last]
        rfl
      · rw [last]
        rfl
      · intro sample member
        rw [stored] at member
        have inBest := (std.mem_sort _ _ _).mp member
        have least := (foldl_min_le ((std.sort TimeSample.latencyNs
          (samples.filter fun sample => calibration.config.Admits sample)).take
            kStartupBestSampleCount) 9223372036854775807).2 sample inBest
        unfold initializeFrom
        dsimp only
        rw [if_neg (not_lt.mpr enough)]
        exact least

end SflowMiddle.Calibration

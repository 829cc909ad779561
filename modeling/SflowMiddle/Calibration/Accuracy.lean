/-
How far a conversion is off when the samples are. In every reachable state the model
comes from samples kept since the last anchor: an offset between theirs, or the line of
least squares through some of them. Samples within a bound of a true line then bound the
error of every conversion, by the distance from the samples.
-/

import SflowMiddle.Calibration.LineRuns
import SflowMiddle.Calibration.OptimalLine

namespace SflowMiddle.Calibration

open SflowMiddle.Foundation
open ClockCalibration

def ClockLine.unixAt (line : ClockLine) (macNs : ℚ) : ℚ :=
  line.unixOrigin + line.slope * (macNs - line.macOrigin)

theorem ClockLine.unixAt_mono {line : ClockLine} (rises : 0 ≤ line.slope) {earlier later : ℚ}
    (ordered : earlier ≤ later) : line.unixAt earlier ≤ line.unixAt later := by
  have risen := mul_le_mul_of_nonneg_left (sub_le_sub_right ordered line.macOrigin) rises
  unfold unixAt
  linarith

/-- The Unix time of the sample is off by the bound at most. -/
def ClockLine.Near (line : ClockLine) (bound : ℚ) (sample : TimeSample) : Prop :=
  |(sample.unixNs : ℚ) - line.unixAt sample.macNs| ≤ bound

/-! ### Where the installed model comes from -/

inductive ModelFrom (kept : List TimeSample) (calibration : ClockCalibration) : Prop where
  | offset (noDrift : calibration.status.driftCalibrated = false)
      (unitScale : calibration.status.scale = 1)
      (between : ∀ lower upper, (∀ sample ∈ kept, lower ≤ sample.unixNs - sample.macNs ∧
          sample.unixNs - sample.macNs ≤ upper) →
        lower ≤ calibration.status.unixOriginNs - calibration.status.macOriginNs ∧
          calibration.status.unixOriginNs - calibration.status.macOriginNs ≤ upper)
  | line (chosen : List TimeSample) (origin : TimeSample)
      (drift : calibration.status.driftCalibrated = true) (inside : chosen ⊆ kept)
      (enough : 4 ≤ chosen.length) (macOrigin : calibration.status.macOriginNs = origin.macNs)
      (fitted : fitLine chosen origin.macNs origin.unixNs =
        some (calibration.status.scale, calibration.status.unixOriginNs))

private theorem ModelFrom.mono {kept more : List TimeSample} {before after : ClockCalibration}
    (model : ModelFrom kept before) (larger : kept ⊆ more)
    (drift : after.status.driftCalibrated = before.status.driftCalibrated)
    (scale : after.status.scale = before.status.scale)
    (macOrigin : after.status.macOriginNs = before.status.macOriginNs)
    (unixOrigin : after.status.unixOriginNs = before.status.unixOriginNs) :
    ModelFrom more after := by
  cases model with
  | offset noDrift unitScale between =>
      refine .offset (drift.trans noDrift) (scale.trans unitScale) ?_
      intro lower upper bounded
      rw [macOrigin, unixOrigin]
      exact between lower upper fun sample member => bounded sample (larger member)
  | line chosen origin calibrated inside enough origins fitted =>
      refine .line chosen origin (drift.trans calibrated)
        (fun sample member => larger (inside member)) enough (macOrigin.trans origins) ?_
      rw [scale, unixOrigin]
      exact fitted

/-- Retained samples were kept, and a valid model comes from kept ones. -/
structure Sourced (kept : List TimeSample) (calibration : ClockCalibration) : Prop where
  samples : calibration.samples ⊆ kept
  idle : calibration.status.valid = false →
    calibration.samples = [] ∧ calibration.status.driftCalibrated = false
  model : calibration.status.valid = true → ModelFrom kept calibration

section Steps

variable {calibration : ClockCalibration} {kept : List TimeSample} {sample : TimeSample}

private theorem Sourced.absorb (sourced : Sourced kept calibration) :
    Sourced (keptAfter calibration kept sample) (calibration.absorb sample) := by
  refine ⟨?_, ?_, ?_⟩
  · by_cases anchors : Anchors calibration sample
    · have window := (absorb_anchored (fun invalid => (sourced.idle invalid).1) anchors).1
      rw [window, keptAfter, if_pos anchors]
      exact List.dropWhile_subset _
    · rw [keptAfter, if_neg anchors]
      intro item member
      rcases mem_absorb member with old | new
      · exact List.mem_append_left _ (sourced.samples old)
      · exact List.mem_append_right _ (List.mem_singleton.mpr new)
  · intro invalid
    rw [absorb_valid] at invalid
    cases invalid
  · intro _
    by_cases anchors : Anchors calibration sample
    · obtain ⟨_, _, macOrigin, unixOrigin, unitScale, _, noDrift⟩ :=
        absorb_anchored (fun invalid => (sourced.idle invalid).1) anchors
      refine .offset (noDrift fun invalid => (sourced.idle invalid).2) unitScale ?_
      intro lower upper bounded
      rw [macOrigin, unixOrigin]
      exact bounded sample (List.mem_append_right _ (List.mem_singleton_self _))
    · have valid : calibration.status.valid = true :=
        Bool.of_not_eq_false fun invalid => anchors (Or.inl invalid)
      rw [absorb_kept anchors, keptAfter, if_neg anchors]
      exact (sourced.model valid).mono (List.subset_append_left _ _) rfl rfl rfl rfl

private theorem Sourced.fitIfDue (sourced : Sourced kept calibration)
    (valid : calibration.status.valid = true) : Sourced kept calibration.fitIfDue := by
  obtain ⟨_, samples, _, _, _, validAfter, _⟩ := fitIfDue_frame calibration
  refine ⟨?_, ?_, ?_⟩
  · rw [samples]
    exact sourced.samples
  · intro invalid
    rw [validAfter, valid] at invalid
    cases invalid
  · intro _
    rcases fitIfDue_cases calibration with same | ⟨after, _, fitted, installed⟩
    · rw [same]
      exact sourced.model valid
    · rw [installed]
      obtain ⟨chosen, origin, _, _, enough, _, sublist, line, _, rfl⟩ := fit_eq_some fitted
      exact .line chosen origin rfl
        (fun item member => sourced.samples (sublist.subset member)) enough rfl line

private theorem Sourced.addSample (sourced : Sourced kept calibration) (sample : TimeSample) :
    Sourced (if calibration.config.Admits sample then keptAfter calibration kept sample else kept)
      (calibration.addSample sample).2 := by
  by_cases admitted : calibration.config.Admits sample
  · rw [addSample_of_admits admitted, if_pos admitted]
    exact sourced.absorb.fitIfDue (absorb_valid _ _)
  · rw [addSample_of_not_admits admitted, if_neg admitted]
    exact ⟨sourced.samples, sourced.idle,
      fun valid => (sourced.model valid).mono (List.Subset.refl _) rfl rfl rfl rfl⟩

private theorem sourced_initializeFrom (std : StdSort) (calibration : ClockCalibration)
    (startup : List TimeSample) :
    Sourced (calibration.initializeFrom std startup).2.samples
      (calibration.initializeFrom std startup).2 := by
  have stored := initializeFrom_samples std calibration startup
  have validIff := initializeFrom_valid std calibration startup
  refine ⟨List.Subset.refl _, ?_, ?_⟩
  · intro invalid
    rw [validIff] at invalid
    rw [invalid] at stored
    refine ⟨stored, ?_⟩
    cases phase_initializeFrom std calibration startup with
    | warmingUp _ _ noDrift _ => exact noDrift
    | offsetOnly _ _ noDrift _ => exact noDrift
    | tracking _ valid _ _ =>
        rw [validIff, invalid] at valid
        cases valid
  · intro valid
    rw [validIff] at valid
    have enough := (initializeFrom_true_iff std calibration startup).mp valid
    rw [valid, if_pos rfl] at stored
    obtain ⟨noDrift, unitScale, best, arranged, offset, _⟩ := initializeFrom_of_enough std enough
    refine .offset noDrift unitScale ?_
    intro lower upper bounded
    rw [offset]
    refine median_between ?_ ?_
    · intro none
      have count := length_startupSelection std calibration.config startup
      rw [← arranged.length_eq, List.map_eq_nil_iff.mp none, List.length_nil] at count
      omega
    · intro value inside
      obtain ⟨source, member, rfl⟩ := List.mem_map.mp inside
      exact bounded source (by
        rw [stored]
        exact arranged.mem_iff.mp member)

end Steps

theorem sourced_of_reachable {std : StdSort} {config : Config} {tracked : Tracked}
    (reachable : (calibrationSystem std config).Reachable tracked) :
    Sourced tracked.kept tracked.calibration := by
  refine reachable.invariant (fun state => Sourced state.kept state.calibration) ?_ ?_
  · intro state initial
    rw [initial]
    exact ⟨List.Subset.refl _, fun _ => ⟨rfl, rfl⟩, fun valid => (by cases valid)⟩
  · intro before call after step sourced
    rw [step]
    cases call with
    | initializeFrom samples => exact sourced_initializeFrom std before.calibration samples
    | addSample sample => exact sourced.addSample sample
    | reset => exact ⟨List.Subset.refl _, fun _ => ⟨rfl, rfl⟩, fun valid => (by cases valid)⟩

/-! ### The error of a conversion -/

section Error

variable {line : ClockLine} {bound : ℚ} {kept : List TimeSample} {calibration : ClockCalibration}

/-- The error at a device time, up to the two roundings: what is left grows with the distance
from the centre of the chosen samples, and stays within the bound times the root of their
number between them. -/
structure LineError (line : ClockLine) (bound : ℚ) (chosen : List TimeSample) (origin : Int)
    (macNs unixNs : Int) (miss : ℚ) : Prop where
  rounded : |(unixNs : ℚ) - line.unixAt macNs - miss| ≤ 1
  grows : codeviation (macOffset origin) (macOffset origin) chosen * miss ^ 2 ≤
    bound ^ 2 * (codeviation (macOffset origin) (macOffset origin) chosen +
      chosen.length * ((macNs : ℚ) - origin - mean (macOffset origin) chosen) ^ 2)
  between : ∀ left ∈ chosen, ∀ right ∈ chosen, left.macNs ≤ macNs → macNs ≤ right.macNs →
    miss ^ 2 ≤ chosen.length * bound ^ 2

private theorem offset_error (unitScale : calibration.status.scale = 1)
    (between : ∀ lower upper, (∀ sample ∈ kept, lower ≤ sample.unixNs - sample.macNs ∧
        sample.unixNs - sample.macNs ≤ upper) →
      lower ≤ calibration.status.unixOriginNs - calibration.status.macOriginNs ∧
        calibration.status.unixOriginNs - calibration.status.macOriginNs ≤ upper)
    (near : ∀ sample ∈ kept, line.Near bound sample) {macNs : Int} {reach : ℚ}
    (reached : ∀ sample ∈ kept, |(macNs : ℚ) - sample.macNs| ≤ reach) :
    |(calibration.convert macNs : ℚ) - line.unixAt macNs| ≤ bound + |line.slope - 1| * reach := by
  have offsets : ∀ sample ∈ kept,
      ⌈line.unixAt macNs - macNs - (bound + |line.slope - 1| * reach)⌉ ≤
          sample.unixNs - sample.macNs ∧
        sample.unixNs - sample.macNs ≤
          ⌊line.unixAt macNs - macNs + (bound + |line.slope - 1| * reach)⌋ := by
    intro sample member
    have drifted : |(line.slope - 1) * ((macNs : ℚ) - sample.macNs)| ≤
        |line.slope - 1| * reach := by
      rw [abs_mul]
      exact mul_le_mul_of_nonneg_left (reached sample member) (abs_nonneg _)
    have close := abs_le.mp (near sample member)
    have drift := abs_le.mp drifted
    have moved : line.unixAt macNs - macNs - ((line.slope - 1) * ((macNs : ℚ) - sample.macNs)) =
        line.unixAt sample.macNs - sample.macNs := by
      unfold ClockLine.unixAt
      ring
    rw [Int.ceil_le, Int.le_floor]
    push_cast
    constructor <;> linarith
  obtain ⟨lower, upper⟩ := between _ _ offsets
  rw [Int.ceil_le] at lower
  rw [Int.le_floor] at upper
  have converted : (calibration.convert macNs : ℚ) =
      macNs + ((calibration.status.unixOriginNs - calibration.status.macOriginNs : Int) : ℚ) := by
    unfold convert
    rw [unitScale, applyModel_unit]
    push_cast
    ring
  rw [converted, abs_le]
  constructor <;> linarith

private theorem line_error {chosen : List TimeSample} {origin : TimeSample} (inside : chosen ⊆ kept)
    (macOrigin : calibration.status.macOriginNs = origin.macNs)
    (fitted : fitLine chosen origin.macNs origin.unixNs =
      some (calibration.status.scale, calibration.status.unixOriginNs))
    (near : ∀ sample ∈ kept, line.Near bound sample) (macNs : Int) :
    ∃ miss, LineError line bound chosen origin.macNs macNs (calibration.convert macNs) miss := by
  obtain ⟨spread, regressed, rounded⟩ := fitLine_eq_some fitted
  have nonempty : chosen ≠ [] := fun empty => spread (by rw [empty]; rfl)
  have close : ∀ sample ∈ chosen, |unixOffset origin.unixNs sample -
      (line.unixAt origin.macNs - origin.unixNs) - line.slope * macOffset origin.macNs sample| ≤
        bound := by
    intro sample member
    have same : unixOffset origin.unixNs sample - (line.unixAt origin.macNs - origin.unixNs) -
        line.slope * macOffset origin.macNs sample =
          (sample.unixNs : ℚ) - line.unixAt sample.macNs := by
      unfold unixOffset macOffset ClockLine.unixAt
      push_cast
      ring
    rw [same]
    exact near sample (inside member)
  refine ⟨regressionMiss (macOffset origin.macNs) (unixOffset origin.unixNs) chosen
    calibration.status.scale (line.unixAt origin.macNs - origin.unixNs) line.slope
    ((macNs : ℚ) - origin.macNs), ?_, ?_, ?_⟩
  · have adjusted := abs_le.mp (abs_llround_sub_le
      (originAdjustment chosen origin.macNs origin.unixNs calibration.status.scale))
    have advanced := abs_le.mp (abs_llround_sub_le
      (((macNs - origin.macNs : Int) : ℚ) * calibration.status.scale))
    have converted : (calibration.convert macNs : ℚ) = origin.unixNs +
        llround (originAdjustment chosen origin.macNs origin.unixNs calibration.status.scale) +
          llround (((macNs - origin.macNs : Int) : ℚ) * calibration.status.scale) := by
      unfold convert applyModel
      rw [macOrigin, rounded]
      push_cast
      ring
    rw [converted, abs_le]
    unfold originAdjustment at adjusted
    unfold originAdjustment regressionMiss ClockLine.unixAt
    push_cast at adjusted advanced ⊢
    constructor <;> linarith
  · exact regressionMiss_sq_le nonempty regressed close _
  · intro left leftMember right rightMember above below
    refine regressionMiss_sq_le_of_between leftMember rightMember ?_ ?_ regressed close
    · unfold macOffset
      push_cast
      exact sub_le_sub_right (Int.cast_le.mpr above) _
    · unfold macOffset
      push_cast
      exact sub_le_sub_right (Int.cast_le.mpr below) _

/-- Both kinds of models are near a line that their samples are near. -/
theorem ModelFrom.near_line (model : ModelFrom kept calibration)
    (near : ∀ sample ∈ kept, line.Near bound sample) :
    (calibration.status.driftCalibrated = false → ∀ (macNs : Int) (reach : ℚ),
        (∀ sample ∈ kept, |(macNs : ℚ) - sample.macNs| ≤ reach) →
        |(calibration.convert macNs : ℚ) - line.unixAt macNs| ≤
          bound + |line.slope - 1| * reach) ∧
      (calibration.status.driftCalibrated = true → ∃ chosen origin,
        chosen ⊆ kept ∧ 4 ≤ chosen.length ∧
          codeviation (macOffset origin) (macOffset origin) chosen ≠ 0 ∧
          ∀ macNs, ∃ miss,
            LineError line bound chosen origin macNs (calibration.convert macNs) miss) := by
  cases model with
  | offset noDrift unitScale between =>
      constructor
      · intro _ macNs reach
        exact offset_error unitScale between near
      · intro drift
        rw [noDrift] at drift
        cases drift
  | line chosen origin drift inside enough macOrigin fitted =>
      constructor
      · intro noDrift
        rw [drift] at noDrift
        cases noDrift
      · intro _
        exact ⟨chosen, origin.macNs, inside, enough, (fitLine_eq_some fitted).1,
          line_error inside macOrigin fitted near⟩

end Error

end SflowMiddle.Calibration

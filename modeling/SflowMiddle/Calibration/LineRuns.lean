/-
Runs whose samples all lie on one line: `initialize`, then any number of samples.
Whatever happens to the window, the offset model stays between the offsets of the
samples it was taken from, and an installed regression is the line itself, so the
only tests that can fail are the two step detectors.
-/

import SflowMiddle.Calibration.Agreement
import SflowMiddle.Calibration.ExactLine

namespace SflowMiddle.Calibration

open SflowMiddle.Foundation
open ClockCalibration

def addSamples (calibration : ClockCalibration) (samples : List TimeSample) : ClockCalibration :=
  samples.foldl (fun current sample => (current.addSample sample).2) calibration

theorem addSamples_concat (calibration : ClockCalibration) (samples : List TimeSample)
    (sample : TimeSample) :
    addSamples calibration (samples ++ [sample]) =
      ((addSamples calibration samples).addSample sample).2 := by
  unfold addSamples
  rw [List.foldl_append]
  rfl

@[simp]
theorem addSamples_config (calibration : ClockCalibration) (samples : List TimeSample) :
    (addSamples calibration samples).config = calibration.config := by
  induction samples generalizing calibration with
  | nil => rfl
  | cons sample rest ih => exact (ih (calibration.addSample sample).2).trans (addSample_config _ _)

theorem singleton_split {only sample : TimeSample} {before after : List TimeSample}
    (split : [only] = before ++ sample :: after) : before = [] ∧ sample = only := by
  cases before with
  | nil => exact ⟨rfl, (List.cons.inj split).1.symm⟩
  | cons head tail =>
      have lengths := congrArg List.length split
      simp at lengths

theorem applyModel_unit (macNs macOrigin unixOrigin : Int) :
    applyModel macNs macOrigin unixOrigin 1 = unixOrigin + (macNs - macOrigin) := by
  unfold applyModel
  rw [mul_one, llround_intCast]

/-- The calibration after the samples of `history`, whose offset model, as long as no
regression replaced it, was taken from the samples of `anchors`. -/
structure Follows (line : ClockLine) (history anchors : List TimeSample)
    (calibration : ClockCalibration) : Prop where
  valid : calibration.status.valid = true
  within : ∀ sample ∈ calibration.samples, sample ∈ history
  last : ∀ newest, history.getLast? = some newest →
    calibration.lastMacNs = newest.macNs ∧ calibration.lastUnixNs = newest.unixNs ∧
      calibration.lastMonotonicNs = newest.monotonicNs
  exact : calibration.status.driftCalibrated = true →
    ∀ macNs unixNs, line.Through macNs unixNs → calibration.convert macNs = unixNs
  offset : calibration.status.driftCalibrated = false →
    ∀ lower upper, (∀ sample ∈ anchors, lower ≤ sample.unixNs - sample.macNs ∧
        sample.unixNs - sample.macNs ≤ upper) →
      ∀ macNs, lower ≤ calibration.convert macNs - macNs ∧
        calibration.convert macNs - macNs ≤ upper

/-! ### Startup -/

theorem initializeFrom_of_enough (std : StdSort) {calibration : ClockCalibration}
    {startup : List TimeSample}
    (enough : 4 ≤ (startup.filter fun sample => calibration.config.Admits sample).length) :
    (calibration.initializeFrom std startup).2.status.driftCalibrated = false ∧
      (calibration.initializeFrom std startup).2.status.scale = 1 ∧
      ∃ best : List TimeSample, best.Perm (startupSelection std calibration.config startup) ∧
        (calibration.initializeFrom std startup).2.status.unixOriginNs -
            (calibration.initializeFrom std startup).2.status.macOriginNs =
          median (best.map fun sample => sample.unixNs - sample.macNs) ∧
        ∀ newest, (startupSelection std calibration.config startup).getLast? = some newest →
          (calibration.initializeFrom std startup).2.lastMacNs = newest.macNs ∧
            (calibration.initializeFrom std startup).2.lastUnixNs = newest.unixNs ∧
            (calibration.initializeFrom std startup).2.lastMonotonicNs = newest.monotonicNs := by
  unfold initializeFrom
  dsimp only
  rw [if_neg (not_lt.mpr enough)]
  refine ⟨rfl, rfl, _, (std.perm TimeSample.monotonicNs _).symm, ?_, ?_⟩
  · exact add_sub_cancel_left _ _
  · intro newest last
    have nonempty : startupSelection std calibration.config startup ≠ [] := by
      intro none
      rw [none] at last
      cases last
    have same := Option.some.inj ((getLast?_eq_getLastD nonempty).symm.trans last)
    rw [← same]
    exact ⟨rfl, rfl, rfl⟩

theorem follows_initializeFrom {std : StdSort} {calibration : ClockCalibration}
    {line : ClockLine} {startup : List TimeSample}
    (enough : 4 ≤ (startup.filter fun sample => calibration.config.Admits sample).length) :
    Follows line (startupSelection std calibration.config startup)
      (startupSelection std calibration.config startup)
      (calibration.initializeFrom std startup).2 := by
  have started := (initializeFrom_true_iff std calibration startup).mpr enough
  have stored := initializeFrom_samples std calibration startup
  rw [started, if_pos rfl] at stored
  obtain ⟨noDrift, unitScale, best, arranged, offset, last⟩ :=
    initializeFrom_of_enough std enough
  constructor
  · exact (initializeFrom_valid std calibration startup).trans started
  · intro sample member
    rw [stored] at member
    exact member
  · exact last
  · intro drift
    rw [noDrift] at drift
    cases drift
  · intro _ lower upper bounded macNs
    have nonempty : best.map (fun sample => sample.unixNs - sample.macNs) ≠ [] := by
      intro none
      have count := length_startupSelection std calibration.config startup
      rw [← arranged.length_eq, List.map_eq_nil_iff.mp none, List.length_nil] at count
      omega
    have middle := median_between nonempty (by
      intro value inside
      obtain ⟨source, member, same⟩ := List.mem_map.mp inside
      rw [← same]
      exact bounded source (arranged.mem_iff.mp member))
    unfold convert
    rw [unitScale, applyModel_unit]
    omega

/-! ### One sample of the line -/

private theorem absorb_samples_suffix (calibration : ClockCalibration) (sample : TimeSample) :
    ∃ earlier, earlier ⊆ calibration.samples ∧
      (calibration.absorb sample).samples <:+ earlier ++ [sample] := by
  unfold absorb
  split
  · exact ⟨calibration.samples, List.Subset.refl _, List.dropWhile_suffix _⟩
  · split
    · exact ⟨[], List.nil_subset _, List.dropWhile_suffix _⟩
    · exact ⟨calibration.samples, List.Subset.refl _, List.dropWhile_suffix _⟩

theorem mem_absorb {calibration : ClockCalibration} {sample item : TimeSample}
    (member : item ∈ (calibration.absorb sample).samples) :
    item ∈ calibration.samples ∨ item = sample := by
  obtain ⟨earlier, inside, shape⟩ := absorb_samples_suffix calibration sample
  rcases List.mem_append.mp (shape.subset member) with early | same
  · exact Or.inl (inside early)
  · exact Or.inr (List.mem_singleton.mp same)

private theorem absorb_spread (calibration : ClockCalibration) (sample : TimeSample)
    (several : 2 ≤ (calibration.absorb sample).samples.length) :
    sample ∈ (calibration.absorb sample).samples ∧
      ∃ older ∈ (calibration.absorb sample).samples, older ∈ calibration.samples := by
  obtain ⟨earlier, inside, shape⟩ := absorb_samples_suffix calibration sample
  rcases List.suffix_concat_iff.mp shape with none | ⟨front, split, frontSuffix⟩
  · rw [none, List.length_nil] at several
    omega
  · rw [split, List.length_append, List.length_singleton] at several
    obtain ⟨older, member⟩ := List.exists_mem_of_length_pos (by omega : 0 < front.length)
    rw [split]
    exact ⟨List.mem_append_right _ (List.mem_singleton_self _), older,
      List.mem_append_left _ member, inside (frontSuffix.subset member)⟩

variable {line : ClockLine} {history anchors : List TimeSample} {calibration : ClockCalibration}
  {sample : TimeSample}

/-- Where the offset model of the next state comes from. -/
def anchorsAfter (calibration : ClockCalibration) (anchors : List TimeSample)
    (sample : TimeSample) : List TimeSample :=
  if calibration.ReanchorsOn sample then [sample] else anchors

private theorem Follows.absorb (follows : Follows line history anchors calibration) :
    Follows line (history ++ [sample]) (anchorsAfter calibration anchors sample)
      (calibration.absorb sample) := by
  have valid := follows.valid
  have within : ∀ item ∈ (calibration.absorb sample).samples, item ∈ history ++ [sample] := by
    intro item member
    rcases mem_absorb member with early | same
    · exact List.mem_append_left _ (follows.within item early)
    · rw [same]
      exact List.mem_append_right _ (List.mem_singleton_self _)
  have last : ∀ newest, (history ++ [sample]).getLast? = some newest →
      (calibration.absorb sample).lastMacNs = newest.macNs ∧
        (calibration.absorb sample).lastUnixNs = newest.unixNs ∧
        (calibration.absorb sample).lastMonotonicNs = newest.monotonicNs := by
    intro newest newestLast
    rw [List.getLast?_append] at newestLast
    rw [← Option.some.inj newestLast]
    exact absorb_last calibration sample
  by_cases steps : calibration.ReanchorsOn sample
  · have notInvalid : calibration.status.valid ≠ false := by
      rw [valid]
      decide
    obtain ⟨_, _, macOrigin, unixOrigin, unitScale, _, noDrift⟩ :=
      absorb_anchored (fun invalid => absurd invalid notInvalid) (Or.inr steps)
    refine ⟨absorb_valid calibration sample, within, last, ?_, ?_⟩
    · intro drift
      rw [noDrift (fun invalid => absurd invalid notInvalid)] at drift
      cases drift
    · intro _ lower upper bounded macNs
      unfold anchorsAfter at bounded
      rw [if_pos steps] at bounded
      have middle := bounded sample (List.mem_singleton_self _)
      unfold convert
      rw [unitScale, macOrigin, unixOrigin, applyModel_unit]
      omega
  · have keeps : ¬ Anchors calibration sample := (anchors_iff_of_valid valid).not.mpr steps
    refine ⟨absorb_valid calibration sample, within, last, ?_, ?_⟩
    · rw [absorb_kept keeps]
      exact follows.exact
    · rw [absorb_kept keeps]
      unfold anchorsAfter
      rw [if_neg steps]
      exact follows.offset

theorem Follows.fit_exact (follows : Follows line history anchors calibration)
    (carried : ∀ item ∈ history ++ [sample], line.Carries item)
    (newer : ∀ item ∈ history, item.macNs < sample.macNs)
    (bounded : |line.slope - 1| * 1000000 ≤ calibration.config.maximumDriftPpm)
    (due : (calibration.absorb sample).FitDue) :
    ∃ front, (calibration.absorb sample).samples.head? = some front ∧
      (calibration.absorb sample).fitIfDue =
        { calibration.absorb sample with
          status :=
            { (calibration.absorb sample).status with
              macOriginNs := front.macNs
              unixOriginNs := front.unixNs
              scale := line.slope
              medianResidualNs := 0
              sampleCount := (calibration.absorb sample).samples.length
              driftCalibrated := true
              sampleSpanNs := spanNs (calibration.absorb sample).samples
              state := .tracking } } := by
  have enough := due.1
  have within : ∀ item ∈ (calibration.absorb sample).samples, line.Carries item := by
    intro item member
    exact carried item (follows.absorb.within item member)
  obtain ⟨newest, older, olderMember, olderKept⟩ :=
    absorb_spread calibration sample (by omega)
  have apart : older.macNs ≠ sample.macNs :=
    ne_of_lt (newer older (follows.within older olderKept))
  obtain ⟨front, frontHead, fitted⟩ := Calibration.fit_exact within (by omega) olderMember newest
    apart (by rw [absorb_config]; exact bounded)
  exact ⟨front, frontHead, fitIfDue_of_fit due fitted⟩

theorem Follows.addSample (follows : Follows line history anchors calibration)
    (admitted : calibration.config.Admits sample)
    (carried : ∀ item ∈ history ++ [sample], line.Carries item)
    (newer : ∀ item ∈ history, item.macNs < sample.macNs)
    (bounded : |line.slope - 1| * 1000000 ≤ calibration.config.maximumDriftPpm) :
    Follows line (history ++ [sample]) (anchorsAfter calibration anchors sample)
      (calibration.addSample sample).2 := by
  have absorbed : Follows line (history ++ [sample]) (anchorsAfter calibration anchors sample)
      (calibration.absorb sample) := follows.absorb
  rw [addSample_of_admits admitted]
  by_cases due : (calibration.absorb sample).FitDue
  · obtain ⟨front, frontHead, installed⟩ := follows.fit_exact carried newer bounded due
    have origin : line.Carries front :=
      carried front (absorbed.within front (List.mem_of_head? frontHead))
    dsimp only
    rw [installed]
    refine ⟨absorbed.valid, absorbed.within, absorbed.last, ?_, ?_⟩
    · intro _ macNs unixNs point
      exact applyModel_through origin point
    · intro impossible
      cases impossible
  · have unchanged : (calibration.absorb sample).fitIfDue = calibration.absorb sample := by
      unfold fitIfDue
      exact if_neg due
    dsimp only
    rw [unchanged]
    exact absorbed

end SflowMiddle.Calibration

/-
The robust fit on samples that already lie on a line. Both least-squares passes
return that line, every residual is zero, so the residual filter keeps the whole
window and the installed model maps the integer points of the line exactly.
-/

import SflowMiddle.Calibration.Runs
import SflowMiddle.Foundation.LeastSquares

namespace SflowMiddle.Calibration

open SflowMiddle.Foundation
open ClockCalibration

/-- Unix time `unixOrigin + slope * (mac - macOrigin)`, over the rationals. -/
structure ClockLine where
  macOrigin : ℚ
  unixOrigin : ℚ
  slope : ℚ

def ClockLine.Through (line : ClockLine) (macNs unixNs : Int) : Prop :=
  (unixNs : ℚ) = line.unixOrigin + line.slope * ((macNs : ℚ) - line.macOrigin)

def ClockLine.Carries (line : ClockLine) (sample : TimeSample) : Prop :=
  line.Through sample.macNs sample.unixNs

theorem ClockLine.Through.elapsed {line : ClockLine} {mac unix macNs unixNs : Int}
    (origin : line.Through mac unix) (point : line.Through macNs unixNs) :
    ((unixNs - unix : Int) : ℚ) = line.slope * ((macNs - mac : Int) : ℚ) := by
  unfold ClockLine.Through at origin point
  push_cast
  rw [origin, point]
  ring

theorem applyModel_through {line : ClockLine} {mac unix macNs unixNs : Int}
    (origin : line.Through mac unix) (point : line.Through macNs unixNs) :
    applyModel macNs mac unix line.slope = unixNs := by
  unfold applyModel
  rw [mul_comm, ← origin.elapsed point, llround_intCast]
  omega

private theorem median_of_constant {values : List Int} {value : Int} (nonempty : values ≠ [])
    (constant : ∀ item ∈ values, item = value) : median values = value := by
  have inside : 0 < values.length := List.length_pos_iff.mpr nonempty
  have upper : nthElement values (values.length / 2) = value :=
    constant _ (nthElement_mem _ (by omega))
  have lower : nthElement values (values.length / 2 - 1) = value :=
    constant _ (nthElement_mem _ (by omega))
  unfold median
  rw [if_neg (by simpa using nonempty)]
  dsimp only
  rw [upper, lower]
  simp [midpoint, truncMidpoint]

theorem median_of_majority {values : List Int} {lower upper : Int}
    (majority : values.length <
      2 * values.countP (fun value => lower ≤ value ∧ value ≤ upper)) :
    lower ≤ median values ∧ median values ≤ upper := by
  have count : values.countP (fun value => lower ≤ value ∧ value ≤ upper) ≤ values.length :=
    List.countP_le_length
  have nonempty : values ≠ [] := by
    intro empty
    rw [empty, List.countP_nil] at majority
    exact absurd majority (by decide)
  have above := @nthElement_between values lower upper (values.length / 2) (by omega) (by omega)
  unfold median
  rw [if_neg (by simpa using nonempty)]
  dsimp only
  split
  · exact above
  · rename_i even
    exact truncMidpoint_between (nthElement_between (by omega) (by omega)) above

theorem median_between {values : List Int} {lower upper : Int} (nonempty : values ≠ [])
    (bounded : ∀ item ∈ values, lower ≤ item ∧ item ≤ upper) :
    lower ≤ median values ∧ median values ≤ upper := by
  have inside : 0 < values.length := List.length_pos_iff.mpr nonempty
  have everyone : values.countP (fun value => lower ≤ value ∧ value ≤ upper) = values.length :=
    List.countP_eq_length.mpr (by simpa using bounded)
  exact median_of_majority (by omega)

/-! ### The two regressions -/

def macOffset (origin : Int) (sample : TimeSample) : ℚ := ((sample.macNs - origin : Int) : ℚ)

def unixOffset (origin : Int) (sample : TimeSample) : ℚ := ((sample.unixNs - origin : Int) : ℚ)

theorem fitLine_eq (samples : List TimeSample) (macOrigin unixOrigin : Int) :
    fitLine samples macOrigin unixOrigin =
      if samples.length < 2 then none
      else if codeviation (macOffset macOrigin) (macOffset macOrigin) samples = 0 then none
      else
        some
          (codeviation (macOffset macOrigin) (unixOffset unixOrigin) samples /
              codeviation (macOffset macOrigin) (macOffset macOrigin) samples,
            unixOrigin + llround (mean (unixOffset unixOrigin) samples -
              codeviation (macOffset macOrigin) (unixOffset unixOrigin) samples /
                codeviation (macOffset macOrigin) (macOffset macOrigin) samples *
                mean (macOffset macOrigin) samples)) :=
  rfl

theorem two_le_length {samples : List TimeSample} {left right : TimeSample}
    (leftMember : left ∈ samples) (rightMember : right ∈ samples)
    (apart : left.macNs ≠ right.macNs) : 2 ≤ samples.length := by
  cases samples with
  | nil => cases leftMember
  | cons head tail =>
      cases tail with
      | nil =>
          rw [List.mem_singleton.mp leftMember, List.mem_singleton.mp rightMember] at apart
          exact absurd rfl apart
      | cons second others =>
          rw [List.length_cons, List.length_cons]
          omega

variable {line : ClockLine} {samples : List TimeSample}

private theorem fitLine_exact {mac unix : Int} {left right : TimeSample}
    (carried : ∀ sample ∈ samples, line.Carries sample) (origin : line.Through mac unix)
    (leftMember : left ∈ samples) (rightMember : right ∈ samples)
    (apart : left.macNs ≠ right.macNs) :
    fitLine samples mac unix = some (line.slope, unix) := by
  have several : ¬ samples.length < 2 := not_lt.mpr (two_le_length leftMember rightMember apart)
  have proportional : ∀ sample ∈ samples,
      unixOffset unix sample = line.slope * macOffset mac sample :=
    fun sample member => origin.elapsed (carried sample member)
  have spread : codeviation (macOffset mac) (macOffset mac) samples ≠ 0 := by
    apply codeviation_self_ne_zero leftMember rightMember
    intro same
    unfold macOffset at same
    have equal : left.macNs - mac = right.macNs - mac := by exact_mod_cast same
    omega
  rw [fitLine_eq, if_neg several, if_neg spread, slope_proportional proportional spread,
    mean_proportional proportional, sub_self, llround_zero, add_zero]

private theorem residual_exact {mac unix : Int} {sample : TimeSample}
    (origin : line.Through mac unix)
    (carried : line.Carries sample) :
    ClockCalibration.residual mac unix line.slope sample = 0 := by
  unfold ClockCalibration.residual
  rw [applyModel_through origin carried, sub_self]

private theorem inliers_exact {mac unix : Int} (carried : ∀ sample ∈ samples, line.Carries sample)
    (origin : line.Through mac unix) : inliers samples mac unix line.slope = samples := by
  unfold inliers
  apply List.filter_eq_self.mpr
  intro sample member
  have zero : ∀ value ∈ samples.map (ClockCalibration.residual mac unix line.slope), value = 0 := by
    intro value inside
    obtain ⟨source, sourceMember, same⟩ := List.mem_map.mp inside
    rw [← same]
    exact residual_exact origin (carried source sourceMember)
  have center := median_of_constant
    (List.ne_nil_of_mem (List.mem_map.mpr ⟨sample, member, rfl⟩)) zero
  rw [center, residual_exact origin (carried sample member), sub_zero, abs_zero]
  exact decide_eq_true ((by decide : (0 : Int) ≤ 50000).trans (le_max_left _ _))

/-- On a window of at least four samples on one line, with two distinct device times and a
slope within the drift limit, the fit installs exactly that line. -/
theorem fit_exact {calibration : ClockCalibration} {left right : TimeSample}
    (carried : ∀ sample ∈ calibration.samples, line.Carries sample)
    (enough : 4 ≤ calibration.samples.length)
    (leftMember : left ∈ calibration.samples) (rightMember : right ∈ calibration.samples)
    (apart : left.macNs ≠ right.macNs)
    (bounded : |line.slope - 1| * 1000000 ≤ calibration.config.maximumDriftPpm) :
    ∃ front, calibration.samples.head? = some front ∧
      calibration.fit =
        some
          { calibration with
            status :=
              { calibration.status with
                macOriginNs := front.macNs
                unixOriginNs := front.unixNs
                scale := line.slope
                medianResidualNs := 0
                sampleCount := calibration.samples.length
                driftCalibrated := true
                sampleSpanNs := spanNs calibration.samples
                state := .tracking } } := by
  obtain ⟨front, frontHead⟩ : ∃ front, calibration.samples.head? = some front := by
    cases shape : calibration.samples with
    | nil => rw [shape] at leftMember; cases leftMember
    | cons head tail => exact ⟨head, rfl⟩
  have origin : line.Through front.macNs front.unixNs :=
    carried front (List.mem_of_head? frontHead)
  have fitted := fitLine_exact carried origin leftMember rightMember apart
  have everything := inliers_exact carried origin
  have within : ¬ |(line.slope - 1) * 1000000| > calibration.config.maximumDriftPpm := by
    rw [abs_mul]
    simpa using bounded
  have residuals : median (calibration.samples.map fun sample =>
      |ClockCalibration.residual front.macNs front.unixNs line.slope sample|) = 0 := by
    apply median_of_constant
    · exact List.ne_nil_of_mem (List.mem_map.mpr ⟨left, leftMember, rfl⟩)
    · intro value inside
      obtain ⟨source, sourceMember, same⟩ := List.mem_map.mp inside
      rw [← same, residual_exact origin (carried source sourceMember), abs_zero]
  refine ⟨front, frontHead, ?_⟩
  unfold ClockCalibration.fit
  simp only [frontHead, fitted, everything, Option.bind_eq_bind, Option.bind_some,
    if_neg (not_lt.mpr enough), if_neg within, residuals]

end SflowMiddle.Calibration

/-
Least squares over an ordered field, for any items with two coordinates. The slope
of a line through the data is the co-deviation of the coordinates over the
deviation of the first one. That line, through the centre of the data, is the only
one of least squared error; on data that already lies on a line it is that line,
unless all first coordinates coincide.
-/

import Mathlib.Algebra.Order.BigOperators.Group.List
import Mathlib.Algebra.Order.Field.Basic
import Mathlib.Tactic

namespace SflowMiddle.Foundation

variable {Item K : Type} [Field K]

def mean (coordinate : Item → K) (items : List Item) : K :=
  (items.map coordinate).sum / items.length

def codeviation (first second : Item → K) (items : List Item) : K :=
  (items.map fun item =>
    (first item - mean first items) * (second item - mean second items)).sum

private theorem sum_proportional {first second : Item → K} {slope : K} {items : List Item}
    (proportional : ∀ item ∈ items, second item = slope * first item) :
    (items.map second).sum = slope * (items.map first).sum := by
  rw [List.map_congr_left proportional, List.sum_map_mul_left]

theorem mean_proportional {first second : Item → K} {slope : K} {items : List Item}
    (proportional : ∀ item ∈ items, second item = slope * first item) :
    mean second items = slope * mean first items := by
  unfold mean
  rw [sum_proportional proportional, mul_div_assoc]

private theorem codeviation_proportional {first second : Item → K} {slope : K} {items : List Item}
    (proportional : ∀ item ∈ items, second item = slope * first item) :
    codeviation first second items = slope * codeviation first first items := by
  apply sum_proportional
  intro item member
  rw [proportional item member, mean_proportional proportional]
  ring

theorem slope_proportional {first second : Item → K} {slope : K} {items : List Item}
    (proportional : ∀ item ∈ items, second item = slope * first item)
    (spread : codeviation first first items ≠ 0) :
    codeviation first second items / codeviation first first items = slope := by
  rw [codeviation_proportional proportional]
  exact mul_div_cancel_right₀ slope spread

/-! ### Lines through the data -/

def squaredError (first second : Item → K) (items : List Item) (intercept slope : K) : K :=
  (items.map fun item => (second item - intercept - slope * first item) ^ 2).sum

private theorem squaredError_shift {first second shiftedFirst shiftedSecond : Item → K}
    {right up : K}
    (firstShifted : ∀ item, shiftedFirst item = first item + right)
    (secondShifted : ∀ item, shiftedSecond item = second item + up)
    (items : List Item) (intercept slope : K) :
    squaredError shiftedFirst shiftedSecond items intercept slope =
      squaredError first second items (intercept + slope * right - up) slope := by
  unfold squaredError
  apply congrArg List.sum
  apply List.map_congr_left
  intro item _
  rw [firstShifted, secondShifted]
  ring

private theorem squaredError_perm {items permuted : List Item} (same : items.Perm permuted)
    (first second : Item → K) (intercept slope : K) :
    squaredError first second permuted intercept slope =
      squaredError first second items intercept slope :=
  (same.map _).sum_eq.symm

/-- How far the regression line is from another one at a position. -/
def regressionMiss (first second : Item → K) (items : List Item) (slope intercept other : K)
    (position : K) : K :=
  mean second items + slope * (position - mean first items) - (intercept + other * position)

private theorem regressionMiss_eq (first second : Item → K) (items : List Item)
    (slope intercept other position : K) :
    regressionMiss first second items slope intercept other position =
      (mean second items - intercept - other * mean first items) +
        (slope - other) * (position - mean first items) := by
  unfold regressionMiss
  ring

variable [LinearOrder K]

/-- No other line has as small a squared error. -/
structure LeastSquaresLine (first second : Item → K) (items : List Item) (intercept slope : K) :
    Prop where
  least : ∀ other otherSlope,
    squaredError first second items intercept slope ≤
      squaredError first second items other otherSlope
  only : ∀ other otherSlope,
    squaredError first second items other otherSlope =
        squaredError first second items intercept slope →
      other = intercept ∧ otherSlope = slope

section Uniqueness

variable {first second : Item → K} {items : List Item} {intercept slope : K}

theorem LeastSquaresLine.unique {other otherSlope : K}
    (line : LeastSquaresLine first second items intercept slope)
    (otherLine : LeastSquaresLine first second items other otherSlope) :
    other = intercept ∧ otherSlope = slope :=
  line.only other otherSlope (le_antisymm (otherLine.least intercept slope)
    (line.least other otherSlope))

theorem LeastSquaresLine.perm {permuted : List Item} (same : items.Perm permuted)
    (line : LeastSquaresLine first second items intercept slope) :
    LeastSquaresLine first second permuted intercept slope := by
  constructor
  · intro other otherSlope
    rw [squaredError_perm same, squaredError_perm same]
    exact line.least other otherSlope
  · intro other otherSlope equal
    rw [squaredError_perm same, squaredError_perm same] at equal
    exact line.only other otherSlope equal

/-- The line seen from other origins. -/
theorem LeastSquaresLine.shift {shiftedFirst shiftedSecond : Item → K} {right up : K}
    (firstShifted : ∀ item, shiftedFirst item = first item + right)
    (secondShifted : ∀ item, shiftedSecond item = second item + up)
    (line : LeastSquaresLine first second items intercept slope) :
    LeastSquaresLine shiftedFirst shiftedSecond items (intercept - slope * right + up) slope := by
  have error := squaredError_shift firstShifted secondShifted items
  have back : intercept - slope * right + up + slope * right - up = intercept := by ring
  constructor
  · intro other otherSlope
    rw [error, error, back]
    exact line.least _ otherSlope
  · intro other otherSlope equal
    rw [error, error, back] at equal
    obtain ⟨sameIntercept, sameSlope⟩ := line.only _ otherSlope equal
    rw [← sameIntercept, sameSlope]
    exact ⟨by ring, rfl⟩

end Uniqueness

variable [IsStrictOrderedRing K]

private theorem length_mul_mean {coordinate : Item → K} {items : List Item}
    (nonempty : items ≠ []) :
    (items.length : K) * mean coordinate items = (items.map coordinate).sum := by
  have count : (items.length : K) ≠ 0 :=
    Nat.cast_ne_zero.mpr (List.length_pos_iff.mpr nonempty).ne'
  exact mul_div_cancel₀ _ count

private theorem mean_constant {coordinate : Item → K} {value : K} {items : List Item}
    (nonempty : items ≠ []) (constant : ∀ item ∈ items, coordinate item = value) :
    mean coordinate items = value := by
  have count : (items.length : K) ≠ 0 :=
    Nat.cast_ne_zero.mpr (List.length_pos_iff.mpr nonempty).ne'
  apply mul_left_cancel₀ count
  rw [length_mul_mean nonempty, List.map_congr_left constant, List.map_const',
    List.sum_replicate, nsmul_eq_mul]

theorem mean_between (coordinate : Item → K) (lower upper : K) {items : List Item}
    (nonempty : items ≠ [])
    (bounded : ∀ item ∈ items, lower ≤ coordinate item ∧ coordinate item ≤ upper) :
    lower ≤ mean coordinate items ∧ mean coordinate items ≤ upper := by
  have count : (0 : K) < items.length := Nat.cast_pos.mpr (List.length_pos_iff.mpr nonempty)
  have least := List.card_nsmul_le_sum (items.map coordinate) lower (by
    intro value member
    obtain ⟨item, itemMember, rfl⟩ := List.mem_map.mp member
    exact (bounded item itemMember).1)
  have most := List.sum_le_card_nsmul (items.map coordinate) upper (by
    intro value member
    obtain ⟨item, itemMember, rfl⟩ := List.mem_map.mp member
    exact (bounded item itemMember).2)
  rw [List.length_map, nsmul_eq_mul, mul_comm] at least most
  exact ⟨(le_div_iff₀ count).mpr least, (div_le_iff₀ count).mpr most⟩

private theorem deviation_squares_nonneg (first : Item → K) (items : List Item) :
    ∀ value ∈ items.map fun item =>
      (first item - mean first items) * (first item - mean first items), 0 ≤ value := by
  intro value inside
  obtain ⟨item, _, same⟩ := List.mem_map.mp inside
  rw [← same]
  exact mul_self_nonneg _

private theorem codeviation_self_nonneg (first : Item → K) (items : List Item) :
    0 ≤ codeviation first first items :=
  List.sum_nonneg (deviation_squares_nonneg first items)

theorem eq_mean_of_codeviation_self {first : Item → K} {items : List Item}
    (flat : codeviation first first items = 0) :
    ∀ item ∈ items, first item = mean first items := by
  intro item member
  have zero := List.all_zero_of_le_zero_le_of_sum_eq_zero (deviation_squares_nonneg first items)
    flat (List.mem_map.mpr ⟨item, member, rfl⟩)
  exact sub_eq_zero.mp (mul_self_eq_zero.mp zero)

theorem codeviation_self_ne_zero {first : Item → K} {items : List Item} {left right : Item}
    (leftMember : left ∈ items) (rightMember : right ∈ items)
    (apart : first left ≠ first right) : codeviation first first items ≠ 0 := by
  intro flat
  apply apart
  rw [eq_mean_of_codeviation_self flat left leftMember,
    eq_mean_of_codeviation_self flat right rightMember]

/-! ### The regression line -/

private theorem sum_deviation {coordinate : Item → K} {items : List Item} (nonempty : items ≠ []) :
    (items.map fun item => coordinate item - mean coordinate items).sum = 0 := by
  simp only [sub_eq_add_neg, List.sum_map_add, List.map_const', List.sum_replicate,
    nsmul_eq_mul, mul_neg, length_mul_mean nonempty, add_neg_cancel]

private theorem squaredError_eq {first second : Item → K} {items : List Item}
    (nonempty : items ≠ [])
    (intercept slope : K) :
    squaredError first second items intercept slope =
      codeviation second second items - 2 * slope * codeviation first second items +
        slope ^ 2 * codeviation first first items +
        items.length * (mean second items - intercept - slope * mean first items) ^ 2 := by
  obtain ⟨miss, missIs⟩ : ∃ miss,
    miss = mean second items - intercept - slope * mean first items := ⟨_, rfl⟩
  have expand : ∀ item, (second item - intercept - slope * first item) ^ 2 =
      (second item - mean second items) * (second item - mean second items) +
        (-(2 * slope) * ((first item - mean first items) * (second item - mean second items)) +
        (slope ^ 2 * ((first item - mean first items) * (first item - mean first items)) +
        (2 * miss * (second item - mean second items) +
        (-(2 * miss * slope) * (first item - mean first items) + miss ^ 2)))) := by
    intro item
    rw [missIs]
    ring
  unfold squaredError
  rw [← missIs]
  simp only [expand, List.sum_map_add, List.sum_map_mul_left, sum_deviation nonempty,
    List.map_const', List.sum_replicate, nsmul_eq_mul]
  unfold codeviation
  ring

section Regression

variable {first second : Item → K} {items : List Item} {slope : K}

/-- What another line loses against the regression line: the difference of the slopes times
the spread, and how far it misses the centre of the data. -/
private theorem squaredError_regression (nonempty : items ≠ [])
    (regressed : codeviation first second items = slope * codeviation first first items)
    (intercept other : K) :
    squaredError first second items intercept other =
      squaredError first second items (mean second items - slope * mean first items) slope +
        ((other - slope) ^ 2 * codeviation first first items +
          items.length * (mean second items - intercept - other * mean first items) ^ 2) := by
  rw [squaredError_eq nonempty, squaredError_eq nonempty, regressed]
  ring

/-- The regression line is the line of least squares. -/
theorem leastSquaresLine_regression (spread : codeviation first first items ≠ 0)
    (regressed : codeviation first second items = slope * codeviation first first items) :
    LeastSquaresLine first second items (mean second items - slope * mean first items) slope := by
  have nonempty : items ≠ [] := fun empty => spread (by rw [empty]; rfl)
  have positive : 0 < codeviation first first items :=
    lt_of_le_of_ne (codeviation_self_nonneg first items) (Ne.symm spread)
  have count : (0 : K) < items.length := Nat.cast_pos.mpr (List.length_pos_iff.mpr nonempty)
  have slopeLoss : ∀ other : K, 0 ≤ (other - slope) ^ 2 * codeviation first first items :=
    fun other => mul_nonneg (sq_nonneg _) positive.le
  have centreLoss : ∀ intercept other : K, 0 ≤
      items.length * (mean second items - intercept - other * mean first items) ^ 2 :=
    fun intercept other => mul_nonneg count.le (sq_nonneg _)
  constructor
  · intro intercept other
    rw [squaredError_regression nonempty regressed intercept other]
    exact le_add_of_nonneg_right (add_nonneg (slopeLoss other) (centreLoss intercept other))
  · intro intercept other equal
    rw [squaredError_regression nonempty regressed intercept other] at equal
    obtain ⟨noSlopeLoss, noCentreLoss⟩ :=
      (add_eq_zero_iff_of_nonneg (slopeLoss other) (centreLoss intercept other)).mp
        (add_eq_left.mp equal)
    have sameSlope : other = slope :=
      sub_eq_zero.mp (pow_eq_zero_iff two_ne_zero |>.mp
        ((mul_eq_zero.mp noSlopeLoss).resolve_right spread))
    have centred : mean second items - intercept - other * mean first items = 0 :=
      pow_eq_zero_iff two_ne_zero |>.mp ((mul_eq_zero.mp noCentreLoss).resolve_left count.ne')
    refine ⟨?_, sameSlope⟩
    rw [sameSlope] at centred
    linear_combination -centred

end Regression

/-! ### Data near a line -/

section Near

variable {first second : Item → K} {items : List Item} {slope intercept other bound : K}

private theorem squaredError_le_of_near
    (near : ∀ item ∈ items, |second item - intercept - other * first item| ≤ bound) :
    squaredError first second items intercept other ≤ items.length * bound ^ 2 := by
  have each := List.sum_le_card_nsmul
    (items.map fun item => (second item - intercept - other * first item) ^ 2) (bound ^ 2) (by
      intro value member
      obtain ⟨item, itemMember, rfl⟩ := List.mem_map.mp member
      exact sq_le_sq' (abs_le.mp (near item itemMember)).1 (abs_le.mp (near item itemMember)).2)
  rwa [List.length_map, nsmul_eq_mul] at each

private theorem squaredError_nonneg (first second : Item → K) (items : List Item)
    (intercept slope : K) : 0 ≤ squaredError first second items intercept slope := by
  refine List.sum_nonneg ?_
  intro value member
  obtain ⟨item, _, rfl⟩ := List.mem_map.mp member
  exact sq_nonneg _

private theorem regression_near (nonempty : items ≠ [])
    (regressed : codeviation first second items = slope * codeviation first first items)
    (near : ∀ item ∈ items, |second item - intercept - other * first item| ≤ bound) :
    (slope - other) ^ 2 * codeviation first first items +
        items.length * (mean second items - intercept - other * mean first items) ^ 2 ≤
      items.length * bound ^ 2 := by
  have lost := squaredError_regression nonempty regressed intercept other
  have small := squaredError_le_of_near near
  have least := squaredError_nonneg first second items
    (mean second items - slope * mean first items) slope
  have symmetric : (other - slope) ^ 2 = (slope - other) ^ 2 := by ring
  rw [symmetric] at lost
  linarith

/-- At any position the miss grows with the distance from the centre of the data, measured by
its spread. -/
theorem regressionMiss_sq_le (nonempty : items ≠ [])
    (regressed : codeviation first second items = slope * codeviation first first items)
    (near : ∀ item ∈ items, |second item - intercept - other * first item| ≤ bound)
    (position : K) :
    codeviation first first items *
        regressionMiss first second items slope intercept other position ^ 2 ≤
      bound ^ 2 * (codeviation first first items +
        items.length * (position - mean first items) ^ 2) := by
  have count : (0 : K) < items.length := Nat.cast_pos.mpr (List.length_pos_iff.mpr nonempty)
  have spread := codeviation_self_nonneg first items
  have whole := regression_near nonempty regressed near
  rw [regressionMiss_eq]
  generalize mean second items - intercept - other * mean first items = miss at whole ⊢
  generalize slope - other = turn at whole ⊢
  generalize position - mean first items = distance
  generalize codeviation first first items = deviation at spread whole ⊢
  generalize (items.length : K) = number at count whole ⊢
  -- Cauchy and Schwarz, for the two parts of the miss.
  have product : number * (deviation * (miss + turn * distance) ^ 2) ≤
      (turn ^ 2 * deviation + number * miss ^ 2) * (deviation + number * distance ^ 2) := by
    have square := sq_nonneg (number * miss * distance - deviation * turn)
    linarith
  have wide : 0 ≤ deviation + number * distance ^ 2 :=
    add_nonneg spread (mul_nonneg count.le (sq_nonneg _))
  have bounded := product.trans (mul_le_mul_of_nonneg_right whole wide)
  rw [mul_assoc] at bounded
  exact le_of_mul_le_mul_left bounded count

/-- At the data itself the miss is at most the bound times the root of their number. -/
private theorem regressionMiss_sq_le_of_mem {item : Item} (member : item ∈ items)
    (regressed : codeviation first second items = slope * codeviation first first items)
    (near : ∀ item ∈ items, |second item - intercept - other * first item| ≤ bound) :
    regressionMiss first second items slope intercept other (first item) ^ 2 ≤
      items.length * bound ^ 2 := by
  have nonempty : items ≠ [] := List.ne_nil_of_mem member
  have whole := regression_near nonempty regressed near
  have total : (items.map fun item =>
      regressionMiss first second items slope intercept other (first item) ^ 2).sum =
        (slope - other) ^ 2 * codeviation first first items +
          items.length * (mean second items - intercept - other * mean first items) ^ 2 := by
    obtain ⟨miss, missIs⟩ : ∃ miss,
      miss = mean second items - intercept - other * mean first items := ⟨_, rfl⟩
    have expand : ∀ item, regressionMiss first second items slope intercept other
        (first item) ^ 2 = (slope - other) ^ 2 *
          ((first item - mean first items) * (first item - mean first items)) +
            (2 * (slope - other) * miss * (first item - mean first items) + miss ^ 2) := by
      intro item
      rw [regressionMiss_eq, missIs]
      ring
    simp only [← missIs, expand, List.sum_map_add, List.sum_map_mul_left, sum_deviation nonempty,
      List.map_const', List.sum_replicate, nsmul_eq_mul]
    unfold codeviation
    ring
  have single := List.single_le_sum (l := items.map fun item =>
    regressionMiss first second items slope intercept other (first item) ^ 2) (by
      intro value inside
      obtain ⟨other, _, rfl⟩ := List.mem_map.mp inside
      exact sq_nonneg _) _ (List.mem_map_of_mem member)
  rw [total] at single
  exact single.trans whole

private theorem sq_le_of_between {low value high limit : K} (above : low ≤ value)
    (below : value ≤ high)
    (lowLimit : low ^ 2 ≤ limit) (highLimit : high ^ 2 ≤ limit) : value ^ 2 ≤ limit := by
  rcases le_total 0 value with nonneg | nonpos
  · exact (pow_le_pow_left₀ nonneg below 2).trans highLimit
  · have turned := pow_le_pow_left₀ (neg_nonneg.mpr nonpos) (neg_le_neg above) 2
    rw [neg_sq, neg_sq] at turned
    exact turned.trans lowLimit

/-- Between the data it is no larger, as the two lines cross at most once. -/
theorem regressionMiss_sq_le_of_between {left right : Item} {position : K}
    (leftMember : left ∈ items) (rightMember : right ∈ items) (above : first left ≤ position)
    (below : position ≤ first right)
    (regressed : codeviation first second items = slope * codeviation first first items)
    (near : ∀ item ∈ items, |second item - intercept - other * first item| ≤ bound) :
    regressionMiss first second items slope intercept other position ^ 2 ≤
      items.length * bound ^ 2 := by
  have leftLimit := regressionMiss_sq_le_of_mem leftMember regressed near
  have rightLimit := regressionMiss_sq_le_of_mem rightMember regressed near
  rw [regressionMiss_eq] at leftLimit rightLimit ⊢
  rcases le_total 0 (slope - other) with rising | falling
  · have low := mul_le_mul_of_nonneg_left above rising
    have high := mul_le_mul_of_nonneg_left below rising
    exact sq_le_of_between (by linarith) (by linarith) leftLimit rightLimit
  · have low := mul_le_mul_of_nonpos_left below falling
    have high := mul_le_mul_of_nonpos_left above falling
    exact sq_le_of_between (by linarith) (by linarith) rightLimit leftLimit

end Near

/-- The data is spread out unless all first coordinates coincide. -/
theorem codeviation_self_ne_zero_iff {first : Item → K} {items : List Item} :
    codeviation first first items ≠ 0 ↔
      ∃ left ∈ items, ∃ right ∈ items, first left ≠ first right := by
  constructor
  · intro spread
    by_contra together
    push Not at together
    apply spread
    unfold codeviation
    apply List.sum_eq_zero
    intro value inside
    obtain ⟨item, member, same⟩ := List.mem_map.mp inside
    have centre : mean first items = first item :=
      mean_constant (List.ne_nil_of_mem member)
        (fun other otherMember => together other otherMember item member)
    rw [← same, centre, sub_self, mul_zero]
  · rintro ⟨left, leftMember, right, rightMember, apart⟩
    exact codeviation_self_ne_zero leftMember rightMember apart

end SflowMiddle.Foundation

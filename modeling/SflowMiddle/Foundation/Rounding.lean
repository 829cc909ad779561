/-
The C library's `llround` on exact rationals: nearest integer, halves away from
zero. Monotonicity and the half-unit error bound are the only facts that the
conversion proofs use. The integer midpoint with C++ division is beside it.
-/

import Mathlib.Data.Rat.Floor
import Mathlib.Algebra.Order.Round
import Mathlib.Tactic

namespace SflowMiddle.Foundation

def llround (value : ℚ) : Int :=
  if 0 ≤ value then ⌊value + 1 / 2⌋ else ⌈value - 1 / 2⌉

private theorem llround_of_nonneg {value : ℚ} (nonneg : 0 ≤ value) :
    llround value = ⌊value + 1 / 2⌋ :=
  if_pos nonneg

private theorem llround_of_neg {value : ℚ} (negative : value < 0) :
    llround value = ⌈value - 1 / 2⌉ :=
  if_neg (not_le.mpr negative)

theorem abs_llround_sub_le (value : ℚ) : |(llround value : ℚ) - value| ≤ 1 / 2 := by
  rcases le_or_gt 0 value with nonneg | negative
  · rw [llround_of_nonneg nonneg, abs_le]
    have lower := Int.lt_floor_add_one (value + 1 / 2)
    have upper := Int.floor_le (value + 1 / 2)
    constructor <;> linarith
  · rw [llround_of_neg negative, abs_le]
    have lower := Int.le_ceil (value - 1 / 2)
    have upper := Int.ceil_lt_add_one (value - 1 / 2)
    constructor <;> linarith

@[simp]
theorem llround_intCast (value : Int) : llround (value : ℚ) = value := by
  rcases le_or_gt (0 : ℚ) (value : ℚ) with nonneg | negative
  · rw [llround_of_nonneg nonneg, Int.floor_eq_iff]
    constructor <;> linarith
  · rw [llround_of_neg negative, Int.ceil_eq_iff]
    constructor <;> linarith

@[simp]
theorem llround_zero : llround 0 = 0 := by
  simpa using llround_intCast 0

theorem llround_mono {left right : ℚ} (ordered : left ≤ right) :
    llround left ≤ llround right := by
  rcases le_or_gt 0 left with leftNonneg | leftNeg
  · rw [llround_of_nonneg leftNonneg, llround_of_nonneg (leftNonneg.trans ordered)]
    exact Int.floor_mono (by linarith)
  · rcases le_or_gt 0 right with rightNonneg | rightNeg
    · rw [llround_of_neg leftNeg, llround_of_nonneg rightNonneg]
      have below : ⌈left - 1 / 2⌉ ≤ 0 := Int.ceil_le.mpr (by push_cast; linarith)
      have above : 0 ≤ ⌊right + 1 / 2⌋ := Int.floor_nonneg.mpr (by linarith)
      exact below.trans above
    · rw [llround_of_neg leftNeg, llround_of_neg rightNeg]
      exact Int.ceil_mono (by linarith)

/-- Two independently rounded values differ by the exact difference up to one unit. -/
theorem abs_llround_sub_llround_le (left right : ℚ) :
    |((llround left : ℚ) - llround right) - (left - right)| ≤ 1 := by
  have leftError := abs_le.mp (abs_llround_sub_le left)
  have rightError := abs_le.mp (abs_llround_sub_le right)
  rw [abs_le]
  constructor <;> linarith [leftError.1, leftError.2, rightError.1, rightError.2]

def truncMidpoint (first second : Int) : Int :=
  first + (second - first).tdiv 2

theorem truncMidpoint_add (first second amount : Int) :
    truncMidpoint (first + amount) (second + amount) = truncMidpoint first second + amount := by
  unfold truncMidpoint
  rw [add_sub_add_right_eq_sub]
  ring

theorem truncMidpoint_of_le {first second : Int} (ordered : first ≤ second) :
    truncMidpoint first second = first + (second - first) / 2 := by
  unfold truncMidpoint
  rw [Int.tdiv_eq_ediv_of_nonneg (by omega)]

theorem truncMidpoint_bounds {first second : Int} (ordered : first ≤ second) :
    first ≤ truncMidpoint first second ∧ truncMidpoint first second ≤ second := by
  rw [truncMidpoint_of_le ordered]
  omega

theorem truncMidpoint_between {first second lower upper : Int}
    (firstWithin : lower ≤ first ∧ first ≤ upper)
    (secondWithin : lower ≤ second ∧ second ≤ upper) :
    lower ≤ truncMidpoint first second ∧ truncMidpoint first second ≤ upper := by
  rcases le_total first second with ordered | reversed
  · have bounds := truncMidpoint_bounds ordered
    omega
  · have mirrored : (second - first).tdiv 2 = -((first - second) / 2) := by
      rw [← Int.tdiv_eq_ediv_of_nonneg (by omega), ← Int.neg_tdiv, neg_sub]
    unfold truncMidpoint
    rw [mirrored]
    omega

theorem abs_tdiv_mul_sub_lt (value : Int) {unit : Int} (positive : 0 < unit) :
    |value.tdiv unit * unit - value| < unit := by
  have split := Int.mul_tdiv_add_tmod value unit
  have above := Int.tmod_lt_of_pos value positive
  have below := Int.lt_tmod_of_pos value positive
  have lost : value.tdiv unit * unit - value = -value.tmod unit := by
    linarith [mul_comm unit (value.tdiv unit)]
  rw [lost, abs_neg, abs_lt]
  exact ⟨below, above⟩

theorem abs_two_mul_truncMidpoint_sub_le (first second : Int) :
    |2 * truncMidpoint first second - (first + second)| ≤ 1 := by
  have halved := abs_lt.mp (abs_tdiv_mul_sub_lt (second - first) two_pos)
  unfold truncMidpoint
  rw [abs_le]
  omega

end SflowMiddle.Foundation

/-
The line `fitLine` returns. It is the line of least squares through the samples,
which is one line: the origins the sums are taken from and the order of the samples
do not show in it. Only the Unix time at the chosen origin is rounded.
-/

import SflowMiddle.Calibration.ExactLine

namespace SflowMiddle.Calibration

open SflowMiddle.Foundation

/-- `meanY - scale * meanX`, with the means taken from the origins. -/
def originAdjustment (samples : List TimeSample) (macOrigin unixOrigin : Int) (scale : ℚ) : ℚ :=
  mean (unixOffset unixOrigin) samples - scale * mean (macOffset macOrigin) samples

/-- The fitted line before its rounding, as a Unix time for every device time. -/
def fittedLine (samples : List TimeSample) (macOrigin unixOrigin : Int) (scale macNs : ℚ) : ℚ :=
  unixOrigin + originAdjustment samples macOrigin unixOrigin scale +
    scale * (macNs - macOrigin)

variable {samples : List TimeSample} {macOrigin unixOrigin : Int}

private theorem macOffset_ne_iff {left right : TimeSample} :
    macOffset macOrigin left ≠ macOffset macOrigin right ↔ left.macNs ≠ right.macNs := by
  unfold macOffset
  rw [Ne, Int.cast_inj, sub_left_inj]

theorem fitLine_eq_some {scale : ℚ} {fittedUnixOrigin : Int}
    (fitted : fitLine samples macOrigin unixOrigin = some (scale, fittedUnixOrigin)) :
    codeviation (macOffset macOrigin) (macOffset macOrigin) samples ≠ 0 ∧
      codeviation (macOffset macOrigin) (unixOffset unixOrigin) samples =
        scale * codeviation (macOffset macOrigin) (macOffset macOrigin) samples ∧
      fittedUnixOrigin =
        unixOrigin + llround (originAdjustment samples macOrigin unixOrigin scale) := by
  rw [fitLine_eq] at fitted
  split at fitted
  · cases fitted
  · split at fitted
    · cases fitted
    · rename_i spread
      cases fitted
      exact ⟨spread, (div_mul_cancel₀ _ spread).symm, rfl⟩

private theorem fitLine_isSome_iff :
    (fitLine samples macOrigin unixOrigin).isSome ↔
      ∃ left ∈ samples, ∃ right ∈ samples, left.macNs ≠ right.macNs := by
  have spread := @codeviation_self_ne_zero_iff _ _ _ _ _ (macOffset macOrigin) samples
  simp only [macOffset_ne_iff] at spread
  rw [← spread, fitLine_eq]
  split
  · rename_i few
    have alone : codeviation (macOffset macOrigin) (macOffset macOrigin) samples = 0 := by
      by_contra apart
      obtain ⟨left, leftMember, right, rightMember, different⟩ := spread.mp apart
      exact absurd few (not_lt.mpr (two_le_length leftMember rightMember different))
    simp [alone]
  · split
    · rename_i flat
      simp [flat]
    · rename_i apart
      simp [apart]

private theorem leastSquaresLine_of_fitLine {scale : ℚ} {fittedUnixOrigin : Int}
    (fitted : fitLine samples macOrigin unixOrigin = some (scale, fittedUnixOrigin)) :
    LeastSquaresLine (macOffset macOrigin) (unixOffset unixOrigin) samples
      (originAdjustment samples macOrigin unixOrigin scale) scale := by
  obtain ⟨spread, regressed, _⟩ := fitLine_eq_some fitted
  exact leastSquaresLine_regression spread regressed

private theorem fittedLine_unique {permuted : List TimeSample} {scale other : ℚ}
    {fittedUnixOrigin otherUnixOrigin otherMac otherUnix : Int} (same : samples.Perm permuted)
    (fitted : fitLine samples macOrigin unixOrigin = some (scale, fittedUnixOrigin))
    (fittedOther : fitLine permuted otherMac otherUnix = some (other, otherUnixOrigin)) :
    other = scale ∧ ∀ macNs, fittedLine permuted otherMac otherUnix other macNs =
      fittedLine samples macOrigin unixOrigin scale macNs := by
  have line := leastSquaresLine_of_fitLine fitted
  have moved : LeastSquaresLine (macOffset otherMac) (unixOffset otherUnix) permuted
      (originAdjustment samples macOrigin unixOrigin scale -
        scale * ((macOrigin : ℚ) - otherMac) + ((unixOrigin : ℚ) - otherUnix)) scale := by
    apply (line.perm same).shift
    · intro sample
      unfold macOffset
      push_cast
      ring
    · intro sample
      unfold unixOffset
      push_cast
      ring
  obtain ⟨intercepts, slopes⟩ := moved.unique (leastSquaresLine_of_fitLine fittedOther)
  refine ⟨slopes, ?_⟩
  intro macNs
  unfold fittedLine
  rw [intercepts, slopes]
  ring

/-- `fitLine` returns true exactly when two device times differ, and then with the slope of
the only line of least squares and that line's value at the device origin, rounded. -/
theorem fitLine_least_squares (samples : List TimeSample) (macOrigin unixOrigin : Int) :
    ((fitLine samples macOrigin unixOrigin).isSome ↔
      ∃ left ∈ samples, ∃ right ∈ samples, left.macNs ≠ right.macNs) ∧
    ∀ scale fittedUnixOrigin,
      fitLine samples macOrigin unixOrigin = some (scale, fittedUnixOrigin) →
      LeastSquaresLine (macOffset macOrigin) (unixOffset unixOrigin) samples
          (originAdjustment samples macOrigin unixOrigin scale) scale ∧
        |(fittedUnixOrigin : ℚ) -
          fittedLine samples macOrigin unixOrigin scale macOrigin| ≤ 1 / 2 ∧
        ∀ permuted otherMac otherUnix other otherUnixOrigin, samples.Perm permuted →
          fitLine permuted otherMac otherUnix = some (other, otherUnixOrigin) →
          other = scale ∧ ∀ macNs, fittedLine permuted otherMac otherUnix other macNs =
            fittedLine samples macOrigin unixOrigin scale macNs := by
  refine ⟨fitLine_isSome_iff, ?_⟩
  intro scale fittedUnixOrigin fitted
  refine ⟨leastSquaresLine_of_fitLine fitted, ?_, ?_⟩
  · have rounded := abs_llround_sub_le (originAdjustment samples macOrigin unixOrigin scale)
    have difference : (fittedUnixOrigin : ℚ) -
        fittedLine samples macOrigin unixOrigin scale macOrigin =
          (llround (originAdjustment samples macOrigin unixOrigin scale) : ℚ) -
            originAdjustment samples macOrigin unixOrigin scale := by
      rw [(fitLine_eq_some fitted).2.2]
      unfold fittedLine
      push_cast
      ring
    rw [difference]
    exact rounded
  · intro permuted otherMac otherUnix other otherUnixOrigin same fittedOther
    exact fittedLine_unique same fitted fittedOther

end SflowMiddle.Calibration

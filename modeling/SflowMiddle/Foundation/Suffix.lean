/-
Longest suffixes whose elements all satisfy a condition, and the sliding window
that drops a prefix of elements failing it. A suffix of passing elements survives
the dropping, whatever the order of the list; that every survivor passes needs
the list to pass from some point on.
-/

import Mathlib.Data.List.Basic
import Mathlib.Tactic

namespace SflowMiddle.Foundation

variable {α : Type}

structure IsLongestSuffix (passes : α → Prop) (whole part : List α) : Prop where
  suffix : part <:+ whole
  all : ∀ item ∈ part, passes item
  longest : ∀ other, other <:+ whole → (∀ item ∈ other, passes item) → other <:+ part

theorem suffix_dropWhile {fails : α → Bool} {whole part : List α}
    (suffix : part <:+ whole) (all : ∀ item ∈ part, fails item = false) :
    part <:+ whole.dropWhile fails := by
  induction whole with
  | nil => simpa using suffix
  | cons head tail ih =>
      rcases List.suffix_cons_iff.mp suffix with same | inTail
      · subst same
        have headPasses := all head List.mem_cons_self
        rw [List.dropWhile_cons_of_neg (by simp [headPasses])]
      · cases headFails : fails head with
        | true =>
            rw [List.dropWhile_cons_of_pos headFails]
            exact ih inTail
        | false =>
            rw [List.dropWhile_cons_of_neg (by simp [headFails])]
            exact inTail.trans (List.suffix_cons head tail)

private theorem all_dropWhile {fails : α → Bool} {whole : List α}
    (settles : whole.Pairwise (fun earlier later => fails earlier = false → fails later = false)) :
    ∀ item ∈ whole.dropWhile fails, fails item = false := by
  induction whole with
  | nil => simp
  | cons head tail ih =>
      have parts := List.pairwise_cons.mp settles
      cases headFails : fails head with
      | true =>
          rw [List.dropWhile_cons_of_pos headFails]
          exact ih parts.2
      | false =>
          rw [List.dropWhile_cons_of_neg (by simp [headFails])]
          intro item member
          rcases List.mem_cons.mp member with same | later
          · rw [same]
            exact headFails
          · exact parts.1 item later headFails

/-- Appending one element and dropping the failing prefix keeps a suffix longest,
as long as the new condition is no weaker on the elements already dropped. -/
theorem IsLongestSuffix.append_dropWhile {fails : α → Bool} {whole part : List α} {newest : α}
    (suffix : part <:+ whole)
    (longest : ∀ other, other <:+ whole → (∀ item ∈ other, fails item = false) → other <:+ part)
    (settles : (part ++ [newest]).Pairwise
      (fun earlier later => fails earlier = false → fails later = false)) :
    IsLongestSuffix (fun item => fails item = false) (whole ++ [newest])
      ((part ++ [newest]).dropWhile fails) where
  suffix := (List.dropWhile_suffix fails).trans (List.suffix_append_self_iff.mpr suffix)
  all := all_dropWhile settles
  longest := by
    intro other otherSuffix otherPasses
    rcases List.suffix_concat_iff.mp otherSuffix with empty | ⟨front, shape, frontSuffix⟩
    · rw [empty]
      exact List.nil_suffix
    · have frontPasses : ∀ item ∈ front, fails item = false := by
        intro item member
        exact otherPasses item (by rw [shape]; exact List.mem_append_left _ member)
      have within : other <:+ part ++ [newest] := by
        rw [shape]
        exact List.suffix_append_self_iff.mpr (longest front frontSuffix frontPasses)
      exact suffix_dropWhile within otherPasses

end SflowMiddle.Foundation

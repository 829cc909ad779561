/-
The parts of the C++ standard library the program relies on, by their documented
contracts. `std::sort` is any arrangement with ascending keys, because equal keys
may land in any order; `std::min_element` is the first minimum; `std::nth_element`
puts at position n the value a full sort would put there.
-/

import Mathlib.Data.List.GetD
import Mathlib.Data.List.Sort
import Mathlib.Tactic

namespace SflowMiddle.Foundation

inductive StdException where
  | runtimeError (what : String)
  | invalidArgument (what : String)
  deriving DecidableEq, Repr

/-- Every conforming sort by an integer key. Stability is not promised. -/
structure StdSort where
  sort : {α : Type} → (α → Int) → List α → List α
  perm : ∀ {α : Type} (key : α → Int) (items : List α), (sort key items).Perm items
  ascending : ∀ {α : Type} (key : α → Int) (items : List α),
    (sort key items).Pairwise (fun left right => key left ≤ key right)

theorem StdSort.mem_sort {α : Type} (std : StdSort) (key : α → Int) (items : List α) (item : α) :
    item ∈ std.sort key items ↔ item ∈ items :=
  (std.perm key items).mem_iff

theorem StdSort.length_sort {α : Type} (std : StdSort) (key : α → Int) (items : List α) :
    (std.sort key items).length = items.length :=
  (std.perm key items).length_eq

private abbrev ByKey {α : Type} (key : α → Int) (left right : α) : Prop := key left ≤ key right

private instance {α : Type} (key : α → Int) : Std.Total (ByKey key) where
  total left right := le_total (key left) (key right)

private instance {α : Type} (key : α → Int) : IsTrans α (ByKey key) where
  trans _ _ _ first second := le_trans first second

/-- Insertion sort is a conforming sort, and one that evaluates. -/
def StdSort.insertion : StdSort where
  sort key items := items.insertionSort (fun left right => key left ≤ key right)
  perm _ items := List.perm_insertionSort _ items
  ascending key items := List.pairwise_insertionSort (ByKey key) items

/-- A sort that sees its items only through the comparator moves with them. The C++
template cannot do otherwise: it may call the comparator and move elements. -/
structure StdSort.ComparisonBased (std : StdSort) : Prop where
  sort_map : ∀ {α β : Type} (move : α → β) (key : β → Int) (items : List α),
    std.sort key (items.map move) = (std.sort (fun item => key (move item)) items).map move

theorem StdSort.insertion_comparisonBased : StdSort.insertion.ComparisonBased where
  sort_map move key items := by
    refine (List.map_insertionSort _ _ move items ?_).symm
    intro left _ right _
    exact Iff.rfl

def minElementFrom {α : Type} (key : α → Int) : α → List α → α
  | best, [] => best
  | best, item :: rest =>
      if key item < key best then minElementFrom key item rest else minElementFrom key best rest

/-- The first element no other element is smaller than. -/
def minElement {α : Type} (key : α → Int) : List α → Option α
  | [] => none
  | first :: rest => some (minElementFrom key first rest)

theorem minElementFrom_mem {α : Type} (key : α → Int) (best : α) (items : List α) :
    minElementFrom key best items ∈ best :: items := by
  induction items generalizing best with
  | nil => exact List.mem_singleton_self best
  | cons item rest ih =>
      unfold minElementFrom
      split
      · exact List.mem_cons_of_mem _ (ih item)
      · rcases List.mem_cons.mp (ih best) with same | later
        · rw [same]
          exact List.mem_cons_self
        · exact List.mem_cons_of_mem _ (List.mem_cons_of_mem _ later)

theorem mem_of_minElement {α : Type} {key : α → Int} {items : List α} {best : α}
    (least : minElement key items = some best) : best ∈ items := by
  cases items with
  | nil => cases least
  | cons first rest =>
      rw [← Option.some.inj least]
      exact minElementFrom_mem key first rest

private theorem minElementFrom_map {α β : Type} (move : α → β) (key : β → Int) (best : α)
    (items : List α) :
    minElementFrom key (move best) (items.map move) =
      move (minElementFrom (fun item => key (move item)) best items) := by
  induction items generalizing best with
  | nil => rfl
  | cons item rest ih =>
      rw [List.map_cons]
      unfold minElementFrom
      split
      · exact ih item
      · exact ih best

theorem minElement_map {α β : Type} (move : α → β) (key : β → Int) (items : List α) :
    minElement key (items.map move) =
      (minElement (fun item => key (move item)) items).map move := by
  cases items with
  | nil => rfl
  | cons first rest => exact congrArg some (minElementFrom_map move key first rest)

def nthElement (values : List Int) (position : Nat) : Int :=
  (values.insertionSort (· ≤ ·)).getD position 0

theorem nthElement_mem {values : List Int} (position : Nat) (inside : position < values.length) :
    nthElement values position ∈ values := by
  have bound : position < (values.insertionSort (· ≤ ·)).length := by
    rw [List.length_insertionSort]
    exact inside
  unfold nthElement
  rw [List.getD_eq_getElem _ _ bound]
  exact (List.perm_insertionSort (· ≤ ·) values).mem_iff.mp (List.getElem_mem bound)

theorem nthElement_mono {values : List Int} {first second : Nat} (ordered : first ≤ second)
    (inside : second < values.length) : nthElement values first ≤ nthElement values second := by
  have sorted := List.pairwise_iff_getElem.mp (List.pairwise_insertionSort (· ≤ ·) values)
  have bound : second < (values.insertionSort (· ≤ ·)).length := by
    rw [List.length_insertionSort]
    exact inside
  unfold nthElement
  rw [List.getD_eq_getElem _ _ bound, List.getD_eq_getElem _ _ (ordered.trans_lt bound)]
  rcases Nat.lt_or_ge first second with before | after
  · exact sorted first second _ _ before
  · have same : first = second := by omega
    subst same
    exact le_refl _

theorem nthElement_add {values : List Int} (amount : Int) {position : Nat}
    (inside : position < values.length) :
    nthElement (values.map (· + amount)) position = nthElement values position + amount := by
  have moved : (values.map (· + amount)).insertionSort (· ≤ ·) =
      (values.insertionSort (· ≤ ·)).map (· + amount) := by
    refine (List.map_insertionSort _ _ (· + amount) values ?_).symm
    intro left _ right _
    exact (add_le_add_iff_right amount).symm
  have bound : position < (values.insertionSort (· ≤ ·)).length := by
    rw [List.length_insertionSort]
    exact inside
  unfold nthElement
  rw [moved, List.getD_eq_getElem _ _ bound,
    List.getD_eq_getElem _ _ (by rw [List.length_map]; exact bound), List.getElem_map]

/-- At least `position + 1` of the values are not above the one at `position`. -/
theorem lt_countP_le_nthElement {values : List Int} (position : Nat)
    (inside : position < values.length) :
    position < values.countP (fun value => value ≤ nthElement values position) := by
  have bound : position < (values.insertionSort (· ≤ ·)).length := by
    rw [List.length_insertionSort]
    exact inside
  rw [← (List.perm_insertionSort (· ≤ ·) values).countP_eq]
  have early : ∀ value ∈ (values.insertionSort (· ≤ ·)).take (position + 1),
      value ≤ nthElement values position := by
    intro value member
    obtain ⟨index, small, same⟩ := List.mem_take_iff_getElem.mp member
    have found : nthElement values index = value := by
      unfold nthElement
      rw [List.getD_eq_getElem _ _ (by omega), same]
    rw [← found]
    exact nthElement_mono (by omega) inside
  have prefixCount := (List.take_sublist (position + 1)
    (values.insertionSort (· ≤ ·))).countP_le
      (p := fun value => value ≤ nthElement values position)
  rw [List.countP_eq_length.mpr (by simpa using early), List.length_take] at prefixCount
  omega

private theorem length_le_countP_nthElement_le {values : List Int} (position : Nat)
    (inside : position < values.length) :
    values.length ≤ values.countP (fun value => nthElement values position ≤ value) + position := by
  have bound : position < (values.insertionSort (· ≤ ·)).length := by
    rw [List.length_insertionSort]
    exact inside
  rw [← (List.perm_insertionSort (· ≤ ·) values).countP_eq]
  have late : ∀ value ∈ (values.insertionSort (· ≤ ·)).drop position,
      nthElement values position ≤ value := by
    intro value member
    obtain ⟨index, small, same⟩ := List.mem_drop_iff_getElem.mp member
    have found : nthElement values (position + index) = value := by
      unfold nthElement
      rw [List.getD_eq_getElem _ _ (by omega), same]
    have length := List.length_insertionSort (· ≤ ·) values
    rw [← found]
    exact nthElement_mono (by omega) (by omega)
  have suffixCount := (List.drop_sublist position
    (values.insertionSort (· ≤ ·))).countP_le
      (p := fun value => nthElement values position ≤ value)
  rw [List.countP_eq_length.mpr (by simpa using late), List.length_drop,
    List.length_insertionSort] at suffixCount
  omega

/-- A position so far inside that the values outside an interval reach it from neither end. -/
theorem nthElement_between {values : List Int} {lower upper : Int} {position : Nat}
    (early : position < values.countP (fun value => lower ≤ value ∧ value ≤ upper))
    (late : values.length ≤
      values.countP (fun value => lower ≤ value ∧ value ≤ upper) + position) :
    lower ≤ nthElement values position ∧ nthElement values position ≤ upper := by
  have inside : position < values.length := early.trans_le List.countP_le_length
  have below := lt_countP_le_nthElement position inside
  have above := length_le_countP_nthElement_le position inside
  have beyond : ∀ fails : Int → Bool,
      (∀ value, lower ≤ value ∧ value ≤ upper → fails value = false) →
      values.countP (fun value => lower ≤ value ∧ value ≤ upper) + values.countP fails ≤
        values.length := by
    intro fails apart
    rw [List.length_eq_countP_add_countP fails, Nat.add_comm]
    apply Nat.add_le_add_left
    apply List.countP_mono_left
    intro value _ within
    have kept := apart value (of_decide_eq_true within)
    simp [kept]
  constructor
  · by_contra low
    have outside := beyond (fun value => value ≤ nthElement values position) (by
      intro value within
      exact decide_eq_false (by omega))
    omega
  · by_contra high
    have outside := beyond (fun value => nthElement values position ≤ value) (by
      intro value within
      exact decide_eq_false (by omega))
    omega

end SflowMiddle.Foundation

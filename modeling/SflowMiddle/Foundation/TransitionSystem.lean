/-
Labelled transition systems with explicit initial states. Invariants are proved
by one step lemma and lifted to whole runs here, and nowhere else. A restricted
system keeps only the steps that a condition on the state before the step
permits, so that "every run whose steps all meet the condition" is itself a
system with the same invariant rule. What a run records on its way is a history
that a step extends at its end.
-/

import Mathlib.Logic.Relation

namespace SflowMiddle.Foundation

structure TransitionSystem (State Action : Type) where
  initial : State → Prop
  step : State → Action → State → Prop

namespace TransitionSystem

variable {State Action : Type} {system : TransitionSystem State Action}

inductive Reachable (system : TransitionSystem State Action) : State → Prop where
  | start {state : State} (initial : system.initial state) : Reachable system state
  | next {before after : State} {action : Action} (earlier : Reachable system before)
      (step : system.step before action after) : Reachable system after

/-- An invariant holds initially and is kept by every step. -/
theorem Reachable.invariant {state : State} (reachable : system.Reachable state)
    (holds : State → Prop) (initially : ∀ state, system.initial state → holds state)
    (kept : ∀ before action after, system.step before action after →
      holds before → holds after) : holds state := by
  induction reachable with
  | start initial => exact initially _ initial
  | next _ step ih => exact kept _ _ _ step ih

/-- A finite run and the actions it took, oldest first. -/
inductive Run (system : TransitionSystem State Action) : State → List Action → State → Prop where
  | stay (state : State) : Run system state [] state
  | move {before middle after : State} {action : Action} {actions : List Action}
      (step : system.step before action middle) (rest : Run system middle actions after) :
      Run system before (action :: actions) after

theorem Run.reachable {before after : State} {actions : List Action}
    (run : system.Run before actions after) (start : system.Reachable before) :
    system.Reachable after := by
  induction run with
  | stay state => exact start
  | move step _ ih => exact ih (start.next step)

theorem Run.of_append {before after : State} {first second : List Action}
    (run : system.Run before (first ++ second) after) :
    ∃ middle, system.Run before first middle ∧ system.Run middle second after := by
  induction first generalizing before with
  | nil => exact ⟨before, .stay before, run⟩
  | cons action first ih =>
      cases run with
      | move step rest =>
          obtain ⟨middle, begun, ended⟩ := ih rest
          exact ⟨middle, .move step begun, ended⟩

/-- A run of a system whose steps can be performed, one action after the other. -/
theorem Run.of_foldlM {perform : State → Action → Option State}
    (sound : ∀ before action after, perform before action = some after →
      system.step before action after) {before after : State} {actions : List Action}
    (performed : actions.foldlM perform before = some after) :
    system.Run before actions after := by
  induction actions generalizing before with
  | nil =>
      cases performed
      exact .stay _
  | cons action actions ih =>
      rw [List.foldlM_cons] at performed
      obtain ⟨middle, stepped, rest⟩ := Option.bind_eq_some_iff.mp performed
      exact .move (sound _ _ _ stepped) (ih rest)

/-- A run of a system whose every step can be performed. -/
theorem Run.foldl {perform : State → Action → State}
    (sound : ∀ before action, system.step before action (perform before action))
    (actions : List Action) (before : State) :
    system.Run before actions (actions.foldl perform before) := by
  induction actions generalizing before with
  | nil => exact .stay before
  | cons action actions ih => exact .move (sound before action) (ih _)

/-- A counter that every step raises by what the action counts for. -/
theorem Run.count_eq {before after : State} {actions : List Action}
    (run : system.Run before actions after) (counter : State → Nat) (counts : Action → Bool)
    (counted : ∀ before action after, system.step before action after →
      counter after = counter before + if counts action then 1 else 0) :
    counter after = counter before + actions.countP counts := by
  induction run with
  | stay state => rfl
  | move step _ ih =>
      have first := counted _ _ _ step
      rw [List.countP_cons]
      omega

theorem Run.invariant {before after : State} {actions : List Action}
    (run : system.Run before actions after) (holds : State → Prop)
    (kept : ∀ before action after, system.step before action after →
      holds before → holds after) (start : holds before) : holds after := by
  induction run with
  | stay state => exact start
  | move step _ ih => exact ih (kept _ _ _ step start)

/-- Where every step moves items in and out of what a state contains, and loses and makes none,
so does every run. -/
theorem Run.conserved {Item : Type} {holds : State → Prop} {contains : State → List Item}
    {removed added : Action → List Item}
    (kept : ∀ before action after, system.step before action after → holds before → holds after)
    (moves : ∀ before action after, system.step before action after → holds before →
      (removed action ++ contains after).Perm (contains before ++ added action))
    {before after : State} {actions : List Action} (run : system.Run before actions after)
    (start : holds before) :
    (actions.flatMap removed ++ contains after).Perm
      (contains before ++ actions.flatMap added) := by
  induction run with
  | stay state => exact List.perm_append_comm
  | @move before _ _ action actions step _ ih =>
      have later := (ih (kept _ _ _ step start)).append_left (removed action)
      have moved := (moves _ _ _ step start).append_right (actions.flatMap added)
      simp only [List.flatMap_cons, List.append_assoc] at later moved ⊢
      exact later.trans moved

def restrict (system : TransitionSystem State Action)
    (permitted : State → Action → Prop) : TransitionSystem State Action where
  initial := system.initial
  step before action after := permitted before action ∧ system.step before action after

theorem Reachable.of_restrict {permitted : State → Action → Prop} {state : State}
    (reachable : (system.restrict permitted).Reachable state) : system.Reachable state := by
  induction reachable with
  | start initial => exact .start initial
  | next _ step ih => exact ih.next step.2

theorem Run.of_restrict {permitted : State → Action → Prop} {before after : State}
    {actions : List Action} (run : (system.restrict permitted).Run before actions after) :
    system.Run before actions after := by
  induction run with
  | stay state => exact .stay state
  | move step _ ih => exact .move step.2 ih

end TransitionSystem

/-! ### Histories that a step extends by one item or none -/

section History

variable {α : Type} {history : List α} {fresh : Option α}

theorem forall_mem_extended {holds : α → Prop} (earlier : ∀ item ∈ history, holds item)
    (new : ∀ item, fresh = some item → holds item) :
    ∀ item ∈ history ++ fresh.toList, holds item := by
  intro item member
  rcases List.mem_append.mp member with old | added
  · exact earlier item old
  · exact new item (Option.mem_toList.mp added)

theorem pairwise_extended {relation : α → α → Prop} (earlier : history.Pairwise relation)
    (new : ∀ item, fresh = some item → ∀ old ∈ history, relation old item) :
    (history ++ fresh.toList).Pairwise relation := by
  rw [List.pairwise_append]
  refine ⟨earlier, ?_, ?_⟩
  · cases fresh with
    | none => exact List.Pairwise.nil
    | some item => exact List.pairwise_singleton relation item
  · intro old member item added
    exact new item (Option.mem_toList.mp added) old member

end History

end SflowMiddle.Foundation

/-
Forward simulations between labelled transition systems, and measures on runs.
A step of the concrete system is matched by a run of the abstract one, which may
be empty: the abstract system need not see every step. The invariants of the
abstract system then hold of the states that reachable concrete states stand for.
-/

import SflowMiddle.Foundation.TransitionSystem

namespace SflowMiddle.Foundation

namespace TransitionSystem

variable {State Action Image Label : Type} {concrete : TransitionSystem State Action}
  {abstract : TransitionSystem Image Label} {relates : State → Image → Prop}

/-- Every initial state stands for an initial state, and every step for a run. -/
structure Simulates (concrete : TransitionSystem State Action)
    (abstract : TransitionSystem Image Label) (relates : State → Image → Prop) : Prop where
  initially : ∀ state, concrete.initial state →
    ∃ image, abstract.initial image ∧ relates state image
  matched : ∀ before action after image, concrete.step before action after →
    relates before image → ∃ labels later, abstract.Run image labels later ∧ relates after later

theorem Run.single {before after : State} {action : Action}
    (step : concrete.step before action after) : concrete.Run before [action] after :=
  .move step (.stay after)

theorem Run.append {before middle after : State} {first second : List Action}
    (run : concrete.Run before first middle) (more : concrete.Run middle second after) :
    concrete.Run before (first ++ second) after := by
  induction run with
  | stay state => exact more
  | move step _ ih => exact .move step (ih more)

theorem Simulates.reachable (simulates : Simulates concrete abstract relates) {state : State}
    (reachable : concrete.Reachable state) :
    ∃ image, abstract.Reachable image ∧ relates state image := by
  induction reachable with
  | start initial =>
      obtain ⟨image, begins, related⟩ := simulates.initially _ initial
      exact ⟨image, .start begins, related⟩
  | next _ step ih =>
      obtain ⟨image, reached, related⟩ := ih
      obtain ⟨labels, later, run, relatedLater⟩ := simulates.matched _ _ _ _ step related
      exact ⟨later, run.reachable reached, relatedLater⟩

/-- Every step stands for one step, or for none. -/
structure StepSimulates (concrete : TransitionSystem State Action)
    (abstract : TransitionSystem Image Label) (relates : State → Image → Prop) : Prop where
  initially : ∀ state, concrete.initial state →
    ∃ image, abstract.initial image ∧ relates state image
  matched : ∀ before action after image, concrete.step before action after →
    relates before image →
      relates after image ∨ ∃ label later, abstract.step image label later ∧ relates after later

theorem StepSimulates.simulates (simulates : StepSimulates concrete abstract relates) :
    Simulates concrete abstract relates where
  initially := simulates.initially
  matched before action after image step related := by
    rcases simulates.matched before action after image step related with
      same | ⟨label, later, move, relatedLater⟩
    · exact ⟨[], image, .stay image, same⟩
    · exact ⟨[label], later, .single move, relatedLater⟩

/-! ### Measures -/

/-- Where each costly step takes as much from a potential, and only the earning steps add to
it, one each, a run has no more costly steps than it can pay for. -/
theorem Run.amortized {holds : State → Prop} {potential : State → Nat} {cost : Nat}
    {costly earning : Action → Bool}
    (kept : ∀ before action after, concrete.step before action after → holds before →
      holds after ∧ cost * (if costly action then 1 else 0) + potential after ≤
        potential before + (if earning action then 1 else 0))
    {before after : State} {actions : List Action} (run : concrete.Run before actions after)
    (start : holds before) :
    holds after ∧ cost * actions.countP costly + potential after ≤
      potential before + actions.countP earning := by
  induction run with
  | stay state => exact ⟨start, by simp⟩
  | move step _ ih =>
      obtain ⟨held, paid⟩ := kept _ _ _ step start
      obtain ⟨heldAfter, later⟩ := ih held
      refine ⟨heldAfter, ?_⟩
      rw [List.countP_cons, List.countP_cons, Nat.mul_add]
      omega

/-- Where every counted step lowers a measure and no step raises it, a run has at most as
many counted steps as the measure says at its start. -/
theorem Run.countP_le {holds : State → Prop} {measure : State → Nat} {counted : Action → Bool}
    (kept : ∀ before action after, concrete.step before action after → holds before →
      holds after ∧ measure after + (if counted action then 1 else 0) ≤ measure before)
    {before after : State} {actions : List Action} (run : concrete.Run before actions after)
    (start : holds before) :
    holds after ∧ actions.countP counted + measure after ≤ measure before := by
  have paid := @Run.amortized _ _ concrete holds measure 1 counted (fun _ => false) (by
    intro before action after step held
    obtain ⟨heldAfter, lowered⟩ := kept before action after step held
    refine ⟨heldAfter, ?_⟩
    simp only [Bool.false_eq_true, if_false]
    omega) _ _ _ run start
  simpa using paid

end TransitionSystem

end SflowMiddle.Foundation

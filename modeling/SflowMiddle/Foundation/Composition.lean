/-
Two transition systems side by side. An action of the whole is an action of the left
part, of the right part or of both at once, and a part that has no action in it stays as
it is. A run of the whole is a run of each part, so what holds of the runs of a part
holds of it in any company.
-/

import SflowMiddle.Foundation.TransitionSystem

namespace SflowMiddle.Foundation

namespace TransitionSystem

variable {State Action LeftState LeftAction RightState RightAction : Type}

def Moves (system : TransitionSystem State Action) (before : State) :
    Option Action → State → Prop
  | some action, after => system.step before action after
  | none, after => after = before

def composed (left : TransitionSystem LeftState LeftAction)
    (right : TransitionSystem RightState RightAction) (leftPart : Action → Option LeftAction)
    (rightPart : Action → Option RightAction) :
    TransitionSystem (LeftState × RightState) Action where
  initial state := left.initial state.1 ∧ right.initial state.2
  step before action after :=
    left.Moves before.1 (leftPart action) after.1 ∧
      right.Moves before.2 (rightPart action) after.2

section Projections

variable {system : TransitionSystem State Action} {left : TransitionSystem LeftState LeftAction}
  {right : TransitionSystem RightState RightAction} {leftPart : Action → Option LeftAction}
  {rightPart : Action → Option RightAction} {before after : LeftState × RightState}
  {actions : List Action}

/-- A run of steps that a system may sit out is one of its own runs. -/
theorem Moves.extend {part : Option Action} {first middle last : State} {later : List Action}
    (moves : system.Moves first part middle) (run : system.Run middle later last) :
    system.Run first (part.toList ++ later) last := by
  cases part with
  | none =>
      change middle = first at moves
      rw [← moves]
      exact run
  | some action => exact .move moves run

theorem Run.onLeft (run : (composed left right leftPart rightPart).Run before actions after) :
    left.Run before.1 (actions.flatMap fun action => (leftPart action).toList) after.1 := by
  induction run with
  | stay state => exact .stay state.1
  | move step _ ih => exact step.1.extend ih

theorem Run.onRight (run : (composed left right leftPart rightPart).Run before actions after) :
    right.Run before.2 (actions.flatMap fun action => (rightPart action).toList) after.2 := by
  induction run with
  | stay state => exact .stay state.2
  | move step _ ih => exact step.2.extend ih

/-- A run is built from what each step is in the two parts. -/
theorem Run.both {leftBefore leftAfter : LeftState} {rightBefore rightAfter : RightState}
    {action : Action} (leftMoves : left.Moves leftBefore (leftPart action) leftAfter)
    (rightMoves : right.Moves rightBefore (rightPart action) rightAfter)
    (rest : (composed left right leftPart rightPart).Run (leftAfter, rightAfter) actions after) :
    (composed left right leftPart rightPart).Run (leftBefore, rightBefore) (action :: actions)
      after :=
  .move ⟨leftMoves, rightMoves⟩ rest

end Projections

end TransitionSystem

end SflowMiddle.Foundation

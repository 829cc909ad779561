/-
Programs that call a device shared with other agents. A program is a tree whose
branches are the replies a call may get, with one loop: polling until a reply says
to go on. `Meets` is a proof outline for such a tree: an assertion at every point
that the other agents keep, that permits the next call, and that the call carries
to the next point. It is sound for a call made alone and for a service that runs
its phases for ever, interleaved with everyone else.
-/

import SflowMiddle.Foundation.TransitionSystem
import Mathlib.Order.Defs.PartialOrder

namespace SflowMiddle.Foundation

inductive Program (Op : Type) (Reply : Op → Type) (α : Type) where
  | done (value : α)
  | call (op : Op) (next : Reply op → Program Op Reply α)
  | poll (op : Op) (again : Reply op → Bool) (next : Reply op → Program Op Reply α)

namespace Program

variable {Op : Type} {Reply : Op → Type} {α β : Type}

def bind (program : Program Op Reply α) (rest : α → Program Op Reply β) :
    Program Op Reply β :=
  match program with
  | .done value => rest value
  | .call op next => .call op fun reply => (next reply).bind rest
  | .poll op again next => .poll op again fun reply => (next reply).bind rest

instance : Monad (Program Op Reply) where
  pure := .done
  bind := Program.bind

theorem bind_assoc {γ : Type} (program : Program Op Reply α) (first : α → Program Op Reply β)
    (second : β → Program Op Reply γ) :
    (program >>= first) >>= second = program >>= fun value => first value >>= second := by
  change (program.bind first).bind second = program.bind fun value => (first value).bind second
  induction program with
  | done value => rfl
  | call op next ih => simp only [bind, ih]
  | poll op again next ih => simp only [bind, ih]

theorem bind_pure (program : Program Op Reply α) : program >>= pure = program := by
  change program.bind Program.done = program
  induction program with
  | done value => rfl
  | call op next ih => simp only [bind, ih]
  | poll op again next ih => simp only [bind, ih]

def issues : Program Op Reply α → Option Op
  | .done _ => none
  | .call op _ => some op
  | .poll op _ _ => some op

/-- What is left of the program after one reply. -/
inductive Continues : Program Op Reply α → (op : Op) → Reply op → Program Op Reply α → Prop where
  | call {op : Op} {next : Reply op → Program Op Reply α} (reply : Reply op) :
      Continues (.call op next) op reply (next reply)
  | again {op : Op} {again : Reply op → Bool} {next : Reply op → Program Op Reply α}
      {reply : Reply op} (repeated : again reply = true) :
      Continues (.poll op again next) op reply (.poll op again next)
  | leave {op : Op} {again : Reply op → Bool} {next : Reply op → Program Op Reply α}
      {reply : Reply op} (left : again reply = false) :
      Continues (.poll op again next) op reply (next reply)

theorem Continues.bind {program left : Program Op Reply α} {op : Op} {reply : Reply op}
    (continues : program.Continues op reply left) (rest : α → Program Op Reply β) :
    (program >>= rest).Continues op reply (left >>= rest) := by
  cases continues with
  | call reply => exact .call reply
  | again repeated => exact .again repeated
  | leave left => exact .leave left

/-- A step of a composition whose first part has not returned is a step of that part. -/
theorem Continues.unbind {program : Program Op Reply α} {rest : α → Program Op Reply β}
    {left : Program Op Reply β} {op : Op} {reply : Reply op} (pending : program.issues ≠ none)
    (continues : (program >>= rest).Continues op reply left) :
    ∃ first, program.Continues op reply first ∧ left = first >>= rest := by
  cases program with
  | done value => exact absurd rfl pending
  | call op next =>
      cases continues with
      | call reply => exact ⟨_, .call _, rfl⟩
  | poll op again next =>
      cases continues with
      | again repeated => exact ⟨_, .again repeated, rfl⟩
      | leave left => exact ⟨_, .leave left, rfl⟩

/-- The call and its reply fix what is left of the program. -/
theorem Continues.unique {program left other : Program Op Reply α} {op : Op} {reply : Reply op}
    (continues : program.Continues op reply left)
    (continuesOther : program.Continues op reply other) : left = other := by
  cases continues with
  | call reply =>
      cases continuesOther
      rfl
  | again repeated =>
      cases continuesOther with
      | again => rfl
      | leave left =>
          rw [repeated] at left
          cases left
  | leave left =>
      cases continuesOther with
      | again repeated =>
          rw [repeated] at left
          cases left
      | leave => rfl

theorem Continues.issues {program left : Program Op Reply α} {op : Op} {reply : Reply op}
    (continues : program.Continues op reply left) : program.issues = some op := by
  cases continues with
  | call reply => rfl
  | again repeated => rfl
  | leave left => rfl

/-- As far as a list of choices gets, one for each call the program makes. -/
def advance {World Choice : Type} (answer : World → (op : Op) → Choice → Reply op × World) :
    List Choice → Program Op Reply α → World → Program Op Reply α × World
  | [], program, world => (program, world)
  | _ :: _, .done value, world => (.done value, world)
  | choice :: choices, .call op next, world =>
      advance answer choices (next (answer world op choice).1) (answer world op choice).2
  | choice :: choices, .poll op again next, world =>
      if again (answer world op choice).1 then
        advance answer choices (.poll op again next) (answer world op choice).2
      else advance answer choices (next (answer world op choice).1) (answer world op choice).2

/-- What the program returns when answered by a list of choices, if it gets to return. -/
def replay {World Choice : Type} (answer : World → (op : Op) → Choice → Reply op × World)
    (choices : List Choice) (program : Program Op Reply α) (world : World) :
    Option (α × World) :=
  match advance answer choices program world with
  | (.done value, result) => some (value, result)
  | _ => none

theorem advance_of_replay {World Choice : Type}
    {answer : World → (op : Op) → Choice → Reply op × World} {choices : List Choice}
    {program : Program Op Reply α} {world result : World} {value : α}
    (replayed : replay answer choices program world = some (value, result)) :
    advance answer choices program world = (.done value, result) := by
  unfold replay at replayed
  split at replayed
  · rename_i returned advanced
    cases replayed
    exact advanced
  · cases replayed

end Program

/-- The device as the calls see it, what the other agents may do in between, and what has
to hold whenever the program is about to make a call, or about to return. -/
structure Device (World Op : Type) (Reply : Op → Type) where
  effect : World → (op : Op) → Reply op → World → Prop
  interferes : World → World → Prop
  safe : World → Option Op → Prop

namespace Device

variable {World Op : Type} {Reply : Op → Type} {α β : Type}

def Stable (device : Device World Op Reply) (assertion : World → Prop) : Prop :=
  ∀ before after, device.interferes before after → assertion before → assertion after

/-- An assertion the program may rest at. -/
structure Holding (device : Device World Op Reply) (assertion : World → Prop) : Prop where
  stable : device.Stable assertion
  safe : ∀ world, assertion world → device.safe world none

/-- A call that may be made wherever `before` holds, and what holds after each reply. -/
structure Moves (device : Device World Op Reply) (before : World → Prop) (op : Op)
    (after : Reply op → World → Prop) : Prop where
  safe : ∀ world, before world → device.safe world (some op)
  moves : ∀ reply world result, before world → device.effect world op reply result →
    after reply result

def Meets (device : Device World Op Reply) :
    Program Op Reply α → (World → Prop) → (α → World → Prop) → Prop
  | .done value, before, after =>
      device.Holding before ∧ ∀ world, before world → after value world
  | .call op next, before, after =>
      device.Stable before ∧ ∃ middle : Reply op → World → Prop,
        device.Moves before op middle ∧
          ∀ reply, Meets device (next reply) (middle reply) after
  | .poll op again next, before, after =>
      device.Stable before ∧ ∃ middle : Reply op → World → Prop,
        device.Moves before op
            (fun reply => if again reply then before else middle reply) ∧
          ∀ reply, again reply = false → Meets device (next reply) (middle reply) after

variable {device : Device World Op Reply}

theorem Meets.stable {program : Program Op Reply α} {before : World → Prop}
    {after : α → World → Prop} (meets : device.Meets program before after) :
    device.Stable before := by
  cases program with
  | done value => exact meets.1.stable
  | call op next => exact meets.1
  | poll op again next => exact meets.1

theorem Meets.safe {program : Program Op Reply α} {before : World → Prop}
    {after : α → World → Prop} (meets : device.Meets program before after) {world : World}
    (holds : before world) : device.safe world program.issues := by
  cases program with
  | done value => exact meets.1.safe world holds
  | call op next =>
      obtain ⟨_, _, moves, _⟩ := meets
      exact moves.safe world holds
  | poll op again next =>
      obtain ⟨_, _, moves, _⟩ := meets
      exact moves.safe world holds

theorem Meets.done {value : α} {before : World → Prop} {after : α → World → Prop}
    (holding : device.Holding before) (implies : ∀ world, before world → after value world) :
    device.Meets (pure value : Program Op Reply α) before after :=
  ⟨holding, implies⟩

theorem Meets.call {op : Op} {next : Reply op → Program Op Reply α} {before : World → Prop}
    {middle : Reply op → World → Prop} {after : α → World → Prop}
    (holding : device.Holding before) (moves : device.Moves before op middle)
    (rest : ∀ reply, device.Meets (next reply) (middle reply) after) :
    device.Meets (.call op next) before after :=
  ⟨holding.stable, middle, moves, rest⟩

theorem Meets.poll {op : Op} {again : Reply op → Bool} {next : Reply op → Program Op Reply α}
    {before : World → Prop} {middle : Reply op → World → Prop} {after : α → World → Prop}
    (holding : device.Holding before)
    (moves : device.Moves before op (fun reply => if again reply then before else middle reply))
    (rest : ∀ reply, again reply = false → device.Meets (next reply) (middle reply) after) :
    device.Meets (.poll op again next) before after :=
  ⟨holding.stable, middle, moves, rest⟩

theorem Meets.weaken {program : Program Op Reply α} {before : World → Prop}
    {after other : α → World → Prop}
    (implies : ∀ value world, after value world → other value world)
    (meets : device.Meets program before after) : device.Meets program before other := by
  induction program generalizing before with
  | done value => exact ⟨meets.1, fun world holds => implies value world (meets.2 world holds)⟩
  | call op next ih =>
      obtain ⟨stable, middle, moves, rest⟩ := meets
      exact ⟨stable, middle, moves, fun reply => ih reply (rest reply)⟩
  | poll op again next ih =>
      obtain ⟨stable, middle, moves, rest⟩ := meets
      exact ⟨stable, middle, moves, fun reply left => ih reply (rest reply left)⟩

/-- A step of the program goes from one point of its outline to another. -/
theorem Meets.continues {program rest : Program Op Reply α} {before : World → Prop}
    {after : α → World → Prop} (meets : device.Meets program before after)
    {world result : World} (holds : before world) {op : Op} {reply : Reply op}
    (effect : device.effect world op reply result) (continues : program.Continues op reply rest) :
    ∃ now, now result ∧ device.Meets rest now after := by
  cases continues with
  | call reply =>
      obtain ⟨_, middle, moves, next⟩ := meets
      exact ⟨middle reply, moves.moves reply world result holds effect, next reply⟩
  | again repeated =>
      have kept := meets
      obtain ⟨_, middle, moves, _⟩ := meets
      have moved := moves.moves reply world result holds effect
      rw [if_pos repeated] at moved
      exact ⟨before, moved, kept⟩
  | leave left =>
      obtain ⟨_, middle, moves, next⟩ := meets
      have moved := moves.moves reply world result holds effect
      rw [if_neg (by simp [left])] at moved
      exact ⟨middle reply, moved, next reply left⟩

/-! ### A call made alone -/

inductive Returns (device : Device World Op Reply) :
    Program Op Reply α → World → α → World → Prop where
  | done (value : α) (world : World) : Returns device (.done value) world value world
  | step {program rest : Program Op Reply α} {world middle result : World} {op : Op}
      {reply : Reply op} {value : α} (continues : program.Continues op reply rest)
      (effect : device.effect world op reply middle)
      (returns : Returns device rest middle value result) :
      Returns device program world value result

theorem Meets.returns {program : Program Op Reply α} {world result : World} {value : α}
    (returns : device.Returns program world value result) {before : World → Prop}
    {after : α → World → Prop} (meets : device.Meets program before after)
    (holds : before world) : after value result := by
  induction returns generalizing before with
  | done value world => exact meets.2 world holds
  | step continues effect _ ih =>
      obtain ⟨now, reached, rest⟩ := meets.continues holds effect continues
      exact ih rest reached

/-- The points a call made alone goes through, whether or not it returns. -/
inductive Reaches (device : Device World Op Reply) :
    Program Op Reply α → World → Program Op Reply α → World → Prop where
  | here (program : Program Op Reply α) (world : World) :
      Reaches device program world program world
  | step {program rest last : Program Op Reply α} {world middle result : World} {op : Op}
      {reply : Reply op} (continues : program.Continues op reply rest)
      (effect : device.effect world op reply middle)
      (reaches : Reaches device rest middle last result) :
      Reaches device program world last result

/-- At each of them the next call is safe. -/
theorem Meets.safe_of_reaches {program last : Program Op Reply α} {world result : World}
    (reaches : device.Reaches program world last result) {before : World → Prop}
    {after : α → World → Prop} (meets : device.Meets program before after)
    (holds : before world) : device.safe result last.issues := by
  induction reaches generalizing before with
  | here program world => exact meets.safe holds
  | step continues effect _ ih =>
      obtain ⟨now, reached, rest⟩ := meets.continues holds effect continues
      exact ih rest reached

theorem Meets.unreachable (program : Program Op Reply α) (after : α → World → Prop) :
    device.Meets program (fun _ => False) after := by
  have stable : device.Stable (fun _ => False) := fun _ _ _ => False.elim
  induction program with
  | done value => exact ⟨⟨stable, fun _ => False.elim⟩, fun _ => False.elim⟩
  | call op next ih =>
      exact ⟨stable, fun _ _ => False, ⟨fun _ => False.elim, fun _ _ _ => False.elim⟩, ih⟩
  | poll op again next ih =>
      refine ⟨stable, fun _ _ => False, ⟨fun _ => False.elim, fun _ _ _ => False.elim⟩, ?_⟩
      exact fun reply _ => ih reply

theorem Returns.bind {program : Program Op Reply α} {rest : α → Program Op Reply β}
    {world middle result : World} {value : α} {answer : β}
    (first : device.Returns program world value middle)
    (second : device.Returns (rest value) middle answer result) :
    device.Returns (program >>= rest) world answer result := by
  induction first with
  | done value world => exact second
  | step continues effect _ ih => exact .step (continues.bind rest) effect (ih second)

def Deterministic (device : Device World Op Reply) : Prop :=
  ∀ world op reply result other otherResult, device.effect world op reply result →
    device.effect world op other otherResult → reply = other ∧ result = otherResult

/-- The program returns this and can return nothing else. -/
structure ReturnsOnly (device : Device World Op Reply) (program : Program Op Reply α)
    (world : World) (value : α) (result : World) : Prop where
  returns : device.Returns program world value result
  only : ∀ other otherResult, device.Returns program world other otherResult →
    other = value ∧ otherResult = result

theorem Returns.only (deterministic : device.Deterministic) {program : Program Op Reply α}
    {world result : World} {value : α} (returns : device.Returns program world value result) :
    device.ReturnsOnly program world value result := by
  refine ⟨returns, ?_⟩
  induction returns with
  | done value world =>
      intro other otherResult returnsOther
      cases returnsOther with
      | done => exact ⟨rfl, rfl⟩
      | step continues => cases continues
  | step continues effect _ ih =>
      intro other otherResult returnsOther
      cases returnsOther with
      | done => cases continues
      | step continuesOther effectOther returnsRest =>
          have sameOp := Option.some.inj (continues.issues.symm.trans continuesOther.issues)
          subst sameOp
          obtain ⟨sameReply, sameResult⟩ :=
            deterministic _ _ _ _ _ _ effect effectOther
          subst sameReply
          subst sameResult
          rw [← continues.unique continuesOther] at returnsRest
          exact ih other otherResult returnsRest

/-! ### A device of one's own -/

section Solitary

variable {permits : World → (op : Op) → Reply op → Prop}
  {result : World → (op : Op) → Reply op → World} {safe : World → Option Op → Prop}

/-- Nobody interferes, and the reply fixes what a call leaves. -/
def solitary (permits : World → (op : Op) → Reply op → Prop)
    (result : World → (op : Op) → Reply op → World) (safe : World → Option Op → Prop) :
    Device World Op Reply where
  effect world op reply after := permits world op reply ∧ after = result world op reply
  interferes _ _ := False
  safe := safe

private theorem solitary_stable (assertion : World → Prop) :
    (solitary permits result safe).Stable assertion :=
  fun _ _ interferes => interferes.elim

theorem Meets.solitary_call {op : Op} {next : Reply op → Program Op Reply α} {world : World}
    {after : α → World → Prop} (issued : safe world (some op))
    (rest : ∀ reply, permits world op reply →
      (solitary permits result safe).Meets (next reply) (· = result world op reply) after) :
    (solitary permits result safe).Meets (.call op next) (· = world) after := by
  refine ⟨solitary_stable _,
    fun reply left => permits world op reply ∧ left = result world op reply, ⟨?_, ?_⟩, ?_⟩
  · rintro _ rfl
    exact issued
  · rintro reply _ left rfl ⟨permitted, same⟩
    exact ⟨permitted, same⟩
  · intro reply
    by_cases permitted : permits world op reply
    · simp only [permitted, true_and]
      exact rest reply permitted
    · simp only [permitted, false_and]
      exact .unreachable _ _

theorem Meets.solitary_done {value : α} {world : World} {after : α → World → Prop}
    (returned : safe world none) (holds : after value world) :
    (solitary permits result safe).Meets (pure value : Program Op Reply α) (· = world) after := by
  refine Meets.done ⟨solitary_stable _, ?_⟩ ?_
  · rintro _ rfl
    exact returned
  · rintro _ rfl
    exact holds

end Solitary

/-! ### Runs that all end -/

/-- Every run of the program from here returns, whatever the device answers, and returns well. -/
inductive Ends (device : Device World Op Reply) (after : α → World → Prop) :
    Program Op Reply α → World → Prop where
  | done {value : α} {world : World} (returned : after value world) :
      Ends device after (.done value) world
  | step {program : Program Op Reply α} {world : World}
      (answered : ∃ op reply rest result, program.Continues op reply rest ∧
        device.effect world op reply result)
      (ends : ∀ op reply rest result, program.Continues op reply rest →
        device.effect world op reply result → Ends device after rest result) :
      Ends device after program world

theorem Ends.continues {program rest : Program Op Reply α} {after : α → World → Prop}
    {world result : World} (ends : device.Ends after program world) {op : Op} {reply : Reply op}
    (continues : program.Continues op reply rest)
    (effect : device.effect world op reply result) : device.Ends after rest result := by
  cases ends with
  | done returned => cases continues
  | step _ ends => exact ends _ _ _ _ continues effect

theorem Ends.returned {value : α} {after : α → World → Prop} {world : World}
    (ends : device.Ends after (.done value) world) : after value world := by
  cases ends with
  | done returned => exact returned
  | step answered =>
      obtain ⟨_, _, _, _, continues, _⟩ := answered
      cases continues

/-- A call that the device answers, and every answer leads to an end. -/
theorem Ends.call {op : Op} {next : Reply op → Program Op Reply α} {after : α → World → Prop}
    {world : World} (answered : ∃ reply result, device.effect world op reply result)
    (ends : ∀ reply result, device.effect world op reply result →
      device.Ends after (next reply) result) : device.Ends after (.call op next) world := by
  obtain ⟨reply, result, effect⟩ := answered
  refine .step ⟨op, reply, next reply, result, .call reply, effect⟩ ?_
  intro op reply rest result continues effect
  cases continues with
  | call reply => exact ends reply result effect

def afterPoll (op : Op) (again : Reply op → Bool) (next : Reply op → Program Op Reply α)
    (reply : Reply op) : Program Op Reply α :=
  if again reply then .poll op again next else next reply

theorem continues_poll (op : Op) (again : Reply op → Bool) (next : Reply op → Program Op Reply α)
    (reply : Reply op) :
    (Program.poll op again next).Continues op reply (afterPoll op again next reply) := by
  unfold afterPoll
  split
  · rename_i repeated
    exact .again repeated
  · rename_i left
    exact .leave (Bool.of_not_eq_true left)

theorem Ends.poll {op : Op} {again : Reply op → Bool} {next : Reply op → Program Op Reply α}
    {after : α → World → Prop} {world : World}
    (answered : ∃ reply result, device.effect world op reply result)
    (ends : ∀ reply result, device.effect world op reply result →
      device.Ends after (afterPoll op again next reply) result) :
    device.Ends after (.poll op again next) world := by
  obtain ⟨reply, result, effect⟩ := answered
  refine .step ⟨op, reply, _, result, continues_poll op again next reply, effect⟩ ?_
  intro other reply rest result continues effect
  have sameOp : op = other := Option.some.inj continues.issues
  subst sameOp
  rw [continues.unique (continues_poll op again next reply)]
  exact ends reply result effect

theorem Ends.weaken {program : Program Op Reply α} {after other : α → World → Prop}
    {world : World} (implies : ∀ value world, after value world → other value world)
    (ends : device.Ends after program world) : device.Ends other program world := by
  induction ends with
  | done returned => exact .done (implies _ _ returned)
  | step answered _ ih => exact .step answered ih

theorem Ends.bind {program : Program Op Reply α} {rest : α → Program Op Reply β}
    {after : β → World → Prop} {world : World}
    (ends : device.Ends (fun value result => device.Ends after (rest value) result)
      program world) : device.Ends after (program >>= rest) world := by
  induction ends with
  | done returned => exact returned
  | @step program world answered ends ih =>
      obtain ⟨op, reply, left, result, continues, effect⟩ := answered
      refine .step ⟨op, reply, left >>= rest, result, continues.bind rest, effect⟩ ?_
      intro other otherReply after' result continuesOther effectOther
      have pending : program.issues ≠ none := by
        rw [continues.issues]
        exact Option.some_ne_none op
      obtain ⟨first, continuesFirst, rfl⟩ := continuesOther.unbind pending
      exact ih _ _ _ _ continuesFirst effectOther

/-- If all runs of a composition end, some run of its first part leads to the rest, no
earlier than it began. -/
theorem Ends.reaches_rest [Preorder World]
    (advances : ∀ {world op reply result}, device.effect world op reply result → world ≤ result)
    {program : Program Op Reply α} {rest : α → Program Op Reply β} {after : β → World → Prop}
    {world : World} (ends : device.Ends after (program >>= rest) world) :
    ∃ value result, world ≤ result ∧ device.Ends after (rest value) result := by
  generalize composed : program >>= rest = whole at ends
  induction ends generalizing program with
  | @done value world returned =>
      cases program with
      | done first =>
          have same : rest first = .done value := composed
          exact ⟨first, world, le_refl world, same ▸ .done returned⟩
      | call op next => cases composed
      | poll op again next => cases composed
  | @step whole world answered ends ih =>
      subst composed
      cases finished : program.issues with
      | none =>
          cases program with
          | done first => exact ⟨first, world, le_refl world, .step answered ends⟩
          | call op next => cases finished
          | poll op again next => cases finished
      | some pending =>
          obtain ⟨op, reply, left, result, continues, effect⟩ := answered
          have unfinished : program.issues ≠ none := by
            rw [finished]
            exact Option.some_ne_none pending
          obtain ⟨first, _, rfl⟩ := continues.unbind unfinished
          obtain ⟨value, last, later, ended⟩ := ih _ _ _ _ continues effect rfl
          exact ⟨value, last, le_trans (advances effect) later, ended⟩

/-- A replay with answers the device may give is a call that returns. -/
theorem returns_of_advance {Choice : Type}
    {answer : World → (op : Op) → Choice → Reply op × World}
    (answers : ∀ world op choice,
      device.effect world op (answer world op choice).1 (answer world op choice).2)
    {choices : List Choice} {program : Program Op Reply α} {world result : World} {value : α}
    (advanced : program.advance answer choices world = (.done value, result)) :
    device.Returns program world value result := by
  induction choices generalizing program world with
  | nil =>
      cases advanced
      exact .done _ _
  | cons choice choices ih =>
      cases program with
      | done other =>
          cases advanced
          exact .done _ _
      | call op next => exact .step (.call _) (answers world op choice) (ih advanced)
      | poll op again next =>
          unfold Program.advance at advanced
          split at advanced
          · rename_i repeated
            exact .step (.again repeated) (answers world op choice) (ih advanced)
          · rename_i left
            exact .step (.leave (Bool.of_not_eq_true left)) (answers world op choice)
              (ih advanced)

end Device

/-! ### A service that runs its phases for ever -/

/-- The bodies of the phases and what returning from one hands over to the next. -/
structure Service (World Op : Type) (Reply : Op → Type) (Phase : Type)
    (Result : Phase → Type) where
  device : Device World Op Reply
  body : (phase : Phase) → Program Op Reply (Result phase)
  finish : (phase : Phase) → Result phase → World → World
  following : Phase → Phase

structure ServiceState (World Op : Type) (Reply : Op → Type) (Phase : Type)
    (Result : Phase → Type) where
  world : World
  phase : Phase
  program : Program Op Reply (Result phase)

inductive ServiceAction (Op : Type) (Reply : Op → Type) where
  | interfere
  | perform (op : Op) (reply : Reply op)
  | finish

namespace Service

variable {World Op : Type} {Reply : Op → Type} {Phase : Type} {Result : Phase → Type}

def enter (service : Service World Op Reply Phase Result) (phase : Phase) (world : World) :
    ServiceState World Op Reply Phase Result :=
  ⟨world, phase, service.body phase⟩

inductive Step (service : Service World Op Reply Phase Result) :
    ServiceState World Op Reply Phase Result → ServiceAction Op Reply →
      ServiceState World Op Reply Phase Result → Prop where
  | interfere {world result : World} {phase : Phase} {program : Program Op Reply (Result phase)}
      (interferes : service.device.interferes world result) :
      Step service ⟨world, phase, program⟩ .interfere ⟨result, phase, program⟩
  | perform {world result : World} {phase : Phase} {program rest : Program Op Reply (Result phase)}
      {op : Op} {reply : Reply op} (effect : service.device.effect world op reply result)
      (continues : program.Continues op reply rest) :
      Step service ⟨world, phase, program⟩ (.perform op reply) ⟨result, phase, rest⟩
  | finish {world : World} {phase : Phase} (value : Result phase) :
      Step service ⟨world, phase, .done value⟩ .finish
        (service.enter (service.following phase) (service.finish phase value world))

def system (service : Service World Op Reply Phase Result) (start : Phase)
    (initially : World → Prop) :
    TransitionSystem (ServiceState World Op Reply Phase Result) (ServiceAction Op Reply) where
  initial state := ∃ world, initially world ∧ state = service.enter start world
  step := service.Step

/-- Somewhere on the outline of the current phase. -/
def OnOutline (service : Service World Op Reply Phase Result) (between : Phase → World → Prop)
    (state : ServiceState World Op Reply Phase Result) : Prop :=
  ∃ now : World → Prop, now state.world ∧
    service.device.Meets state.program now
      (fun value world => between (service.following state.phase)
        (service.finish state.phase value world))

variable {service : Service World Op Reply Phase Result} {between : Phase → World → Prop}

private theorem onOutline_enter
    (bodies : ∀ phase, service.device.Meets (service.body phase) (between phase)
      (fun value world => between (service.following phase) (service.finish phase value world)))
    {phase : Phase} {world : World} (holds : between phase world) :
    service.OnOutline between (service.enter phase world) :=
  ⟨between phase, holds, bodies phase⟩

private theorem onOutline_step
    (bodies : ∀ phase, service.device.Meets (service.body phase) (between phase)
      (fun value world => between (service.following phase) (service.finish phase value world)))
    {before after : ServiceState World Op Reply Phase Result} {action : ServiceAction Op Reply}
    (step : service.Step before action after) (outlined : service.OnOutline between before) :
    service.OnOutline between after := by
  obtain ⟨now, holds, meets⟩ := outlined
  cases step with
  | interfere interferes => exact ⟨now, meets.stable _ _ interferes holds, meets⟩
  | perform effect continues => exact meets.continues holds effect continues
  | finish value => exact onOutline_enter bodies (meets.2 _ holds)

/-- The outlines of the phases hold at every point of every run of the service. -/
theorem onOutline_of_reachable {start : Phase} {initially : World → Prop}
    (starts : ∀ world, initially world → between start world)
    (bodies : ∀ phase, service.device.Meets (service.body phase) (between phase)
      (fun value world => between (service.following phase) (service.finish phase value world)))
    {state : ServiceState World Op Reply Phase Result}
    (reachable : (service.system start initially).Reachable state) :
    service.OnOutline between state := by
  refine reachable.invariant (service.OnOutline between) ?_ ?_
  · rintro _ ⟨world, initial, rfl⟩
    exact onOutline_enter bodies (starts world initial)
  · intro before action after step outlined
    exact onOutline_step bodies step outlined

/-- So whatever call a reachable state is about to make is safe there. -/
theorem safe_of_reachable {start : Phase} {initially : World → Prop}
    (starts : ∀ world, initially world → between start world)
    (bodies : ∀ phase, service.device.Meets (service.body phase) (between phase)
      (fun value world => between (service.following phase) (service.finish phase value world)))
    {state : ServiceState World Op Reply Phase Result}
    (reachable : (service.system start initially).Reachable state) :
    service.device.safe state.world state.program.issues := by
  obtain ⟨now, holds, meets⟩ := onOutline_of_reachable starts bodies reachable
  exact meets.safe holds

/-! ### Runs whose calls all meet a condition -/

/-- The same service with only the answers a condition permits. -/
def narrow (service : Service World Op Reply Phase Result)
    (permits : World → (op : Op) → Reply op → Prop) : Service World Op Reply Phase Result :=
  { service with
    device :=
      { service.device with
        effect := fun world op reply result =>
          permits world op reply ∧ service.device.effect world op reply result } }

def Permitted (permits : World → (op : Op) → Reply op → Prop)
    (before : ServiceState World Op Reply Phase Result) : ServiceAction Op Reply → Prop
  | .perform op reply => permits before.world op reply
  | _ => True

theorem reachable_narrow {start : Phase} {initially : World → Prop}
    {permits : World → (op : Op) → Reply op → Prop}
    {state : ServiceState World Op Reply Phase Result}
    (reachable :
      ((service.system start initially).restrict (Permitted permits)).Reachable state) :
    ((service.narrow permits).system start initially).Reachable state := by
  induction reachable with
  | start initial => exact .start initial
  | @next _ after action _ step ih =>
      obtain ⟨permitted, step⟩ := step
      refine @TransitionSystem.Reachable.next _ _ _ _ after action ih ?_
      cases step with
      | interfere interferes =>
          exact @Step.interfere _ _ _ _ _ (service.narrow permits) _ _ _ _ interferes
      | perform effect continues =>
          exact @Step.perform _ _ _ _ _ (service.narrow permits) _ _ _ _ _ _ _
            ⟨permitted, effect⟩ continues
      | finish value => exact @Step.finish _ _ _ _ _ (service.narrow permits) _ _ value

/-! ### Rehearsed runs -/

/-- Phase after phase, each answered by its own list of choices. -/
def rehearse {Choice : Type} (service : Service World Op Reply Phase Result)
    (answer : World → (op : Op) → Choice → Reply op × World) :
    List (List Choice) → Phase → World → Option World
  | [], _, world => some world
  | choices :: later, phase, world =>
      match (service.body phase).replay answer choices world with
      | none => none
      | some (value, result) =>
          service.rehearse answer later (service.following phase)
            (service.finish phase value result)

section Rehearse

variable {start : Phase} {initially : World → Prop}
  {permitted : ServiceState World Op Reply Phase Result → ServiceAction Op Reply → Prop}
  {Choice : Type} {answer : World → (op : Op) → Choice → Reply op × World}

theorem reachable_of_advance
    (answers : ∀ world op choice,
      service.device.effect world op (answer world op choice).1 (answer world op choice).2)
    (performs : ∀ (state : ServiceState World Op Reply Phase Result) op choice,
      permitted state (.perform op (answer state.world op choice).1))
    {choices : List Choice} {phase : Phase} {program : Program Op Reply (Result phase)}
    {world : World}
    (reachable : ((service.system start initially).restrict permitted).Reachable
      ⟨world, phase, program⟩) :
    ((service.system start initially).restrict permitted).Reachable
      ⟨(program.advance answer choices world).2, phase,
        (program.advance answer choices world).1⟩ := by
  have continued : ∀ {rest : Program Op Reply (Result phase)} {world : World} {op : Op}
      {choice : Choice} {program : Program Op Reply (Result phase)},
      ((service.system start initially).restrict permitted).Reachable ⟨world, phase, program⟩ →
      program.Continues op (answer world op choice).1 rest →
      ((service.system start initially).restrict permitted).Reachable
        ⟨(answer world op choice).2, phase, rest⟩ := by
    intro rest world op choice program reachable continues
    exact @TransitionSystem.Reachable.next _ _ _ _ _ (.perform op (answer world op choice).1)
      reachable ⟨performs _ op choice, .perform (answers world op choice) continues⟩
  induction choices generalizing program world with
  | nil => exact reachable
  | cons choice choices ih =>
      cases program with
      | done value => exact reachable
      | call op next => exact ih (continued reachable (.call _))
      | poll op again next =>
          unfold Program.advance
          split
          · rename_i repeated
            exact ih (continued reachable (.again repeated))
          · rename_i left
            exact ih (continued reachable (.leave (Bool.of_not_eq_true left)))

/-- Where a rehearsal ends the service gets, at the start of some phase. -/
theorem reachable_of_rehearse
    (answers : ∀ world op choice,
      service.device.effect world op (answer world op choice).1 (answer world op choice).2)
    (performs : ∀ (state : ServiceState World Op Reply Phase Result) op choice,
      permitted state (.perform op (answer state.world op choice).1))
    (finishes : ∀ state, permitted state .finish) {choices : List (List Choice)} {phase : Phase}
    {world result : World}
    (rehearsed : service.rehearse answer choices phase world = some result)
    (reachable : ((service.system start initially).restrict permitted).Reachable
      (service.enter phase world)) :
    ∃ last, ((service.system start initially).restrict permitted).Reachable
      (service.enter last result) := by
  induction choices generalizing phase world with
  | nil =>
      cases rehearsed
      exact ⟨phase, reachable⟩
  | cons choices later ih =>
      unfold rehearse at rehearsed
      split at rehearsed
      · cases rehearsed
      · rename_i value middle replayed
        have returned := @reachable_of_advance _ _ _ _ _ service start initially permitted
          Choice answer answers performs choices phase (service.body phase) world reachable
        rw [Program.advance_of_replay replayed] at returned
        exact ih rehearsed (returned.next ⟨finishes _, .finish value⟩)

end Rehearse

end Service

end SflowMiddle.Foundation

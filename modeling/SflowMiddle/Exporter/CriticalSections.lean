/-
The two models of the shared queue in src/main.cpp, one above the other. With the
mutex as a variable of its own, the sections under it exclude each other and the pop
always finds a batch; and every run with the mutex is a run of the threads whose
sections are single steps, so that what holds of their queue holds here too.
-/

import SflowMiddle.Exporter.Shutdown
import SflowMiddle.Exporter.Wakeup
import SflowMiddle.Foundation.Simulation

namespace SflowMiddle.Exporter

open SflowMiddle.Foundation

variable {Batch : Type}

/-! ### Mutual exclusion -/

/-- smartNicIoThread is between its lock_guard and the end of its block. -/
def ProducerPosition.Inside : ProducerPosition Batch → Prop
  | .pushing _ => True
  | .notifyingOne => True
  | .unlocking => True
  | _ => False

/-- transmitThread holds its unique_lock. -/
def WaiterPosition.Inside : WaiterPosition Batch → Prop
  | .testing => True
  | .fallingAsleep => True
  | .taking => True
  | _ => False

/-- The owner of the mutex is the thread that is inside its section, and what transmitThread
found when it tested the predicate is still so when it takes. -/
structure Exclusive (threads : WaitingThreads Batch) : Prop where
  producer : threads.mutex = some .producer ↔ threads.io.Inside
  waiter : threads.mutex = some .waiter ↔ threads.transmit.Inside
  taking : threads.transmit = .taking → threads.Ready

section Moves

variable {threads : WaitingThreads Batch}

private theorem Exclusive.notify (exclusive : Exclusive threads) : Exclusive threads.notify := by
  obtain ⟨producer, waiter, taking⟩ := exclusive
  unfold WaitingThreads.notify
  split
  · rename_i asleep
    rw [asleep] at waiter
    exact ⟨producer, waiter, fun impossible => by cases impossible⟩
  · exact ⟨producer, waiter, taking⟩

private theorem Exclusive.moveIo (exclusive : Exclusive threads) {position : ProducerPosition Batch}
    (same : threads.io.Inside ↔ position.Inside) : Exclusive { threads with io := position } :=
  ⟨exclusive.producer.trans same, exclusive.waiter, exclusive.taking⟩

private theorem Exclusive.moveTransmit (exclusive : Exclusive threads)
    {position : WaiterPosition Batch}
    (same : threads.transmit.Inside ↔ position.Inside)
    (taking : position = .taking → threads.Ready) :
    Exclusive { threads with transmit := position } :=
  ⟨exclusive.producer, exclusive.waiter.trans same, taking⟩

private theorem Exclusive.enterIo (exclusive : Exclusive threads) {batch : Batch}
    (free : threads.mutex = none) :
    Exclusive { threads with io := .pushing batch, mutex := some .producer } := by
  refine ⟨⟨fun _ => trivial, fun _ => rfl⟩, ⟨fun impossible => (by cases impossible), ?_⟩,
    exclusive.taking⟩
  intro inside
  have held := exclusive.waiter.mpr inside
  rw [free] at held
  cases held

private theorem Exclusive.leaveIo (exclusive : Exclusive threads) (inside : threads.io.Inside) :
    Exclusive { threads with io := .loopTest, mutex := none } := by
  have held := exclusive.producer.mpr inside
  refine ⟨⟨fun impossible => (by cases impossible), False.elim⟩,
    ⟨fun impossible => (by cases impossible), ?_⟩, exclusive.taking⟩
  intro other
  rw [exclusive.waiter.mpr other] at held
  cases held

private theorem Exclusive.enterTransmit (exclusive : Exclusive threads)
    (free : threads.mutex = none) :
    Exclusive { threads with transmit := .testing, mutex := some .waiter } := by
  refine ⟨⟨fun impossible => (by cases impossible), ?_⟩, ⟨fun _ => trivial, fun _ => rfl⟩,
    fun impossible => by cases impossible⟩
  intro inside
  have held := exclusive.producer.mpr inside
  rw [free] at held
  cases held

private theorem Exclusive.leaveTransmit (exclusive : Exclusive threads)
    (inside : threads.transmit.Inside) {queue : List Batch} {position : WaiterPosition Batch}
    (outside : ¬ position.Inside) :
    Exclusive { threads with queue := queue, transmit := position, mutex := none } := by
  have held := exclusive.waiter.mpr inside
  refine ⟨⟨fun impossible => (by cases impossible), ?_⟩,
    ⟨fun impossible => (by cases impossible), fun inside => absurd inside outside⟩, ?_⟩
  · intro other
    rw [exclusive.producer.mpr other] at held
    cases held
  · intro taking
    change position = .taking at taking
    rw [taking] at outside
    exact absurd trivial outside

end Moves

private theorem exclusive_step {before after : WaitingThreads Batch} {action : WaitAction Batch}
    (move : WaitMove before action after) (exclusive : Exclusive before) : Exclusive after := by
  have notified := exclusive.notify
  cases move with
  | ioTestRunning here =>
      apply exclusive.moveIo
      rw [here]
      split <;> exact Iff.rfl
  | ioWake here | ioAggregate here | ioSkip here | ioDrain here =>
      apply exclusive.moveIo
      rw [here]
      exact Iff.rfl
  | ioLock here free => exact exclusive.enterIo free
  | ioPush here =>
      refine ⟨exclusive.producer.trans ?_, exclusive.waiter, fun _ => Or.inl (by simp)⟩
      rw [here]
      exact Iff.rfl
  | ioNotifyOne here | ioNotifyAll here =>
      apply notified.moveIo
      rw [waiting_notify_io, here]
      exact Iff.rfl
  | ioUnlock here => exact exclusive.leaveIo (by rw [here]; trivial)
  | transmitLock here free => exact exclusive.enterTransmit free
  | transmitRelock here free => exact exclusive.enterTransmit free
  | transmitTest here =>
      apply exclusive.moveTransmit
      · rw [here]
        split <;> exact Iff.rfl
      · intro taking
        split at taking
        · assumption
        · cases taking
  | transmitSleep here | transmitTake here | transmitLeave here =>
      exact exclusive.leaveTransmit (by rw [here]; trivial) False.elim
  | transmitSpuriousWake here | transmitSend here | transmitJoin here =>
      apply exclusive.moveTransmit
      · rw [here]
        exact Iff.rfl
      · exact fun impossible => by cases impossible
  | mainStop | signalStop => exact ⟨exclusive.producer, exclusive.waiter, fun _ => Or.inr rfl⟩
  | mainNotify | signalNotify => exact ⟨notified.producer, notified.waiter, notified.taking⟩
  | signalLeave => exact ⟨exclusive.producer, exclusive.waiter, exclusive.taking⟩

theorem exclusive_of_reachable {threads : WaitingThreads Batch}
    (reachable : (waitSystem Batch).Reachable threads) : Exclusive threads := by
  refine reachable.invariant Exclusive ?_ ?_
  · intro state initial
    rw [initial]
    exact ⟨by simp [ProducerPosition.Inside], by simp [WaiterPosition.Inside],
      fun impossible => by cases impossible⟩
  · intro before action after stepped exclusive
    exact exclusive_step (waitMove_of_step stepped) exclusive

private theorem take_defined {threads : WaitingThreads Batch} (exclusive : Exclusive threads)
    (taking : threads.transmit = .taking) : (threads.step .transmitTake).isSome := by
  unfold WaitingThreads.step WaitingThreads.stepIo WaitingThreads.stepTransmit
  rw [taking]
  cases queued : threads.queue with
  | cons batch rest => rfl
  | nil =>
      have stopped := (exclusive.taking taking).resolve_left (fun some => some queued)
      rw [stopped]
      rfl

/-- In every interleaving the two threads are never inside their sections together, the mutex is
held exactly while one of them is, and transmitThread never takes from an empty queue unless
the program stops. -/
theorem sections_exclusive (threads : WaitingThreads Batch)
    (reachable : (waitSystem Batch).Reachable threads) :
    ¬ (threads.io.Inside ∧ threads.transmit.Inside) ∧
      (threads.mutex = none ↔ ¬ threads.io.Inside ∧ ¬ threads.transmit.Inside) ∧
      (threads.transmit = .taking → (threads.step .transmitTake).isSome) := by
  have exclusive := exclusive_of_reachable reachable
  refine ⟨?_, ⟨?_, ?_⟩, take_defined exclusive⟩
  · rintro ⟨io, transmit⟩
    have producer := exclusive.producer.mpr io
    rw [exclusive.waiter.mpr transmit] at producer
    cases producer
  · intro free
    rw [← exclusive.producer, ← exclusive.waiter, free]
    exact ⟨fun impossible => (by cases impossible), fun impossible => (by cases impossible)⟩
  · rintro ⟨io, transmit⟩
    cases owner : threads.mutex with
    | none => rfl
    | some thread =>
        cases thread with
        | producer => exact absurd (exclusive.producer.mp owner) io
        | waiter => exact absurd (exclusive.waiter.mp owner) transmit

theorem sections_exclusive_taking :
    ∃ threads : WaitingThreads ExportData, threads.transmit = .taking ∧
      (threads.step .transmitTake).isSome := by
  have performed : ∃ threads : WaitingThreads ExportData,
      [WaitAction.mainStop, .transmitLock, .transmitTest].foldlM WaitingThreads.step {} =
        some threads ∧ threads.transmit = .taking := ⟨_, rfl, rfl⟩
  obtain ⟨threads, performed, taking⟩ := performed
  exact ⟨threads, taking,
    (sections_exclusive threads (reachable_of_steps (.start rfl) performed)).2.2 taking⟩

/-! ### Sections as single steps -/

def ProducerPosition.merged : ProducerPosition Batch → IoPosition Batch
  | .loopTest => .loopTest
  | .sleeping => .sleeping
  | .reading => .reading
  | .holding batch => .holding batch
  | .pushing batch => .holding (some batch)
  | .notifyingOne => .loopTest
  | .unlocking => .loopTest
  | .draining => .draining
  | .notifyingAll => .notifying
  | .returned => .returned

def WaiterPosition.merged : WaiterPosition Batch → TransmitPosition Batch
  | .sending batch => .sending batch
  | .leaving => .leaving
  | .returned => .returned
  | _ => .waiting

namespace WaitingThreads

/-- The threads without the mutex, with any history of the queue. -/
def merged (threads : WaitingThreads Batch) (pushed popped : List Batch) : Threads Batch where
  running := threads.running
  queue := threads.queue
  io := threads.io.merged
  transmit := threads.transmit.merged
  mainThread := threads.mainThread
  signalThread := threads.signalThread
  pushed := pushed
  popped := popped

private theorem notify_merged (threads : WaitingThreads Batch) (pushed popped : List Batch) :
    (threads.merged pushed popped).notify = threads.merged pushed popped := by
  unfold Threads.notify
  split
  · rename_i asleep
    change threads.transmit.merged = .asleep at asleep
    cases position : threads.transmit <;> rw [position] at asleep <;> cases asleep
  · rfl

end WaitingThreads

/-- The step of the merged threads, where a step has one. -/
def WaitAction.merged : WaitAction Batch → Option (ThreadAction Batch)
  | .ioTestRunning => some .ioTestRunning
  | .ioWake => some .ioWake
  | .ioAggregate batch => some (.ioAggregate batch)
  | .ioLock => some .ioPush -- a tick that has nothing to push
  | .ioPush => some .ioPush
  | .ioDrain => some .ioDrain
  | .ioNotifyAll => some .ioNotify
  | .transmitTake => some .transmitSection
  | .transmitSend => some .transmitSend
  | .transmitJoin => some .transmitJoin
  | .mainStop => some .mainStop
  | .mainNotify => some .mainNotify
  | .signalStop => some .signalStop
  | .signalNotify => some .signalNotify
  | .signalLeave => some .signalLeave
  | _ => none

/-- A step with the mutex is hidden, or it is the step of the merged threads. -/
inductive Matched (before after : WaitingThreads Batch) (action : WaitAction Batch)
    (pushed popped : List Batch) : Prop where
  | hidden (same : after.merged pushed popped = before.merged pushed popped)
  | seen {label : ThreadAction Batch} (laterPushed laterPopped : List Batch)
      (named : action.merged = some label)
      (step : (before.merged pushed popped).step label =
        some (after.merged laterPushed laterPopped))

private theorem matched_step {before after : WaitingThreads Batch} {action : WaitAction Batch}
    {pushed popped : List Batch} (stepped : before.step action = some after) :
    Matched before after action pushed popped := by
  obtain ⟨running, queue, mutex, io, transmit, mainThread, signalThread⟩ := before
  cases waitMove_of_step stepped with
  | ioTestRunning here =>
      cases here
      refine .seen pushed popped rfl ?_
      cases running <;> rfl
  | ioWake here | ioAggregate here | ioSkip here | ioDrain here =>
      cases here
      exact .seen pushed popped rfl rfl
  | @ioPush batch here =>
      cases here
      have quiet := WaitingThreads.notify_merged
        ⟨running, queue ++ [batch], mutex, .pushing batch, transmit, mainThread, signalThread⟩
        (pushed ++ [batch]) popped
      refine .seen (pushed ++ [batch]) popped rfl ?_
      exact congrArg (fun threads => some { threads with io := .loopTest }) quiet
  | ioLock here | ioUnlock here =>
      cases here
      exact .hidden rfl
  | ioNotifyOne here =>
      cases here
      apply Matched.hidden
      cases transmit <;> rfl
  | ioNotifyAll here | mainNotify here | signalNotify here =>
      cases here
      refine .seen pushed popped rfl ?_
      cases transmit <;> rfl
  | transmitLock here | transmitSleep here | transmitSpuriousWake here | transmitRelock here =>
      cases here
      exact .hidden rfl
  | transmitTest here =>
      cases here
      apply Matched.hidden
      unfold WaitingThreads.merged
      dsimp only
      split <;> rfl
  | @transmitTake batch rest here queued =>
      cases here
      cases queued
      exact .seen pushed (popped ++ [batch]) rfl rfl
  | transmitLeave here empty stopped =>
      cases here
      cases empty
      cases stopped
      exact .seen pushed popped rfl rfl
  | transmitSend here | transmitJoin here | mainStop here | signalStop here =>
      cases here
      exact .seen pushed popped rfl rfl
  | signalLeave here stopped =>
      cases here
      exact .seen pushed popped rfl (if_neg stopped)

/-- The threads without the mutex that threads with it stand for. -/
def Merges (threads : WaitingThreads Batch) (image : Threads Batch) : Prop :=
  ∃ pushed popped, image = threads.merged pushed popped

private theorem merges_initial {threads : WaitingThreads Batch}
    (initial : (waitSystem Batch).initial threads) :
    ∃ image, (threadSystem Batch).initial image ∧ Merges threads image := by
  change threads = {} at initial
  rw [initial]
  exact ⟨{}, rfl, [], [], rfl⟩

/-- Whatever the threads do with the mutex, they could have done with sections that are single
steps: each step is one step there or none, the queue, the flag and the positions outside the
sections being the same. A thread asleep is merged with one that waits: whether transmitThread
sleeps is seen here only. -/
theorem sections_simulate_waiting :
    TransitionSystem.StepSimulates (waitSystem Batch) (threadSystem Batch) Merges where
  initially _ initial := merges_initial initial
  matched := by
    rintro before action after _ stepped ⟨pushed, popped, rfl⟩
    rcases @matched_step _ before after action pushed popped stepped with same | ⟨_, _, _, step⟩
    · exact Or.inl ⟨pushed, popped, same.symm⟩
    · exact Or.inr ⟨_, _, step, _, _, rfl⟩

/-- With the mutex, transmitThread takes its exit at a take that finds nothing; no batch is on
its way then. -/
def TakesSettled (threads : WaitingThreads Batch) : WaitAction Batch → Prop
  | .transmitTake => threads.running = false → threads.queue = [] → threads.io.merged.Settled
  | _ => True

private theorem settled_of_takes {threads : WaitingThreads Batch} {action : WaitAction Batch}
    (permitted : TakesSettled threads action) {label : ThreadAction Batch}
    (named : action.merged = some label) (pushed popped : List Batch) :
    ExitsSettled (threads.merged pushed popped) label := by
  cases action <;> cases named <;> try trivial
  exact fun exits => permitted exits.1 exits.2

private theorem sections_simulate_settled :
    TransitionSystem.StepSimulates ((waitSystem Batch).restrict TakesSettled)
      ((threadSystem Batch).restrict ExitsSettled) Merges where
  initially _ initial := merges_initial initial
  matched := by
    rintro before action after _ ⟨permitted, stepped⟩ ⟨pushed, popped, rfl⟩
    rcases @matched_step _ before after action pushed popped stepped with
      same | ⟨_, _, named, step⟩
    · exact Or.inl ⟨pushed, popped, same.symm⟩
    · exact Or.inr ⟨_, _, ⟨settled_of_takes permitted named pushed popped, step⟩, _, _, rfl⟩

/-- With the mutex too: when no exit of transmitThread finds a batch on its way, the queue is
empty once both threads have returned. -/
theorem queue_empty_at_return (threads : WaitingThreads Batch)
    (reachable : ((waitSystem Batch).restrict TakesSettled).Reachable threads)
    (returned : threads.io = .returned ∧ threads.transmit = .returned) : threads.queue = [] := by
  obtain ⟨_, reached, pushed, popped, rfl⟩ :=
    sections_simulate_settled.simulates.reachable reachable
  have left : (threads.merged pushed popped).transmit.Left := by
    unfold WaitingThreads.merged
    rw [returned.2]
    trivial
  exact (drained_of_left reached left).empty

/-- One batch is pushed before the stop request, and sent after it. -/
def stopAfterPush : List (WaitAction ExportData) :=
  [.ioTestRunning, .ioWake, .ioAggregate (some counterBatch), .ioLock, .ioPush, .ioNotifyOne,
    .ioUnlock, .mainStop, .ioTestRunning, .ioDrain, .ioNotifyAll, .transmitLock, .transmitTest,
    .transmitTake, .transmitSend, .transmitLock, .transmitTest, .transmitTake, .transmitJoin]

theorem queue_empty_at_return_stopAfterPush :
    ∃ threads : WaitingThreads ExportData, threads.io = .returned ∧
      threads.transmit = .returned ∧ threads.queue = [] := by
  have run : ∃ threads : WaitingThreads ExportData,
      ((waitSystem ExportData).restrict TakesSettled).Run {} stopAfterPush threads ∧
        threads.io = .returned ∧ threads.transmit = .returned := by
    have queued : ¬ [counterBatch] = [] := List.cons_ne_nil _ _
    exact ⟨_, .move ⟨trivial, rfl⟩ (.move ⟨trivial, rfl⟩ (.move ⟨trivial, rfl⟩
      (.move ⟨trivial, rfl⟩ (.move ⟨trivial, rfl⟩ (.move ⟨trivial, rfl⟩ (.move ⟨trivial, rfl⟩
      (.move ⟨trivial, rfl⟩ (.move ⟨trivial, rfl⟩ (.move ⟨trivial, rfl⟩ (.move ⟨trivial, rfl⟩
      (.move ⟨trivial, rfl⟩ (.move ⟨trivial, rfl⟩
      (.move ⟨fun _ empty => absurd empty queued, rfl⟩ (.move ⟨trivial, rfl⟩
      (.move ⟨trivial, rfl⟩ (.move ⟨trivial, rfl⟩ (.move ⟨fun _ _ => trivial, rfl⟩
      (.move ⟨trivial, rfl⟩ (.stay _))))))))))))))))))), rfl, rfl⟩
  obtain ⟨threads, run, io, transmit⟩ := run
  exact ⟨threads, io, transmit,
    queue_empty_at_return threads (run.reachable (.start rfl)) ⟨io, transmit⟩⟩

end SflowMiddle.Exporter

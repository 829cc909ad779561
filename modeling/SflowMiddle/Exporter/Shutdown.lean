/-
Batches at shutdown. The queue is first in, first out on every run; whether it is
empty at the end depends on where smartNicIoThread is when transmitThread takes
its exit, because a tick under way still pushes and nobody pops any more.
-/

import SflowMiddle.Exporter.Threads

namespace SflowMiddle.Exporter

open SflowMiddle.Foundation
open Threads

variable {Batch : Type}

/-- No batch is on its way: the thread is between ticks, past its loop, or in a tick
that has nothing to push. -/
def IoPosition.Settled : IoPosition Batch → Prop
  | .sleeping => False
  | .reading => False
  | .holding (some _) => False
  | _ => True

/-- transmitThread has seen the stop request with an empty queue. -/
def TransmitPosition.Left : TransmitPosition Batch → Prop
  | .leaving => True
  | .returned => True
  | _ => False

/-- The next locked section of transmitThread takes its exit. -/
def Threads.Exits (threads : Threads Batch) : Prop :=
  threads.running = false ∧ threads.queue = []

def ExitsSettled (threads : Threads Batch) : ThreadAction Batch → Prop
  | .transmitSection => threads.Exits → threads.io.Settled
  | _ => True

/-! ### Notifications -/

@[simp]
theorem notify_running (threads : Threads Batch) : threads.notify.running = threads.running := by
  unfold notify
  split <;> rfl

@[simp]
theorem notify_queue (threads : Threads Batch) : threads.notify.queue = threads.queue := by
  unfold notify
  split <;> rfl

@[simp]
theorem notify_io (threads : Threads Batch) : threads.notify.io = threads.io := by
  unfold notify
  split <;> rfl

@[simp]
theorem notify_pushed (threads : Threads Batch) : threads.notify.pushed = threads.pushed := by
  unfold notify
  split <;> rfl

@[simp]
theorem notify_popped (threads : Threads Batch) : threads.notify.popped = threads.popped := by
  unfold notify
  split <;> rfl

private theorem left_of_notify {threads : Threads Batch} (left : threads.notify.transmit.Left) :
    threads.transmit.Left := by
  unfold notify at left
  split at left
  · cases left
  · exact left

/-! ### What a step can do -/

/-- Steps that neither push nor take the lock: they keep the queue and its history, never
start the threads again, and bring no batch and no departed thread back. -/
structure Quiet (before after : Threads Batch) : Prop where
  queue : after.queue = before.queue
  pushed : after.pushed = before.pushed
  popped : after.popped = before.popped
  stopped : before.running = false → after.running = false
  settled : before.running = false → before.io.Settled → after.io.Settled
  left : after.transmit.Left → before.transmit.Left

private theorem quiet_notify (threads : Threads Batch) : Quiet threads threads.notify where
  queue := notify_queue threads
  pushed := notify_pushed threads
  popped := notify_popped threads
  stopped := fun stopped => (notify_running threads).trans stopped
  settled := fun _ settled => by
    rw [notify_io]
    exact settled
  left := left_of_notify

private theorem step_cases {before after : Threads Batch} {action : ThreadAction Batch}
    (stepped : before.step action = some after) :
    (∃ batch, before.io = .holding (some batch) ∧
        after = { (before.push batch).notify with io := .loopTest }) ∨
      (action = .transmitSection ∧ after = before.lockedSection) ∨ Quiet before after := by
  cases threadMove_of_step stepped with
  | ioPush here => exact Or.inl ⟨_, here, rfl⟩
  | transmitSection here => exact Or.inr (Or.inl ⟨rfl, rfl⟩)
  | ioTestRunning here =>
      refine Or.inr (Or.inr ⟨rfl, rfl, rfl, id, fun stopped _ => ?_, id⟩)
      rw [if_neg (by simp [stopped])]
      trivial
  | ioWake here | ioAggregate here =>
      refine Or.inr (Or.inr ⟨rfl, rfl, rfl, id, fun _ settled => ?_, id⟩)
      rw [here] at settled
      cases settled
  | ioSkip | ioDrain => exact Or.inr (Or.inr ⟨rfl, rfl, rfl, id, fun _ _ => trivial, id⟩)
  | ioNotify here =>
      obtain ⟨queue, pushed, popped, stopped, _, left⟩ := quiet_notify before
      exact Or.inr (Or.inr ⟨queue, pushed, popped, stopped, fun _ _ => trivial, left⟩)
  | mainNotify | signalNotify =>
      obtain ⟨queue, pushed, popped, stopped, settled, left⟩ := quiet_notify before
      exact Or.inr (Or.inr ⟨queue, pushed, popped, stopped, settled, left⟩)
  | transmitWake | transmitSend =>
      refine Or.inr (Or.inr ⟨rfl, rfl, rfl, id, fun _ => id, fun left => ?_⟩)
      cases left
  | transmitJoin here =>
      refine Or.inr (Or.inr ⟨rfl, rfl, rfl, id, fun _ => id, fun _ => ?_⟩)
      rw [here]
      trivial
  | mainStop | signalStop =>
      exact Or.inr (Or.inr ⟨rfl, rfl, rfl, fun _ => rfl, fun _ => id, id⟩)
  | signalLeave => exact Or.inr (Or.inr ⟨rfl, rfl, rfl, id, fun _ => id, id⟩)

/-! ### First in, first out -/

def FirstInFirstOut (threads : Threads Batch) : Prop :=
  threads.popped ++ threads.queue = threads.pushed

private theorem FirstInFirstOut.congr {before after : Threads Batch} (fifo : FirstInFirstOut before)
    (queue : after.queue = before.queue) (pushed : after.pushed = before.pushed)
    (popped : after.popped = before.popped) : FirstInFirstOut after := by
  unfold FirstInFirstOut
  rw [queue, pushed, popped]
  exact fifo

private theorem firstInFirstOut_lockedSection {threads : Threads Batch}
    (fifo : FirstInFirstOut threads) : FirstInFirstOut threads.lockedSection := by
  unfold lockedSection
  split
  · rename_i batch rest shape
    change (threads.popped ++ [batch]) ++ rest = threads.pushed
    rw [List.append_assoc, List.singleton_append, ← shape]
    exact fifo
  · split <;> exact fifo

private theorem firstInFirstOut_push {threads : Threads Batch} (batch : Batch)
    (fifo : FirstInFirstOut threads) : FirstInFirstOut (threads.push batch) := by
  change threads.popped ++ (threads.queue ++ [batch]) = threads.pushed ++ [batch]
  rw [← List.append_assoc, fifo]

theorem firstInFirstOut_step {before after : Threads Batch} {action : ThreadAction Batch}
    (stepped : before.step action = some after) (fifo : FirstInFirstOut before) :
    FirstInFirstOut after := by
  rcases step_cases stepped with ⟨batch, _, rfl⟩ | ⟨_, rfl⟩ | quiet
  · exact (firstInFirstOut_push batch fifo).congr (notify_queue _) (notify_pushed _)
      (notify_popped _)
  · exact firstInFirstOut_lockedSection fifo
  · exact fifo.congr quiet.queue quiet.pushed quiet.popped

theorem firstInFirstOut_of_reachable {threads : Threads Batch}
    (reachable : (threadSystem Batch).Reachable threads) : FirstInFirstOut threads := by
  refine reachable.invariant FirstInFirstOut ?_ ?_
  · intro state initial
    rw [initial]
    rfl
  · intro before action after stepped fifo
    exact firstInFirstOut_step stepped fifo

/-! ### Leaving an empty queue behind -/

/-- Nothing is queued and nothing will be. -/
structure Drained (threads : Threads Batch) : Prop where
  stopped : threads.running = false
  empty : threads.queue = []
  settled : threads.io.Settled

private theorem Drained.lockedSection {threads : Threads Batch} (drained : Drained threads) :
    threads.lockedSection = { threads with transmit := .leaving } := by
  unfold Threads.lockedSection
  split
  · rename_i shape
    rw [drained.empty] at shape
    cases shape
  · rw [if_neg (by simp [drained.stopped])]

private theorem drained_step {before after : Threads Batch} {action : ThreadAction Batch}
    (stepped : before.step action = some after) (drained : Drained before) : Drained after := by
  obtain ⟨stopped, empty, settled⟩ := drained
  rcases step_cases stepped with ⟨batch, holding, _⟩ | ⟨_, rfl⟩ | quiet
  · rw [holding] at settled
    cases settled
  · rw [Drained.lockedSection ⟨stopped, empty, settled⟩]
    exact ⟨stopped, empty, settled⟩
  · exact ⟨quiet.stopped stopped, quiet.queue.trans empty, quiet.settled stopped settled⟩

private theorem exits_of_left_lockedSection {threads : Threads Batch}
    (left : threads.lockedSection.transmit.Left) : threads.Exits := by
  unfold lockedSection at left
  split at left
  · cases left
  · rename_i empty
    split at left
    · cases left
    · rename_i stopped
      exact ⟨Bool.of_not_eq_true stopped, empty⟩

private theorem left_step {before after : Threads Batch} {action : ThreadAction Batch}
    (stepped : before.step action = some after) (left : after.transmit.Left) :
    before.transmit.Left ∨ (action = .transmitSection ∧ before.Exits) := by
  rcases step_cases stepped with ⟨batch, _, rfl⟩ | ⟨locked, rfl⟩ | quiet
  · exact Or.inl (@left_of_notify _ (before.push batch) left)
  · exact Or.inr ⟨locked, exits_of_left_lockedSection left⟩
  · exact Or.inl (quiet.left left)

theorem drained_of_left {threads : Threads Batch}
    (reachable : ((threadSystem Batch).restrict ExitsSettled).Reachable threads)
    (left : threads.transmit.Left) : Drained threads := by
  refine reachable.invariant (fun state => state.transmit.Left → Drained state) ?_ ?_ left
  · intro state initial impossible
    rw [initial] at impossible
    cases impossible
  · rintro before action after ⟨permitted, stepped⟩ drained leftAfter
    rcases left_step stepped leftAfter with leftBefore | ⟨rfl, exits⟩
    · exact drained_step stepped (drained leftBefore)
    · exact drained_step stepped ⟨exits.1, exits.2, permitted exits⟩

/-- In every run whose exits of transmitThread find no batch on its way: once both threads
have returned the queue is empty, and everything pushed was popped, once and in order. -/
theorem no_batch_lost (threads : Threads Batch)
    (reachable : ((threadSystem Batch).restrict ExitsSettled).Reachable threads)
    (returned : threads.io = .returned ∧ threads.transmit = .returned) :
    threads.queue = [] ∧ threads.popped = threads.pushed := by
  have drained := drained_of_left reachable (by rw [returned.2]; trivial)
  have fifo := firstInFirstOut_of_reachable reachable.of_restrict
  refine ⟨drained.empty, ?_⟩
  unfold FirstInFirstOut at fifo
  rw [drained.empty, List.append_nil] at fifo
  exact fifo

/-! ### Runs that end with and without a batch in the queue -/

def counterBatch : ExportData where
  flowMap := OrderedMap.empty
  counterMap := aggregateCounters [{}]

private theorem run_of_steps {before after : Threads Batch} {actions : List (ThreadAction Batch)}
    (performed : actions.foldlM Threads.step before = some after) :
    (threadSystem Batch).Run before actions after :=
  .of_foldlM (fun _ _ _ stepped => stepped) performed

def stopBetweenTicks : List (ThreadAction ExportData) :=
  [.ioTestRunning, .ioWake, .ioAggregate (some counterBatch), .ioPush, .mainStop,
    .ioTestRunning, .transmitSection, .transmitSend, .transmitSection, .transmitJoin,
    .ioDrain, .ioNotify]

theorem no_batch_lost_between_ticks :
    ∃ threads : Threads ExportData, threads.pushed = [counterBatch] ∧ threads.queue = [] ∧
      threads.popped = threads.pushed := by
  have run : ∃ threads : Threads ExportData,
      ((threadSystem ExportData).restrict ExitsSettled).Run {} stopBetweenTicks threads ∧
        (threads.io = .returned ∧ threads.transmit = .returned) ∧
        threads.pushed = [counterBatch] := by
    have popping : ¬ [counterBatch] = [] := List.cons_ne_nil _ _
    refine ⟨_, .move ⟨trivial, rfl⟩ (.move ⟨trivial, rfl⟩ (.move ⟨trivial, rfl⟩
      (.move ⟨trivial, rfl⟩ (.move ⟨trivial, rfl⟩ (.move ⟨trivial, rfl⟩
      (.move ⟨fun exits => absurd exits.2 popping, rfl⟩ (.move ⟨trivial, rfl⟩
      (.move ⟨fun _ => trivial, rfl⟩ (.move ⟨trivial, rfl⟩ (.move ⟨trivial, rfl⟩
      (.move ⟨trivial, rfl⟩ (.stay _)))))))))))), ⟨rfl, rfl⟩, rfl⟩
  obtain ⟨threads, run, returned, pushed⟩ := run
  obtain ⟨empty, popped⟩ := no_batch_lost threads (run.reachable (.start rfl)) returned
  exact ⟨threads, pushed, empty, popped⟩

def stopWhileSleeping : List (ThreadAction ExportData) :=
  [.ioTestRunning, .mainStop, .mainNotify, .transmitSection, .transmitJoin, .ioWake,
    .ioAggregate (some counterBatch), .ioPush, .ioTestRunning, .ioDrain, .ioNotify]

theorem batch_lost_at_shutdown :
    ∃ threads : Threads ExportData, (threadSystem ExportData).Reachable threads ∧
      threads.io = .returned ∧ threads.transmit = .returned ∧
      ¬ (threads.queue = [] ∧ threads.popped = threads.pushed) := by
  have performed : ∃ threads : Threads ExportData,
      stopWhileSleeping.foldlM Threads.step {} = some threads ∧
        threads.io = .returned ∧ threads.transmit = .returned ∧
        threads.queue = [counterBatch] := ⟨_, rfl, rfl, rfl, rfl⟩
  obtain ⟨threads, performed, ioReturned, transmitReturned, queue⟩ := performed
  refine ⟨threads, (run_of_steps performed).reachable (.start rfl), ioReturned,
    transmitReturned, ?_⟩
  rintro ⟨empty, _⟩
  rw [queue] at empty
  cases empty

/-- The exit condition is exact: an exit that finds a batch on its way can lose it. -/
theorem batch_lost_of_unsettled_exit (batch : Batch) {threads : Threads Batch}
    (waiting : threads.transmit = .waiting) (exits : threads.Exits)
    (unsettled : ¬ threads.io.Settled) :
    ∃ actions after, (threadSystem Batch).Run threads actions after ∧
      after.io = .returned ∧ after.transmit = .returned ∧ after.queue ≠ [] := by
  obtain ⟨running, queue, io, transmit, mainThread, signalThread, pushed, popped⟩ := threads
  obtain ⟨stopped, empty⟩ := exits
  dsimp only at waiting stopped empty
  subst waiting stopped empty
  cases io with
  | sleeping =>
      refine ⟨[.transmitSection, .transmitJoin, .ioWake, .ioAggregate (some batch), .ioPush,
        .ioTestRunning, .ioDrain, .ioNotify], _, run_of_steps rfl, rfl, rfl, ?_⟩
      exact List.cons_ne_nil batch []
  | reading =>
      refine ⟨[.transmitSection, .transmitJoin, .ioAggregate (some batch), .ioPush,
        .ioTestRunning, .ioDrain, .ioNotify], _, run_of_steps rfl, rfl, rfl, ?_⟩
      exact List.cons_ne_nil batch []
  | holding held =>
      cases held with
      | none => exact absurd trivial unsettled
      | some ready =>
          refine ⟨[.transmitSection, .transmitJoin, .ioPush, .ioTestRunning, .ioDrain,
            .ioNotify], _, run_of_steps rfl, rfl, rfl, ?_⟩
          exact List.cons_ne_nil ready []
  | loopTest => exact absurd trivial unsettled
  | draining => exact absurd trivial unsettled
  | notifying => exact absurd trivial unsettled
  | returned => exact absurd trivial unsettled

end SflowMiddle.Exporter

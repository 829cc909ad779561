/-
The wait of transmitThread in src/main.cpp, with its mutex. Evaluating the
predicate and going to sleep are two steps; clearing `running` and the final
notifications are steps of other threads that do not take the mutex, so all of
them can fall between the two.
-/

import SflowMiddle.Exporter.Threads

namespace SflowMiddle.Exporter

open SflowMiddle.Foundation

variable {Batch : Type}

/-- Where smartNicIoThread is. The push and its `notify_one` are under the mutex. -/
inductive ProducerPosition (Batch : Type) where
  | loopTest
  | sleeping
  | reading
  | holding (batch : Option Batch)
  | pushing (batch : Batch)
  | notifyingOne
  | unlocking
  | draining
  | notifyingAll
  | returned

/-- Where transmitThread is. From `testing` to `taking` it holds the mutex. -/
inductive WaiterPosition (Batch : Type) where
  | locking
  | testing
  | fallingAsleep
  | asleep
  | relocking
  | taking
  | sending (batch : Batch)
  | leaving
  | returned

inductive MutexOwner where
  | producer
  | waiter
  deriving DecidableEq

structure WaitingThreads (Batch : Type) where
  running : Bool := true
  queue : List Batch := []
  mutex : Option MutexOwner := none
  io : ProducerPosition Batch := .loopTest
  transmit : WaiterPosition Batch := .locking
  mainThread : StopPosition := .watching
  signalThread : StopPosition := .watching

inductive WaitAction (Batch : Type) where
  | ioTestRunning
  | ioWake
  | ioAggregate (batch : Option Batch)
  | ioLock
  | ioPush
  | ioNotifyOne
  | ioUnlock
  | ioDrain
  | ioNotifyAll
  | transmitLock
  | transmitTest
  | transmitSleep
  | transmitSpuriousWake
  | transmitRelock
  | transmitTake
  | transmitSend
  | transmitJoin
  | mainStop
  | mainNotify
  | signalStop
  | signalNotify
  | signalLeave

namespace WaitingThreads

/-- A notification reaches transmitThread only when it is already asleep. -/
def notify (threads : WaitingThreads Batch) : WaitingThreads Batch :=
  match threads.transmit with
  | .asleep => { threads with transmit := .relocking }
  | _ => threads

/-- The predicate of the wait. -/
def Ready (threads : WaitingThreads Batch) : Prop :=
  threads.queue ≠ [] ∨ threads.running = false

instance (threads : WaitingThreads Batch) : Decidable threads.Ready :=
  match threads with
  | { queue := _ :: _, .. } => .isTrue (Or.inl (List.cons_ne_nil _ _))
  | { running := false, .. } => .isTrue (Or.inr rfl)
  | { queue := [], running := true, .. } => .isFalse (by simp [Ready])

def stepIo (threads : WaitingThreads Batch) : WaitAction Batch → Option (WaitingThreads Batch)
  | .ioTestRunning =>
      match threads.io with
      | .loopTest => some { threads with io := if threads.running then .sleeping else .draining }
      | _ => none
  | .ioWake =>
      match threads.io with
      | .sleeping => some { threads with io := .reading }
      | _ => none
  | .ioAggregate batch =>
      match threads.io with
      | .reading => some { threads with io := .holding batch }
      | _ => none
  | .ioLock =>
      match threads.io, threads.mutex with
      | .holding none, _ => some { threads with io := .loopTest }
      | .holding (some batch), none =>
          some { threads with io := .pushing batch, mutex := some .producer }
      | _, _ => none
  | .ioPush =>
      match threads.io with
      | .pushing batch =>
          some { threads with queue := threads.queue ++ [batch], io := .notifyingOne }
      | _ => none
  | .ioNotifyOne =>
      match threads.io with
      | .notifyingOne => some { threads.notify with io := .unlocking }
      | _ => none
  | .ioUnlock =>
      match threads.io with
      | .unlocking => some { threads with io := .loopTest, mutex := none }
      | _ => none
  | .ioDrain =>
      match threads.io with
      | .draining => some { threads with io := .notifyingAll }
      | _ => none
  | .ioNotifyAll =>
      match threads.io with
      | .notifyingAll => some { threads.notify with io := .returned }
      | _ => none
  | _ => none

/-- The steps of transmitThread. `transmitTake` pops, or leaves when the queue is empty and
the program stops; an empty queue of a running program does not get there. -/
def stepTransmit (threads : WaitingThreads Batch) :
    WaitAction Batch → Option (WaitingThreads Batch)
  | .transmitLock =>
      match threads.transmit, threads.mutex with
      | .locking, none => some { threads with transmit := .testing, mutex := some .waiter }
      | _, _ => none
  | .transmitTest =>
      match threads.transmit with
      | .testing =>
          some { threads with transmit := if threads.Ready then .taking else .fallingAsleep }
      | _ => none
  | .transmitSleep =>
      match threads.transmit with
      | .fallingAsleep => some { threads with transmit := .asleep, mutex := none }
      | _ => none
  | .transmitSpuriousWake =>
      match threads.transmit with
      | .asleep => some { threads with transmit := .relocking }
      | _ => none
  | .transmitRelock =>
      match threads.transmit, threads.mutex with
      | .relocking, none => some { threads with transmit := .testing, mutex := some .waiter }
      | _, _ => none
  | .transmitTake =>
      match threads.transmit, threads.queue, threads.running with
      | .taking, batch :: rest, _ =>
          some { threads with queue := rest, transmit := .sending batch, mutex := none }
      | .taking, [], false => some { threads with transmit := .leaving, mutex := none }
      | _, _, _ => none
  | .transmitSend =>
      match threads.transmit with
      | .sending _ => some { threads with transmit := .locking }
      | _ => none
  | .transmitJoin =>
      match threads.transmit with
      | .leaving => some { threads with transmit := .returned }
      | _ => none
  | _ => none

def stepStop (threads : WaitingThreads Batch) : WaitAction Batch → Option (WaitingThreads Batch)
  | .mainStop =>
      match threads.mainThread with
      | .watching => some { threads with running := false, mainThread := .cleared }
      | _ => none
  | .mainNotify =>
      match threads.mainThread with
      | .cleared => some { threads.notify with mainThread := .finished }
      | _ => none
  | .signalStop =>
      match threads.signalThread with
      | .watching => some { threads with running := false, signalThread := .cleared }
      | _ => none
  | .signalNotify =>
      match threads.signalThread with
      | .cleared => some { threads.notify with signalThread := .finished }
      | _ => none
  | .signalLeave =>
      match threads.signalThread with
      | .watching =>
          if threads.running then none else some { threads with signalThread := .finished }
      | _ => none
  | _ => none

def step (threads : WaitingThreads Batch) (action : WaitAction Batch) :
    Option (WaitingThreads Batch) :=
  (threads.stepIo action).or ((threads.stepTransmit action).or (threads.stepStop action))

end WaitingThreads

open WaitingThreads

def waitSystem (Batch : Type) : TransitionSystem (WaitingThreads Batch) (WaitAction Batch) where
  initial threads := threads = {}
  step before action after := before.step action = some after

def Stuck (threads : WaitingThreads Batch) : Prop :=
  threads.mainThread = .finished ∧ threads.signalThread = .finished ∧
    threads.io = .returned ∧ threads.transmit = .asleep

/-- A notification is certain to come: main or smartNicIoThread has its last one ahead, or
shutdownSignalThread is between clearing the flag and notifying. -/
def WakeDue (threads : WaitingThreads Batch) : Prop :=
  threads.mainThread ≠ .finished ∨ threads.io ≠ .returned ∨ threads.signalThread = .cleared

/-- transmitThread goes to sleep only with a notification still to come. -/
def SleepsInTime (threads : WaitingThreads Batch) : WaitAction Batch → Prop
  | .transmitSleep => WakeDue threads
  | _ => True

/-! ### What a step can do -/

/-- Everything one step can do, with the tests it passed. -/
inductive WaitMove (before : WaitingThreads Batch) :
    WaitAction Batch → WaitingThreads Batch → Prop where
  | ioTestRunning (here : before.io = .loopTest) :
      WaitMove before .ioTestRunning
        { before with io := if before.running then .sleeping else .draining }
  | ioWake (here : before.io = .sleeping) : WaitMove before .ioWake { before with io := .reading }
  | ioAggregate {batch : Option Batch} (here : before.io = .reading) :
      WaitMove before (.ioAggregate batch) { before with io := .holding batch }
  | ioSkip (here : before.io = .holding none) :
      WaitMove before .ioLock { before with io := .loopTest }
  | ioLock {batch : Batch} (here : before.io = .holding (some batch))
      (free : before.mutex = none) :
      WaitMove before .ioLock { before with io := .pushing batch, mutex := some .producer }
  | ioPush {batch : Batch} (here : before.io = .pushing batch) :
      WaitMove before .ioPush { before with queue := before.queue ++ [batch], io := .notifyingOne }
  | ioNotifyOne (here : before.io = .notifyingOne) :
      WaitMove before .ioNotifyOne { before.notify with io := .unlocking }
  | ioUnlock (here : before.io = .unlocking) :
      WaitMove before .ioUnlock { before with io := .loopTest, mutex := none }
  | ioDrain (here : before.io = .draining) :
      WaitMove before .ioDrain { before with io := .notifyingAll }
  | ioNotifyAll (here : before.io = .notifyingAll) :
      WaitMove before .ioNotifyAll { before.notify with io := .returned }
  | transmitLock (here : before.transmit = .locking) (free : before.mutex = none) :
      WaitMove before .transmitLock { before with transmit := .testing, mutex := some .waiter }
  | transmitTest (here : before.transmit = .testing) :
      WaitMove before .transmitTest
        { before with transmit := if before.Ready then .taking else .fallingAsleep }
  | transmitSleep (here : before.transmit = .fallingAsleep) :
      WaitMove before .transmitSleep { before with transmit := .asleep, mutex := none }
  | transmitSpuriousWake (here : before.transmit = .asleep) :
      WaitMove before .transmitSpuriousWake { before with transmit := .relocking }
  | transmitRelock (here : before.transmit = .relocking) (free : before.mutex = none) :
      WaitMove before .transmitRelock { before with transmit := .testing, mutex := some .waiter }
  | transmitTake {batch : Batch} {rest : List Batch} (here : before.transmit = .taking)
      (queued : before.queue = batch :: rest) :
      WaitMove before .transmitTake
        { before with queue := rest, transmit := .sending batch, mutex := none }
  | transmitLeave (here : before.transmit = .taking) (empty : before.queue = [])
      (stopped : before.running = false) :
      WaitMove before .transmitTake { before with transmit := .leaving, mutex := none }
  | transmitSend {batch : Batch} (here : before.transmit = .sending batch) :
      WaitMove before .transmitSend { before with transmit := .locking }
  | transmitJoin (here : before.transmit = .leaving) :
      WaitMove before .transmitJoin { before with transmit := .returned }
  | mainStop (here : before.mainThread = .watching) :
      WaitMove before .mainStop { before with running := false, mainThread := .cleared }
  | mainNotify (here : before.mainThread = .cleared) :
      WaitMove before .mainNotify { before.notify with mainThread := .finished }
  | signalStop (here : before.signalThread = .watching) :
      WaitMove before .signalStop { before with running := false, signalThread := .cleared }
  | signalNotify (here : before.signalThread = .cleared) :
      WaitMove before .signalNotify { before.notify with signalThread := .finished }
  | signalLeave (here : before.signalThread = .watching) (stopped : ¬ before.running) :
      WaitMove before .signalLeave { before with signalThread := .finished }

section Moves

variable {before after : WaitingThreads Batch} {action : WaitAction Batch}

private theorem waitMove_of_stepIo (stepped : before.stepIo action = some after) :
    WaitMove before action after := by
  unfold stepIo at stepped
  cases action <;> dsimp only at stepped
  all_goals first | cases stepped | (split at stepped <;> cases stepped)
  · exact .ioTestRunning ‹_›
  · exact .ioWake ‹_›
  · exact .ioAggregate ‹_›
  · exact .ioSkip ‹_›
  · exact .ioLock ‹_› ‹_›
  · exact .ioPush ‹_›
  · exact .ioNotifyOne ‹_›
  · exact .ioUnlock ‹_›
  · exact .ioDrain ‹_›
  · exact .ioNotifyAll ‹_›

private theorem waitMove_of_stepTransmit (stepped : before.stepTransmit action = some after) :
    WaitMove before action after := by
  unfold stepTransmit at stepped
  cases action <;> dsimp only at stepped
  all_goals first | cases stepped | (split at stepped <;> cases stepped)
  · exact .transmitLock ‹_› ‹_›
  · exact .transmitTest ‹_›
  · exact .transmitSleep ‹_›
  · exact .transmitSpuriousWake ‹_›
  · exact .transmitRelock ‹_› ‹_›
  · exact .transmitTake ‹_› ‹_›
  · exact .transmitLeave ‹_› ‹_› ‹_›
  · exact .transmitSend ‹_›
  · exact .transmitJoin ‹_›

private theorem waitMove_of_stepStop (stepped : before.stepStop action = some after) :
    WaitMove before action after := by
  unfold stepStop at stepped
  cases action <;> dsimp only at stepped
  all_goals first | cases stepped | split at stepped
  all_goals first | cases stepped | skip
  · exact .mainStop ‹_›
  · exact .mainNotify ‹_›
  · exact .signalStop ‹_›
  · exact .signalNotify ‹_›
  · split at stepped <;> cases stepped
    exact .signalLeave ‹_› ‹_›

theorem waitMove_of_step (stepped : before.step action = some after) :
    WaitMove before action after := by
  unfold step at stepped
  rcases Option.or_eq_some_iff.mp stepped with io | ⟨_, rest⟩
  · exact waitMove_of_stepIo io
  · rcases Option.or_eq_some_iff.mp rest with transmit | ⟨_, stop⟩
    · exact waitMove_of_stepTransmit transmit
    · exact waitMove_of_stepStop stop

end Moves

private theorem notify_not_asleep (threads : WaitingThreads Batch) :
    threads.notify.transmit ≠ .asleep := by
  unfold WaitingThreads.notify
  split
  · intro impossible
    cases impossible
  · rename_i awake
    exact awake

@[simp]
theorem waiting_notify_running (threads : WaitingThreads Batch) :
    threads.notify.running = threads.running := by
  unfold WaitingThreads.notify
  split <;> rfl

@[simp]
theorem waiting_notify_io (threads : WaitingThreads Batch) : threads.notify.io = threads.io := by
  unfold WaitingThreads.notify
  split <;> rfl

@[simp]
theorem waiting_notify_mainThread (threads : WaitingThreads Batch) :
    threads.notify.mainThread = threads.mainThread := by
  unfold WaitingThreads.notify
  split <;> rfl

private theorem wakeDue_step {before after : WaitingThreads Batch} {action : WaitAction Batch}
    (move : WaitMove before action after) (permitted : SleepsInTime before action)
    (due : before.transmit = .asleep → WakeDue before) (asleep : after.transmit = .asleep) :
    WakeDue after := by
  cases move with
  | ioTestRunning here =>
      refine Or.inr (Or.inl ?_)
      dsimp only
      split <;> exact fun impossible => by cases impossible
  | ioWake | ioAggregate | ioSkip | ioLock | ioPush | ioUnlock | ioDrain =>
      exact Or.inr (Or.inl (fun impossible => by cases impossible))
  | ioNotifyOne | ioNotifyAll | mainNotify | signalNotify =>
      exact absurd asleep (notify_not_asleep before)
  | transmitTest here =>
      dsimp only at asleep
      split at asleep <;> cases asleep
  | transmitSleep here => exact permitted
  | transmitLock | transmitSpuriousWake | transmitRelock | transmitTake | transmitLeave
  | transmitSend | transmitJoin => cases asleep
  | mainStop here => exact Or.inl (fun impossible => by cases impossible)
  | signalStop here => exact Or.inr (Or.inr rfl)
  | signalLeave here stopped =>
      rcases due asleep with main | io | cleared
      · exact Or.inl main
      · exact Or.inr (Or.inl io)
      · rw [here] at cleared
        cases cleared

/-- In runs that sleep in time, a sleeper always has a notification to come. -/
private theorem wakeDue_of_asleep {threads : WaitingThreads Batch}
    (reachable : ((waitSystem Batch).restrict SleepsInTime).Reachable threads)
    (asleep : threads.transmit = .asleep) : WakeDue threads := by
  refine reachable.invariant (fun state => state.transmit = .asleep → WakeDue state) ?_ ?_ asleep
  · intro state initial impossible
    rw [initial] at impossible
    cases impossible
  · intro before action after step due asleepAfter
    obtain ⟨permitted, stepped⟩ := step
    exact wakeDue_step (waitMove_of_step stepped) permitted due asleepAfter

/-- In every run whose sleeps have a notification still to come, shutdown does not get stuck. -/
theorem no_lost_wakeup (threads : WaitingThreads Batch)
    (reachable : ((waitSystem Batch).restrict SleepsInTime).Reachable threads) :
    ¬ Stuck threads := by
  intro stuck
  obtain ⟨main, signal, io, asleep⟩ := stuck
  rcases wakeDue_of_asleep reachable asleep with mainDue | ioDue | signalDue
  · exact mainDue main
  · exact ioDue io
  · rw [signal] at signalDue
    cases signalDue

/-! ### The flag and the stopping threads -/

/-- A thread that is no longer watching has cleared the flag, and nothing sets it again. -/
structure FlagCleared (threads : WaitingThreads Batch) : Prop where
  mainCleared : threads.mainThread ≠ .watching → threads.running = false

private theorem flagCleared_step {before after : WaitingThreads Batch} {action : WaitAction Batch}
    (move : WaitMove before action after) (cleared : FlagCleared before) : FlagCleared after := by
  cases move with
  | mainStop | signalStop => exact ⟨fun _ => rfl⟩
  | mainNotify here =>
      refine ⟨fun _ => ?_⟩
      rw [waiting_notify_running]
      apply cleared.mainCleared
      rw [here]
      exact fun impossible => by cases impossible
  | ioNotifyOne | ioNotifyAll | signalNotify =>
      refine ⟨fun moved => ?_⟩
      rw [waiting_notify_running]
      rw [waiting_notify_mainThread] at moved
      exact cleared.mainCleared moved
  | ioTestRunning | ioWake | ioAggregate | ioSkip | ioLock | ioPush | ioUnlock | ioDrain
  | transmitLock | transmitTest | transmitSleep | transmitSpuriousWake | transmitRelock
  | transmitTake | transmitLeave | transmitSend | transmitJoin | signalLeave =>
      exact ⟨cleared.mainCleared⟩

theorem flagCleared_of_reachable {threads : WaitingThreads Batch}
    (reachable : (waitSystem Batch).Reachable threads) : FlagCleared threads := by
  apply reachable.invariant FlagCleared
  · intro state initial
    rw [initial]
    exact ⟨fun moved => absurd rfl moved⟩
  · intro before action after stepped cleared
    exact flagCleared_step (waitMove_of_step stepped) cleared

/-- The condition is exact: a sleep with no notification to come gets the program stuck. -/
theorem stuck_of_late_sleep {threads : WaitingThreads Batch}
    (reachable : (waitSystem Batch).Reachable threads)
    (falling : threads.transmit = .fallingAsleep) (late : ¬ WakeDue threads) :
    ∃ after, (waitSystem Batch).Reachable after ∧ Stuck after := by
  have flag := flagCleared_of_reachable reachable
  have sleeps : threads.step .transmitSleep =
      some { threads with transmit := .asleep, mutex := none } := by
    unfold step stepIo stepTransmit
    rw [falling]
    rfl
  have asleep : (waitSystem Batch).Reachable
      { threads with transmit := .asleep, mutex := none } := reachable.next sleeps
  unfold WakeDue at late
  rw [not_or, not_or, not_not, not_not] at late
  obtain ⟨main, io, signal⟩ := late
  cases position : threads.signalThread with
  | finished => exact ⟨_, asleep, main, position, io, rfl⟩
  | cleared => exact absurd position signal
  | watching =>
      have stopped : threads.running = false := by
        apply flag.mainCleared
        rw [main]
        exact fun impossible => by cases impossible
      have leaves : WaitingThreads.step { threads with transmit := .asleep, mutex := none }
          .signalLeave =
          some { threads with transmit := .asleep, mutex := none, signalThread := .finished } := by
        unfold step stepIo stepTransmit stepStop
        dsimp only
        rw [position, stopped]
        rfl
      exact ⟨_, asleep.next leaves, main, rfl, io, rfl⟩

/-! ### Two shutdowns -/

theorem reachable_of_steps {actions : List (WaitAction Batch)} {before after : WaitingThreads Batch}
    (reachable : (waitSystem Batch).Reachable before)
    (performed : actions.foldlM WaitingThreads.step before = some after) :
    (waitSystem Batch).Reachable after :=
  (TransitionSystem.Run.of_foldlM (fun _ _ _ stepped => stepped) performed).reachable reachable

/-- Everything from clearing the flag to the last notification falls between the test and the
sleep of transmitThread. -/
def stopBeforeSleep : List (WaitAction ExportData) :=
  [.transmitLock, .transmitTest, .mainStop, .mainNotify, .signalLeave, .ioTestRunning, .ioDrain,
    .ioNotifyAll, .transmitSleep]

theorem wakeup_lost_at_shutdown :
    ∃ threads : WaitingThreads ExportData, (waitSystem ExportData).Reachable threads ∧
      Stuck threads := by
  have performed : ∃ threads : WaitingThreads ExportData,
      stopBeforeSleep.foldlM WaitingThreads.step {} = some threads ∧ Stuck threads :=
    ⟨_, rfl, rfl, rfl, rfl, rfl⟩
  obtain ⟨threads, performed, stuck⟩ := performed
  exact ⟨threads, reachable_of_steps (.start rfl) performed, stuck⟩

/-- The stop request finds transmitThread asleep and wakes it. -/
theorem no_lost_wakeup_after_sleep :
    ∃ threads : WaitingThreads ExportData, threads.mainThread = .finished ∧
      threads.io = .returned ∧ ¬ Stuck threads := by
  have run : ∃ threads : WaitingThreads ExportData,
      ((waitSystem ExportData).restrict SleepsInTime).Run {}
        [.transmitLock, .transmitTest, .transmitSleep, .mainStop, .mainNotify, .ioTestRunning,
          .ioDrain, .ioNotifyAll, .signalLeave] threads ∧
      threads.mainThread = .finished ∧ threads.io = .returned := by
    have watching : StopPosition.watching ≠ .finished := fun impossible => by cases impossible
    exact ⟨_, .move ⟨trivial, rfl⟩ (.move ⟨trivial, rfl⟩ (.move ⟨Or.inl watching, rfl⟩
      (.move ⟨trivial, rfl⟩ (.move ⟨trivial, rfl⟩ (.move ⟨trivial, rfl⟩ (.move ⟨trivial, rfl⟩
      (.move ⟨trivial, rfl⟩ (.move ⟨trivial, rfl⟩ (.stay _))))))))), rfl, rfl⟩
  obtain ⟨threads, run, main, io⟩ := run
  exact ⟨threads, main, io, no_lost_wakeup threads (run.reachable (.start rfl))⟩

end SflowMiddle.Exporter

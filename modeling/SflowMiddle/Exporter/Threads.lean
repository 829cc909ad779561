/-
The threads of src/main.cpp around the shared queue. Every section under the
queue's mutex is one step, and `running` is read and cleared between steps. The
histories `pushed` and `popped` are ghost state; batches of any type may pass
through, since the threads never look inside one before it is popped.
-/

import SflowMiddle.Exporter.Aggregation
import SflowMiddle.Foundation.TransitionSystem

namespace SflowMiddle.Exporter

open SflowMiddle.Foundation

variable {Batch : Type}

/-- Where smartNicIoThread is. `holding` is after the aggregation, with the batch to push
if its maps are not both empty. -/
inductive IoPosition (Batch : Type) where
  | loopTest
  | sleeping
  | reading
  | holding (batch : Option Batch)
  | draining
  | notifying
  | returned

/-- Where transmitThread is, its initialisation having succeeded. -/
inductive TransmitPosition (Batch : Type) where
  | waiting
  | asleep
  | sending (batch : Batch)
  | leaving
  | returned

/-- Where a thread that can stop the others is: main, or shutdownSignalThread. -/
inductive StopPosition where
  | watching
  | cleared
  | finished

structure Threads (Batch : Type) where
  running : Bool := true
  queue : List Batch := []
  io : IoPosition Batch := .loopTest
  transmit : TransmitPosition Batch := .waiting
  mainThread : StopPosition := .watching
  signalThread : StopPosition := .watching
  pushed : List Batch := []
  popped : List Batch := []

inductive ThreadAction (Batch : Type) where
  | ioTestRunning
  | ioWake
  | ioAggregate (batch : Option Batch)
  | ioPush
  | ioDrain
  | ioNotify
  | transmitSection
  | transmitWake
  | transmitSend
  | transmitJoin
  | mainStop
  | mainNotify
  | signalStop
  | signalNotify
  | signalLeave

namespace Threads

/-- `notify_one` and `notify_all` agree: only transmitThread ever waits. -/
def notify (threads : Threads Batch) : Threads Batch :=
  match threads.transmit with
  | .asleep => { threads with transmit := .waiting }
  | _ => threads

/-- The section of transmitThread: wait's predicate, the exit test and the pop. -/
def lockedSection (threads : Threads Batch) : Threads Batch :=
  match threads.queue with
  | batch :: rest =>
      { threads with
        queue := rest
        transmit := .sending batch
        popped := threads.popped ++ [batch] }
  | [] =>
      if threads.running then { threads with transmit := .asleep }
      else { threads with transmit := .leaving }

def push (threads : Threads Batch) (batch : Batch) : Threads Batch :=
  { threads with
    queue := threads.queue ++ [batch]
    pushed := threads.pushed ++ [batch] }

def step (threads : Threads Batch) : ThreadAction Batch → Option (Threads Batch)
  | .ioTestRunning =>
      match threads.io with
      | .loopTest => some { threads with io := if threads.running then .sleeping else .draining }
      | _ => none
  | .ioWake =>
      match threads.io with
      | .sleeping => some { threads with io := .reading }
      | _ => none
  | .ioAggregate batch =>
      match threads.io with
      | .reading => some { threads with io := .holding batch }
      | _ => none
  | .ioPush =>
      match threads.io with
      | .holding (some batch) => some { (threads.push batch).notify with io := .loopTest }
      | .holding none => some { threads with io := .loopTest }
      | _ => none
  | .ioDrain =>
      match threads.io with
      | .draining => some { threads with io := .notifying }
      | _ => none
  | .ioNotify =>
      match threads.io with
      | .notifying => some { threads.notify with io := .returned }
      | _ => none
  | .transmitSection =>
      match threads.transmit with
      | .waiting => some threads.lockedSection
      | _ => none
  | .transmitWake =>
      match threads.transmit with
      | .asleep => some { threads with transmit := .waiting }
      | _ => none
  | .transmitSend =>
      match threads.transmit with
      | .sending _ => some { threads with transmit := .waiting }
      | _ => none
  | .transmitJoin =>
      match threads.transmit with
      | .leaving => some { threads with transmit := .returned }
      | _ => none
  | .mainStop =>
      match threads.mainThread with
      | .watching => some { threads with running := false, mainThread := .cleared }
      | _ => none
  | .mainNotify =>
      match threads.mainThread with
      | .cleared => some { threads.notify with mainThread := .finished }
      | _ => none
  | .signalStop =>
      match threads.signalThread with
      | .watching => some { threads with running := false, signalThread := .cleared }
      | _ => none
  | .signalNotify =>
      match threads.signalThread with
      | .cleared => some { threads.notify with signalThread := .finished }
      | _ => none
  | .signalLeave =>
      match threads.signalThread with
      | .watching =>
          if threads.running then none else some { threads with signalThread := .finished }
      | _ => none

end Threads

def threadSystem (Batch : Type) : TransitionSystem (Threads Batch) (ThreadAction Batch) where
  initial threads := threads = {}
  step before action after := before.step action = some after

/-- Everything one step can do, with the tests it passed. -/
inductive ThreadMove (before : Threads Batch) : ThreadAction Batch → Threads Batch → Prop where
  | ioTestRunning (here : before.io = .loopTest) :
      ThreadMove before .ioTestRunning
        { before with io := if before.running then .sleeping else .draining }
  | ioWake (here : before.io = .sleeping) :
      ThreadMove before .ioWake { before with io := .reading }
  | ioAggregate {batch : Option Batch} (here : before.io = .reading) :
      ThreadMove before (.ioAggregate batch) { before with io := .holding batch }
  | ioPush {batch : Batch} (here : before.io = .holding (some batch)) :
      ThreadMove before .ioPush { (before.push batch).notify with io := .loopTest }
  | ioSkip (here : before.io = .holding none) :
      ThreadMove before .ioPush { before with io := .loopTest }
  | ioDrain (here : before.io = .draining) :
      ThreadMove before .ioDrain { before with io := .notifying }
  | ioNotify (here : before.io = .notifying) :
      ThreadMove before .ioNotify { before.notify with io := .returned }
  | transmitSection (here : before.transmit = .waiting) :
      ThreadMove before .transmitSection before.lockedSection
  | transmitWake (here : before.transmit = .asleep) :
      ThreadMove before .transmitWake { before with transmit := .waiting }
  | transmitSend {batch : Batch} (here : before.transmit = .sending batch) :
      ThreadMove before .transmitSend { before with transmit := .waiting }
  | transmitJoin (here : before.transmit = .leaving) :
      ThreadMove before .transmitJoin { before with transmit := .returned }
  | mainStop (here : before.mainThread = .watching) :
      ThreadMove before .mainStop { before with running := false, mainThread := .cleared }
  | mainNotify (here : before.mainThread = .cleared) :
      ThreadMove before .mainNotify { before.notify with mainThread := .finished }
  | signalStop (here : before.signalThread = .watching) :
      ThreadMove before .signalStop { before with running := false, signalThread := .cleared }
  | signalNotify (here : before.signalThread = .cleared) :
      ThreadMove before .signalNotify { before.notify with signalThread := .finished }
  | signalLeave (here : before.signalThread = .watching) (stopped : ¬ before.running) :
      ThreadMove before .signalLeave { before with signalThread := .finished }

theorem threadMove_of_step {before after : Threads Batch} {action : ThreadAction Batch}
    (stepped : before.step action = some after) : ThreadMove before action after := by
  unfold Threads.step at stepped
  cases action <;> dsimp only at stepped <;> split at stepped
  all_goals first | cases stepped | skip
  · exact .ioTestRunning ‹_›
  · exact .ioWake ‹_›
  · exact .ioAggregate ‹_›
  · exact .ioPush ‹_›
  · exact .ioSkip ‹_›
  · exact .ioDrain ‹_›
  · exact .ioNotify ‹_›
  · exact .transmitSection ‹_›
  · exact .transmitWake ‹_›
  · exact .transmitSend ‹_›
  · exact .transmitJoin ‹_›
  · exact .mainStop ‹_›
  · exact .mainNotify ‹_›
  · exact .signalStop ‹_›
  · exact .signalNotify ‹_›
  · split at stepped <;> cases stepped
    exact .signalLeave ‹_› ‹_›

end SflowMiddle.Exporter

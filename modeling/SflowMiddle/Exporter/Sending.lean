/-
The sending side of transmitThread in src/main.cpp. Each record of a popped batch is
posted to an io_service, whose only thread starts an asynchronous send for it and later
runs the send's completion handler. Posted handlers run in the order they were posted;
sends complete in any order, and an error is only logged. An initialisation that fails
makes transmitThread return before its loop. The two lists of what was started and
completed are ghost state.
-/

import SflowMiddle.Exporter.CriticalSections
import SflowMiddle.Exporter.Datagrams

namespace SflowMiddle.Exporter

open SflowMiddle.Foundation

variable {Batch Payload : Type}

/-- How far transmitThread is with its address, socket and test file. -/
inductive Opening where
  | pending
  | ready
  | failed
  deriving DecidableEq

/-- Where ioThread is. -/
inductive ServicePosition where
  | notStarted
  | running
  | finished
  deriving DecidableEq

structure Sender (Batch Payload : Type) where
  threads : Threads Batch := {}
  opening : Opening := .pending
  remaining : List Payload := []
  posted : List Payload := []
  inFlight : List Payload := []
  work : Bool := false
  service : ServicePosition := .notStarted
  started : List Payload := []
  completed : List (Payload × Bool) := []

inductive SenderAction (Batch : Type) where
  | initialise
  | failInitialise
  | thread (action : ThreadAction Batch)
  | queueSend
  | resetWork
  | startSend
  | completeSend (position : Nat) (failed : Bool)
  | leaveRun

namespace Sender

/-- transmitThread enters its loop once its initialisation is done, waits again when every
record of the batch is posted, and returns when ioThread is joined. -/
def allows (sender : Sender Batch Payload) : ThreadAction Batch → Bool
  | .transmitSection => sender.opening = .ready
  | .transmitWake => sender.opening = .ready
  | .transmitSend => sender.remaining.isEmpty
  | .transmitJoin => sender.service = .finished
  | _ => true

variable (records : Batch → List Payload)

/-- The records of a batch that has just been popped. -/
def unpack (threads : Threads Batch) : List Payload :=
  match threads.transmit with
  | .sending batch => records batch
  | _ => []

/-- A popped batch is in hand; no other step of the threads hands records over. -/
def handed (sender : Sender Batch Payload) (threads : Threads Batch) :
    ThreadAction Batch → List Payload
  | .transmitSection => unpack records threads
  | _ => sender.remaining

def stepThread (sender : Sender Batch Payload) (action : ThreadAction Batch) :
    Option (Sender Batch Payload) :=
  if sender.allows action then
    (sender.threads.step action).map fun threads =>
      { sender with threads := threads, remaining := sender.handed records threads action }
  else none

def step (sender : Sender Batch Payload) : SenderAction Batch → Option (Sender Batch Payload)
  | .initialise =>
      match sender.opening with
      | .pending => some { sender with opening := .ready, work := true, service := .running }
      | _ => none
  | .failInitialise =>
      match sender.opening with
      | .pending =>
          some { sender with
            opening := .failed
            threads := { sender.threads with transmit := .returned } }
      | _ => none
  | .thread action => sender.stepThread records action
  | .queueSend =>
      match sender.remaining with
      | payload :: rest =>
          some { sender with remaining := rest, posted := sender.posted ++ [payload] }
      | [] => none
  | .resetWork =>
      match sender.threads.transmit, sender.work with
      | .leaving, true => some { sender with work := false }
      | _, _ => none
  | .startSend =>
      match sender.service, sender.posted with
      | .running, payload :: rest =>
          some { sender with
            posted := rest
            inFlight := sender.inFlight ++ [payload]
            started := sender.started ++ [payload] }
      | _, _ => none
  | .completeSend position failed =>
      match sender.service, sender.inFlight[position]? with
      | .running, some payload =>
          some { sender with
            inFlight := sender.inFlight.eraseIdx position
            completed := sender.completed ++ [(payload, failed)] }
      | _, _ => none
  | .leaveRun =>
      match sender.service, sender.work, sender.posted, sender.inFlight with
      | .running, false, [], [] => some { sender with service := .finished }
      | _, _, _, _ => none

end Sender

/-- The program's `records` are `payloads`. -/
def senderSystem (records : Batch → List Payload) :
    TransitionSystem (Sender Batch Payload) (SenderAction Batch) where
  initial sender := sender = {}
  step before action after := before.step records action = some after

/-! ### What a step of the threads does to transmitThread -/

/-- transmitThread stays where it is or is woken, and nothing is popped. -/
structure Elsewhere (before after : Threads Batch) : Prop where
  popped : after.popped = before.popped
  transmit : after.transmit = before.transmit ∨
    (before.transmit = .asleep ∧ after.transmit = .waiting)

private theorem elsewhere_notify (threads : Threads Batch) : Elsewhere threads threads.notify where
  popped := notify_popped threads
  transmit := by
    unfold Threads.notify
    split
    · rename_i asleep
      exact Or.inr ⟨asleep, rfl⟩
    · exact Or.inl rfl

/-- The steps that transmitThread takes when it is not asleep. -/
def ThreadAction.ofTransmit : ThreadAction Batch → Bool
  | .transmitSection => true
  | .transmitSend => true
  | .transmitJoin => true
  | _ => false

/-- The steps of transmitThread in its loop and after it, and all the others. -/
inductive TransmitStep (before after : Threads Batch) : ThreadAction Batch → Prop where
  | locked (waiting : before.transmit = .waiting) (taken : after = before.lockedSection) :
      TransmitStep before after .transmitSection
  | sent {batch : Batch} (sending : before.transmit = .sending batch)
      (again : after = { before with transmit := .waiting }) :
      TransmitStep before after .transmitSend
  | joined (leaving : before.transmit = .leaving)
      (back : after = { before with transmit := .returned }) :
      TransmitStep before after .transmitJoin
  | other {action : ThreadAction Batch} (elsewhere : Elsewhere before after)
      (others : action.ofTransmit = false) : TransmitStep before after action

private theorem transmitStep_of_step {before after : Threads Batch} {action : ThreadAction Batch}
    (stepped : before.step action = some after) : TransmitStep before after action := by
  cases threadMove_of_step stepped with
  | transmitSection here => exact .locked here rfl
  | transmitSend here => exact .sent here rfl
  | transmitJoin here => exact .joined here rfl
  | transmitWake here => exact .other ⟨rfl, Or.inr ⟨here, rfl⟩⟩ rfl
  | @ioPush batch here =>
      obtain ⟨popped, transmit⟩ := elsewhere_notify (before.push batch)
      exact .other ⟨popped, transmit⟩ rfl
  | ioNotify | mainNotify | signalNotify =>
      obtain ⟨popped, transmit⟩ := elsewhere_notify before
      exact .other ⟨popped, transmit⟩ rfl
  | ioTestRunning | ioWake | ioAggregate | ioSkip | ioDrain | mainStop | signalStop
  | signalLeave => exact .other ⟨rfl, Or.inl rfl⟩ rfl

private theorem Elsewhere.left {before after : Threads Batch} (elsewhere : Elsewhere before after) :
    after.transmit.Left ↔ before.transmit.Left := by
  rcases elsewhere.transmit with same | ⟨asleep, waiting⟩
  · rw [same]
  · rw [asleep, waiting]
    exact Iff.rfl

/-- Everything one step of the sender can do, with the tests it passed. -/
inductive SenderMove (records : Batch → List Payload) (before : Sender Batch Payload) :
    SenderAction Batch → Sender Batch Payload → Prop where
  | thread {action : ThreadAction Batch} {threads : Threads Batch}
      (allowed : before.allows action = true)
      (step : before.threads.step action = some threads) :
      SenderMove records before (.thread action)
        { before with threads := threads, remaining := before.handed records threads action }
  | initialise (pending : before.opening = .pending) :
      SenderMove records before .initialise
        { before with opening := .ready, work := true, service := .running }
  | failInitialise (pending : before.opening = .pending) :
      SenderMove records before .failInitialise
        { before with
          opening := .failed
          threads := { before.threads with transmit := .returned } }
  | queueSend {payload : Payload} {rest : List Payload}
      (inHand : before.remaining = payload :: rest) :
      SenderMove records before .queueSend
        { before with remaining := rest, posted := before.posted ++ [payload] }
  | resetWork (leaving : before.threads.transmit = .leaving) (held : before.work = true) :
      SenderMove records before .resetWork { before with work := false }
  | startSend {payload : Payload} {rest : List Payload} (running : before.service = .running)
      (first : before.posted = payload :: rest) :
      SenderMove records before .startSend
        { before with
          posted := rest
          inFlight := before.inFlight ++ [payload]
          started := before.started ++ [payload] }
  | completeSend {position : Nat} {failed : Bool} {payload : Payload}
      (running : before.service = .running) (found : before.inFlight[position]? = some payload) :
      SenderMove records before (.completeSend position failed)
        { before with
          inFlight := before.inFlight.eraseIdx position
          completed := before.completed ++ [(payload, failed)] }
  | leaveRun (running : before.service = .running) (released : before.work = false)
      (posted : before.posted = []) (inFlight : before.inFlight = []) :
      SenderMove records before .leaveRun { before with service := .finished }

theorem senderMove_of_step {records : Batch → List Payload} {before after : Sender Batch Payload}
    {action : SenderAction Batch} (stepped : before.step records action = some after) :
    SenderMove records before action after := by
  cases action
  case thread action =>
    unfold Sender.step Sender.stepThread at stepped
    dsimp only at stepped
    split at stepped
    · rename_i allowed
      obtain ⟨threads, step, rfl⟩ := Option.map_eq_some_iff.mp stepped
      exact .thread allowed step
    · cases stepped
  all_goals
    unfold Sender.step at stepped
    dsimp only at stepped
    split at stepped <;> cases stepped
  · exact .initialise ‹_›
  · exact .failInitialise ‹_›
  · exact .queueSend ‹_›
  · exact .resetWork ‹_› ‹_›
  · exact .startSend ‹_› ‹_›
  · exact .completeSend ‹_› ‹_›
  · exact .leaveRun ‹_› ‹_› ‹_› ‹_›

/-! ### Every record in one place -/

/-- The records of the batches popped so far are started, posted or in hand, in this order, and
every started send is completed or in flight. -/
structure Accounted (records : Batch → List Payload) (sender : Sender Batch Payload) : Prop where
  order : sender.started ++ sender.posted ++ sender.remaining =
    sender.threads.popped.flatMap records
  settled : (sender.completed.map Prod.fst ++ sender.inFlight).Perm sender.started
  inHand : sender.remaining ≠ [] → ∃ batch, sender.threads.transmit = .sending batch

private theorem Accounted.nothing_in_hand {records : Batch → List Payload}
    {sender : Sender Batch Payload}
    (accounted : Accounted records sender)
    (elsewhere : ∀ batch, sender.threads.transmit ≠ .sending batch) : sender.remaining = [] := by
  by_contra some
  obtain ⟨batch, sending⟩ := accounted.inHand some
  exact elsewhere batch sending

private theorem handed_lockedSection {records : Batch → List Payload} (threads : Threads Batch) :
    (threads.lockedSection.popped.flatMap records =
        threads.popped.flatMap records ++ Sender.unpack records threads.lockedSection) ∧
      (Sender.unpack records threads.lockedSection ≠ [] →
        ∃ batch, threads.lockedSection.transmit = .sending batch) := by
  unfold Threads.lockedSection
  split
  · rename_i batch rest _
    exact ⟨by simp [Sender.unpack], fun _ => ⟨batch, rfl⟩⟩
  · split <;> exact ⟨by simp [Sender.unpack], fun some => absurd rfl some⟩

private theorem accounted_thread {records : Batch → List Payload} {before : Sender Batch Payload}
    {action : ThreadAction Batch} {threads : Threads Batch}
    (allowed : before.allows action = true) (step : before.threads.step action = some threads)
    (accounted : Accounted records before) :
    Accounted records
      { before with threads := threads, remaining := before.handed records threads action } := by
  obtain ⟨order, settled, inHand⟩ := accounted
  cases transmitStep_of_step step with
  | locked waiting taken =>
      have nothing := Accounted.nothing_in_hand ⟨order, settled, inHand⟩ (fun batch => by
        rw [waiting]
        exact fun impossible => by cases impossible)
      obtain ⟨popped, sending⟩ := @handed_lockedSection _ _ records before.threads
      rw [nothing, List.append_nil] at order
      subst taken
      refine ⟨?_, settled, sending⟩
      change before.started ++ before.posted ++ Sender.unpack records _ = _
      rw [popped, order]
  | sent sending again =>
      subst again
      have nothing : before.remaining = [] := List.isEmpty_iff.mp allowed
      exact ⟨order, settled, fun some => absurd nothing some⟩
  | joined leaving back =>
      subst back
      have nothing := Accounted.nothing_in_hand ⟨order, settled, inHand⟩ (fun batch => by
        rw [leaving]
        exact fun impossible => by cases impossible)
      exact ⟨order, settled, fun some => absurd nothing some⟩
  | other elsewhere others =>
      have same : before.handed records threads action = before.remaining := by
        unfold Sender.handed
        split
        · cases others
        · rfl
      rw [same]
      refine ⟨?_, settled, fun some => ?_⟩
      · change _ = threads.popped.flatMap records
        rw [elsewhere.popped]
        exact order
      · obtain ⟨batch, sending⟩ := inHand some
        rcases elsewhere.transmit with kept | ⟨asleep, _⟩
        · exact ⟨batch, kept.trans sending⟩
        · rw [asleep] at sending
          cases sending

private theorem settled_complete {inFlight started : List Payload}
    {completed : List (Payload × Bool)}
    {position : Nat} {payload : Payload} (failed : Bool)
    (found : inFlight[position]? = some payload)
    (settled : (completed.map Prod.fst ++ inFlight).Perm started) :
    ((completed ++ [(payload, failed)]).map Prod.fst ++ inFlight.eraseIdx position).Perm
      started := by
  obtain ⟨within, rfl⟩ := List.getElem?_eq_some_iff.mp found
  rw [List.map_append, List.append_assoc]
  exact ((List.getElem_cons_eraseIdx_perm within).append_left _).trans settled

private theorem accounted_step {records : Batch → List Payload}
    {before after : Sender Batch Payload}
    {action : SenderAction Batch} (stepped : before.step records action = some after)
    (early : before.opening = .pending → before.threads.transmit = .waiting)
    (accounted : Accounted records before) : Accounted records after := by
  cases senderMove_of_step stepped with
  | thread allowed step => exact accounted_thread allowed step accounted
  | failInitialise pending =>
      have nothing := accounted.nothing_in_hand (fun batch => by
        rw [early pending]
        exact fun impossible => by cases impossible)
      exact ⟨accounted.order, accounted.settled, fun some => absurd nothing some⟩
  | initialise pending => exact ⟨accounted.order, accounted.settled, accounted.inHand⟩
  | resetWork leaving held => exact ⟨accounted.order, accounted.settled, accounted.inHand⟩
  | leaveRun running released posted inFlight =>
      exact ⟨accounted.order, accounted.settled, accounted.inHand⟩
  | queueSend inHand =>
      have order := accounted.order
      rw [inHand] at order
      exact ⟨by simpa using order, accounted.settled,
        fun _ => accounted.inHand (by simp [inHand])⟩
  | startSend running first =>
      have order := accounted.order
      rw [first] at order
      refine ⟨by simpa using order, ?_, accounted.inHand⟩
      dsimp only
      rw [← List.append_assoc]
      exact accounted.settled.append_right _
  | completeSend running found =>
      exact ⟨accounted.order, settled_complete _ found accounted.settled, accounted.inHand⟩

/-! ### The threads below -/

/-- transmitThread takes its exit only with no batch on its way. -/
def SenderExitsSettled (sender : Sender Batch Payload) : SenderAction Batch → Prop
  | .thread action => ExitsSettled sender.threads action
  | _ => True

/-- The threads under a sender, as long as its initialisation has not failed. -/
def ThreadsBelow (sender : Sender Batch Payload) (threads : Threads Batch) : Prop :=
  sender.opening ≠ .failed → threads = sender.threads

private theorem settled_threads_simulate_sender (records : Batch → List Payload) :
    TransitionSystem.StepSimulates ((senderSystem records).restrict SenderExitsSettled)
      ((threadSystem Batch).restrict ExitsSettled) ThreadsBelow where
  initially sender initial := by
    have begins : sender = {} := initial
    rw [begins]
    exact ⟨_, rfl, fun _ => rfl⟩
  matched := by
    rintro before action after threads ⟨permitted, stepped⟩ below
    cases senderMove_of_step stepped with
    | failInitialise pending => exact Or.inl fun opened => absurd rfl opened
    | initialise pending => exact Or.inl fun _ => below (by simp [pending])
    | queueSend | resetWork | startSend | completeSend | leaveRun => exact Or.inl below
    | thread allowed step =>
        by_cases failed : before.opening = .failed
        · exact Or.inl fun opened => absurd failed opened
        · rw [below failed]
          exact Or.inr ⟨_, _, ⟨permitted, step⟩, fun _ => rfl⟩

/-- Until transmitThread leaves its loop, with the send of the only record in flight. -/
def sendOne : List (SenderAction ExportData) :=
  [.initialise, .thread .ioTestRunning, .thread .ioWake,
    .thread (.ioAggregate (some counterBatch)), .thread .ioPush, .thread .transmitSection,
    .queueSend, .startSend, .thread .transmitSend, .thread .mainStop, .thread .ioTestRunning,
    .thread .ioDrain, .thread .ioNotify, .thread .transmitSection]

/-- From there until it has returned. -/
def closeOne : List (SenderAction ExportData) :=
  [.completeSend 0 false, .resetWork, .leaveRun, .thread .transmitJoin]

private theorem sendOne_run : ∃ leaving returned : Sender ExportData String,
    ((senderSystem payloads).restrict SenderExitsSettled).Reachable leaving ∧
      leaving.threads.transmit = .leaving ∧ leaving.inFlight ≠ [] ∧
      (senderSystem payloads).Run leaving closeOne returned ∧
      ((senderSystem payloads).restrict SenderExitsSettled).Reachable returned ∧
      returned.threads.io = .returned ∧ returned.opening = .ready ∧
      returned.threads.transmit = .returned := by
  have begun : ∃ leaving : Sender ExportData String,
      ((senderSystem payloads).restrict SenderExitsSettled).Run {} sendOne leaving ∧
        ∃ returned, ((senderSystem payloads).restrict SenderExitsSettled).Run leaving closeOne
            returned ∧ (senderSystem payloads).Run leaving closeOne returned ∧
          leaving.threads.transmit = .leaving ∧ leaving.inFlight ≠ [] ∧
          returned.threads.io = .returned ∧ returned.opening = .ready ∧
          returned.threads.transmit = .returned := by
    refine ⟨_, .move ⟨trivial, rfl⟩ (.move ⟨trivial, rfl⟩ (.move ⟨trivial, rfl⟩
      (.move ⟨trivial, rfl⟩ (.move ⟨trivial, rfl⟩ (.move ⟨?_, rfl⟩ (.move ⟨trivial, rfl⟩
      (.move ⟨trivial, rfl⟩ (.move ⟨trivial, rfl⟩ (.move ⟨trivial, rfl⟩
      (.move ⟨trivial, rfl⟩ (.move ⟨trivial, rfl⟩ (.move ⟨trivial, rfl⟩
      (.move ⟨fun _ => trivial, rfl⟩ (.stay _)))))))))))))), _,
      .move ⟨trivial, rfl⟩ (.move ⟨trivial, rfl⟩ (.move ⟨trivial, rfl⟩
      (.move ⟨trivial, rfl⟩ (.stay _)))),
      .move rfl (.move rfl (.move rfl (.move rfl (.stay _)))), rfl, ?_, rfl, rfl, rfl⟩
    · exact fun exits => absurd exits.2 (List.cons_ne_nil _ _)
    · exact List.cons_ne_nil _ _
  obtain ⟨leaving, first, returned, second, run, position, flying, ends⟩ := begun
  have reached := first.reachable (.start rfl)
  exact ⟨leaving, returned, reached, position, flying, run, second.reachable reached, ends⟩

/-! ### The io_service -/

/-- ioThread runs from the end of the initialisation until transmitThread has left its loop and
nothing is posted or in flight, and transmitThread returns after it, or at once when its
initialisation fails. -/
structure Coherent (sender : Sender Batch Payload) : Prop where
  pending : sender.opening = .pending → sender.threads.transmit = .waiting
  failed : sender.opening = .failed → sender.threads.transmit = .returned
  closed : sender.opening ≠ .ready →
    sender.service = .notStarted ∧ sender.threads.popped = []
  opened : sender.opening = .ready → sender.service ≠ .notStarted
  released : sender.opening = .ready → sender.work = false → sender.threads.transmit.Left
  finished : sender.service = .finished →
    sender.threads.transmit.Left ∧ sender.work = false ∧ sender.posted = [] ∧ sender.inFlight = []
  joined : sender.opening = .ready → sender.threads.transmit = .returned →
    sender.service = .finished

private theorem Coherent.begun {sender : Sender Batch Payload} (coherent : Coherent sender)
    (left : sender.threads.transmit.Left) : sender.opening ≠ .pending := by
  intro pending
  rw [coherent.pending pending] at left
  exact left

private theorem Coherent.ready {sender : Sender Batch Payload} (coherent : Coherent sender)
    (leaving : sender.threads.transmit = .leaving) : sender.opening = .ready := by
  cases opening : sender.opening with
  | ready => rfl
  | pending => exact absurd opening (coherent.begun (by rw [leaving]; trivial))
  | failed =>
      have returned := coherent.failed opening
      rw [leaving] at returned
      cases returned

private theorem Coherent.ready_of_service {sender : Sender Batch Payload}
    (coherent : Coherent sender)
    (service : sender.service ≠ .notStarted) : sender.opening = .ready := by
  by_contra unready
  exact service (coherent.closed unready).1

private theorem left_kept {before after : Threads Batch} {action : ThreadAction Batch}
    (step : TransmitStep before after action) (left : before.transmit.Left) :
    after.transmit.Left := by
  cases step with
  | locked waiting taken =>
      rw [waiting] at left
      cases left
  | sent sending again =>
      rw [sending] at left
      cases left
  | joined leaving back =>
      rw [back]
      trivial
  | other elsewhere others => exact elsewhere.left.mpr left

private theorem lockedSection_not_returned (threads : Threads Batch) :
    threads.lockedSection.transmit ≠ .returned := by
  unfold Threads.lockedSection
  split
  · exact fun impossible => by cases impossible
  · split <;> exact fun impossible => by cases impossible

private theorem still_of_step {before after : Threads Batch} {action : ThreadAction Batch}
    (step : TransmitStep before after action) (locks : before.transmit = .waiting →
      action ≠ .transmitSection)
    (still : before.transmit = .waiting ∨ before.transmit = .returned) :
    after.transmit = before.transmit ∧ after.popped = before.popped := by
  cases step with
  | locked waiting taken => exact absurd rfl (locks waiting)
  | sent sending again =>
      rw [sending] at still
      rcases still with impossible | impossible <;> cases impossible
  | joined leaving back =>
      rw [leaving] at still
      rcases still with impossible | impossible <;> cases impossible
  | other elsewhere others =>
      refine ⟨?_, elsewhere.popped⟩
      rcases elsewhere.transmit with same | ⟨asleep, _⟩
      · exact same
      · rw [asleep] at still
        rcases still with impossible | impossible <;> cases impossible

private theorem returned_of_step {before after : Threads Batch} {action : ThreadAction Batch}
    (step : TransmitStep before after action) (returned : after.transmit = .returned) :
    before.transmit = .returned ∨ action = .transmitJoin := by
  cases step with
  | locked waiting taken =>
      rw [taken] at returned
      exact absurd returned (lockedSection_not_returned before)
  | sent sending again =>
      rw [again] at returned
      cases returned
  | joined leaving back => exact Or.inr rfl
  | other elsewhere others =>
      rcases elsewhere.transmit with same | ⟨_, waiting⟩
      · exact Or.inl (same.symm.trans returned)
      · rw [waiting] at returned
        cases returned

private theorem coherent_thread {records : Batch → List Payload} {before : Sender Batch Payload}
    {action : ThreadAction Batch} {threads : Threads Batch}
    (allowed : before.allows action = true) (step : before.threads.step action = some threads)
    (coherent : Coherent before) :
    Coherent
      { before with threads := threads, remaining := before.handed records threads action } := by
  have position := transmitStep_of_step step
  have still (unready : before.opening ≠ .ready) :
      threads.transmit = before.threads.transmit ∧ threads.popped = before.threads.popped := by
    refine still_of_step position (fun _ locking => ?_) ?_
    · rw [locking] at allowed
      exact unready (of_decide_eq_true allowed)
    · cases opening : before.opening with
      | ready => exact absurd opening unready
      | pending => exact Or.inl (coherent.pending opening)
      | failed => exact Or.inr (coherent.failed opening)
  refine ⟨fun pending => ?_, fun failed => ?_, fun unready => ?_, coherent.opened,
    fun ready released => left_kept position (coherent.released ready released),
    fun finished => ?_, fun ready returned => ?_⟩
  · have unready : before.opening ≠ .ready := by simp [show before.opening = .pending from pending]
    exact (still unready).1.trans (coherent.pending pending)
  · have unready : before.opening ≠ .ready := by simp [show before.opening = .failed from failed]
    exact (still unready).1.trans (coherent.failed failed)
  · obtain ⟨service, popped⟩ := coherent.closed unready
    exact ⟨service, (still unready).2.trans popped⟩
  · obtain ⟨left, rest⟩ := coherent.finished finished
    exact ⟨left_kept position left, rest⟩
  · rcases returned_of_step position returned with earlier | joins
    · exact coherent.joined ready earlier
    · rw [joins] at allowed
      exact of_decide_eq_true allowed

private theorem coherent_step {records : Batch → List Payload} {before after : Sender Batch Payload}
    {action : SenderAction Batch} (stepped : before.step records action = some after)
    (accounted : Accounted records before) (coherent : Coherent before) : Coherent after := by
  cases senderMove_of_step stepped with
  | thread allowed step => exact coherent_thread allowed step coherent
  | initialise pending =>
      have early := coherent.pending pending
      refine ⟨fun again => (by cases again), fun failed => (by cases failed),
        fun unready => absurd rfl unready, fun _ running => (by cases running),
        fun _ released => (by cases released), fun finished => (by cases finished), ?_⟩
      intro _ returned
      change before.threads.transmit = .returned at returned
      rw [early] at returned
      cases returned
  | failInitialise pending =>
      obtain ⟨service, popped⟩ := coherent.closed (by simp [pending])
      refine ⟨fun again => (by cases again), fun _ => rfl, fun _ => ⟨service, popped⟩,
        fun ready => (by cases ready), fun ready => (by cases ready), ?_,
        fun ready => (by cases ready)⟩
      intro finished
      change before.service = .finished at finished
      rw [service] at finished
      cases finished
  | queueSend inHand =>
      obtain ⟨batch, sending⟩ := accounted.inHand (by simp [inHand])
      refine ⟨coherent.pending, coherent.failed, coherent.closed, coherent.opened,
        coherent.released, ?_, coherent.joined⟩
      intro finished
      have left := (coherent.finished finished).1
      rw [sending] at left
      cases left
  | resetWork leaving held =>
      refine ⟨coherent.pending, coherent.failed, coherent.closed, coherent.opened,
        fun _ _ => ?_, ?_, coherent.joined⟩
      · change before.threads.transmit.Left
        rw [leaving]
        trivial
      · intro finished
        obtain ⟨left, _, rest⟩ := coherent.finished finished
        exact ⟨left, rfl, rest⟩
  | startSend running | completeSend running =>
      refine ⟨coherent.pending, coherent.failed, coherent.closed, coherent.opened,
        coherent.released, ?_, coherent.joined⟩
      intro finished
      change before.service = .finished at finished
      rw [running] at finished
      cases finished
  | leaveRun running released posted inFlight =>
      have ready := coherent.ready_of_service (by simp [running])
      exact ⟨coherent.pending, coherent.failed, fun unready => absurd ready unready,
        fun _ begun => (by cases begun), coherent.released,
        fun _ => ⟨coherent.released ready released, released, posted, inFlight⟩,
        fun _ _ => rfl⟩

/-- What holds of a sender on every run. -/
structure SenderInvariant (records : Batch → List Payload) (sender : Sender Batch Payload) :
    Prop where
  accounted : Accounted records sender
  coherent : Coherent sender

private theorem senderInvariant_step {records : Batch → List Payload}
    {before after : Sender Batch Payload}
    {action : SenderAction Batch} (stepped : before.step records action = some after)
    (invariant : SenderInvariant records before) : SenderInvariant records after :=
  ⟨accounted_step stepped invariant.coherent.pending invariant.accounted,
    coherent_step stepped invariant.accounted invariant.coherent⟩

theorem senderInvariant_of_reachable {records : Batch → List Payload}
    {sender : Sender Batch Payload} (reachable : (senderSystem records).Reachable sender) :
    SenderInvariant records sender := by
  refine reachable.invariant (SenderInvariant records) ?_ ?_
  · intro state initial
    rw [initial]
    exact ⟨⟨rfl, .refl _, fun some => absurd rfl some⟩, fun _ => rfl,
      fun failed => (by cases failed), fun _ => ⟨rfl, rfl⟩, fun ready => (by cases ready),
      fun ready => (by cases ready), fun finished => (by cases finished),
      fun ready => (by cases ready)⟩
  · intro before action after stepped invariant
    exact senderInvariant_step stepped invariant

private theorem queue_in_order {records : Batch → List Payload} {sender : Sender Batch Payload}
    (reachable : (senderSystem records).Reachable sender) : FirstInFirstOut sender.threads := by
  refine reachable.invariant (fun state => FirstInFirstOut state.threads) ?_ ?_
  · intro state initial
    rw [initial]
    rfl
  · intro before action after stepped fifo
    cases senderMove_of_step stepped with
    | thread allowed step => exact firstInFirstOut_step step fifo
    | initialise | failInitialise | queueSend | resetWork | startSend | completeSend
    | leaveRun => exact fifo

theorem records_in_order {records : Batch → List Payload} {sender : Sender Batch Payload}
    (reachable : (senderSystem records).Reachable sender) :
    sender.started ++ sender.posted ++ sender.remaining ++
        sender.threads.queue.flatMap records = sender.threads.pushed.flatMap records := by
  have fifo := queue_in_order reachable
  rw [(senderInvariant_of_reachable reachable).accounted.order, ← List.flatMap_append]
  exact congrArg (List.flatMap records) fifo

/-- At every moment the datagrams of the batches pushed so far are, in push order, those whose
send was started, those posted, those of the batch in hand and those of the batches queued;
and every started send is completed or in flight, exactly once. -/
theorem every_record_in_one_place (records : Batch → List Payload) (sender : Sender Batch Payload)
    (reachable : (senderSystem records).Reachable sender) :
    sender.started ++ sender.posted ++ sender.remaining ++
        sender.threads.queue.flatMap records = sender.threads.pushed.flatMap records ∧
      (sender.completed.map Prod.fst ++ sender.inFlight).Perm sender.started :=
  ⟨records_in_order reachable, (senderInvariant_of_reachable reachable).accounted.settled⟩

theorem every_record_in_one_place_sendOne : ∃ sender : Sender ExportData String,
    sender.inFlight ≠ [] ∧
      sender.started ++ sender.posted ++ sender.remaining ++
        sender.threads.queue.flatMap payloads = sender.threads.pushed.flatMap payloads := by
  obtain ⟨sender, _, reached, _, flying, _⟩ := sendOne_run
  exact ⟨sender, flying, (every_record_in_one_place payloads sender reached.of_restrict).1⟩

/-! ### After the return -/

/-- ioThread runs no handler any more, or never ran one. -/
structure Silent (sender : Sender Batch Payload) : Prop where
  idle : sender.service ≠ .running
  begun : sender.opening ≠ .pending

private theorem silent_step {records : Batch → List Payload} {before after : Sender Batch Payload}
    {action : SenderAction Batch} (stepped : before.step records action = some after)
    (silent : Silent before) :
    Silent after ∧ after.started = before.started ∧ after.completed = before.completed := by
  obtain ⟨idle, begun⟩ := silent
  cases senderMove_of_step stepped with
  | initialise pending => exact absurd pending begun
  | failInitialise pending => exact absurd pending begun
  | startSend running => exact absurd running idle
  | completeSend running => exact absurd running idle
  | leaveRun running => exact absurd running idle
  | thread | queueSend | resetWork => exact ⟨⟨idle, begun⟩, rfl, rfl⟩

private theorem silent_run {records : Batch → List Payload} {before after : Sender Batch Payload}
    {actions : List (SenderAction Batch)}
    (run : (senderSystem records).Run before actions after) (silent : Silent before) :
    after.started = before.started ∧ after.completed = before.completed := by
  induction run with
  | stay state => exact ⟨rfl, rfl⟩
  | move stepped _ ih =>
      obtain ⟨still, started, completed⟩ := silent_step stepped silent
      obtain ⟨later, last⟩ := ih still
      exact ⟨later.trans started, last.trans completed⟩

/-- Nothing is left to send once transmitThread has returned. -/
structure NothingLeft (sender : Sender Batch Payload) : Prop where
  silent : Silent sender
  posted : sender.posted = []
  remaining : sender.remaining = []
  inFlight : sender.inFlight = []

private theorem nothingLeft_of_closed {records : Batch → List Payload}
    {sender : Sender Batch Payload}
    (invariant : SenderInvariant records sender) (failed : sender.opening = .failed) :
    NothingLeft sender := by
  obtain ⟨service, popped⟩ := invariant.coherent.closed (by simp [failed])
  have order := invariant.accounted.order
  have settled := invariant.accounted.settled
  rw [popped, List.flatMap_nil, List.append_eq_nil_iff, List.append_eq_nil_iff] at order
  obtain ⟨⟨started, posted⟩, remaining⟩ := order
  rw [started] at settled
  exact ⟨⟨by simp [service], by simp [failed]⟩, posted, remaining,
    (List.append_eq_nil_iff.mp settled.eq_nil).2⟩

theorem nothing_left_at_return {records : Batch → List Payload} {sender : Sender Batch Payload}
    (invariant : SenderInvariant records sender)
    (returned : sender.threads.transmit = .returned) : NothingLeft sender := by
  cases opening : sender.opening with
  | pending =>
      have waiting := invariant.coherent.pending opening
      rw [returned] at waiting
      cases waiting
  | failed => exact nothingLeft_of_closed invariant opening
  | ready =>
      have finished := invariant.coherent.joined opening returned
      obtain ⟨_, _, posted, inFlight⟩ := invariant.coherent.finished finished
      have nothing := invariant.accounted.nothing_in_hand (fun batch => by
        rw [returned]
        exact fun impossible => by cases impossible)
      exact ⟨⟨by simp [finished], by simp [opening]⟩, posted, nothing, inFlight⟩

theorem completed_at_return {records : Batch → List Payload} {sender : Sender Batch Payload}
    (invariant : SenderInvariant records sender)
    (returned : sender.threads.transmit = .returned) :
    (sender.completed.map Prod.fst).Perm sender.started := by
  have settled := invariant.accounted.settled
  rw [(nothing_left_at_return invariant returned).inFlight, List.append_nil] at settled
  exact settled

/-- When transmitThread has returned, from its loop or because its initialisation failed, the send
of every record of every batch it popped was started once, in order, and has completed; and no
handler of ioThread, which refers to transmitThread's socket and destination, runs after that. -/
theorem all_sent_at_return (records : Batch → List Payload) (sender : Sender Batch Payload)
    (reachable : (senderSystem records).Reachable sender)
    (returned : sender.threads.transmit = .returned) :
    sender.started = sender.threads.popped.flatMap records ∧
      (sender.completed.map Prod.fst).Perm sender.started ∧
      ∀ actions after, (senderSystem records).Run sender actions after →
        after.started = sender.started ∧ after.completed = sender.completed := by
  have invariant := senderInvariant_of_reachable reachable
  have left := nothing_left_at_return invariant returned
  have order := invariant.accounted.order
  rw [left.posted, left.remaining, List.append_nil, List.append_nil] at order
  exact ⟨order, completed_at_return invariant returned,
    fun _ _ run => silent_run run left.silent⟩

theorem all_sent_at_return_closeOne : ∃ sender : Sender ExportData String,
    sender.threads.transmit = .returned ∧
      sender.started = sender.threads.popped.flatMap payloads := by
  obtain ⟨_, sender, _, _, _, _, reached, _, _, transmit⟩ := sendOne_run
  exact ⟨sender, transmit, (all_sent_at_return payloads sender reached.of_restrict transmit).1⟩

/-- When no exit of transmitThread from its loop finds a batch on its way, none is after it. -/
theorem drained_at_return {records : Batch → List Payload} {sender : Sender Batch Payload}
    (reachable : ((senderSystem records).restrict SenderExitsSettled).Reachable sender)
    (initialised : sender.opening = .ready) (returned : sender.threads.transmit = .returned) :
    Drained sender.threads := by
  obtain ⟨threads, reached, below⟩ :=
    (settled_threads_simulate_sender records).simulates.reachable reachable
  have same := below (by simp [initialised])
  rw [same] at reached
  exact drained_of_left reached (by rw [returned]; trivial)

/-- From the push to the socket: in every run in which the initialisation of transmitThread
succeeds and its exits find no batch on its way, the send of every record of every pushed batch
has been started, once and in push order, and has completed when transmitThread has returned. -/
theorem every_pushed_record_sent (records : Batch → List Payload) (sender : Sender Batch Payload)
    (reachable : ((senderSystem records).restrict SenderExitsSettled).Reachable sender)
    (initialised : sender.opening = .ready) (returned : sender.threads.transmit = .returned) :
    sender.started = sender.threads.pushed.flatMap records ∧
      (sender.completed.map Prod.fst).Perm sender.started := by
  have invariant := senderInvariant_of_reachable reachable.of_restrict
  have left := nothing_left_at_return invariant returned
  have order := records_in_order reachable.of_restrict
  rw [(drained_at_return reachable initialised returned).empty, left.posted, left.remaining,
    List.flatMap_nil, List.append_nil, List.append_nil, List.append_nil] at order
  exact ⟨order, completed_at_return invariant returned⟩

theorem every_pushed_record_sent_closeOne : ∃ sender : Sender ExportData String,
    sender.threads.transmit = .returned ∧
      sender.started = sender.threads.pushed.flatMap payloads := by
  obtain ⟨_, sender, _, _, _, _, reached, _, ready, transmit⟩ := sendOne_run
  exact ⟨sender, transmit, (every_pushed_record_sent payloads sender reached ready transmit).1⟩

/-! ### The join ends -/

/-- The steps that are left to transmitThread and ioThread once the loop is left. -/
def SenderAction.closes : SenderAction Batch → Bool
  | .resetWork => true
  | .startSend => true
  | .completeSend _ _ => true
  | .leaveRun => true
  | .thread .transmitJoin => true
  | _ => false

def TransmitPosition.toJoin : TransmitPosition Batch → Nat
  | .returned => 0
  | _ => 1

def ServicePosition.toFinish : ServicePosition → Nat
  | .finished => 0
  | _ => 1

/-- How many of them there can be: a posted handler starts a send, which has to complete. -/
def Sender.unfinished (sender : Sender Batch Payload) : Nat :=
  sender.threads.transmit.toJoin + sender.work.toNat + sender.service.toFinish +
    2 * sender.posted.length + sender.inFlight.length

private theorem toJoin_thread {before after : Threads Batch} {action : ThreadAction Batch}
    (step : TransmitStep before after action) (left : before.transmit.Left) :
    after.transmit.toJoin +
        (if (SenderAction.thread action).closes then 1 else 0) ≤ before.transmit.toJoin := by
  cases step with
  | locked waiting taken =>
      rw [waiting] at left
      cases left
  | sent sending again =>
      rw [sending] at left
      cases left
  | joined leaving back =>
      rw [back, leaving]
      rfl
  | other elsewhere others =>
      have same : after.transmit = before.transmit := by
        rcases elsewhere.transmit with same | ⟨asleep, _⟩
        · exact same
        · rw [asleep] at left
          cases left
      have unrelated : (SenderAction.thread action).closes = false := by
        cases action <;> first | rfl | cases others
      rw [same, unrelated]
      rfl

private theorem unfinished_step {records : Batch → List Payload}
    {before after : Sender Batch Payload}
    {action : SenderAction Batch} (stepped : before.step records action = some after)
    (invariant : SenderInvariant records before) (left : before.threads.transmit.Left) :
    after.unfinished + (if action.closes then 1 else 0) ≤ before.unfinished := by
  have begun := invariant.coherent.begun left
  cases senderMove_of_step stepped with
  | thread allowed step =>
      have rank := toJoin_thread (transmitStep_of_step step) left
      unfold Sender.unfinished
      dsimp only
      omega
  | initialise pending => exact absurd pending begun
  | failInitialise pending => exact absurd pending begun
  | queueSend inHand =>
      have nothing := invariant.accounted.nothing_in_hand (fun batch sending => by
        rw [sending] at left
        cases left)
      rw [nothing] at inHand
      cases inHand
  | resetWork leaving held => simp [Sender.unfinished, held, SenderAction.closes]
  | startSend running first =>
      simp [Sender.unfinished, first, SenderAction.closes]
      omega
  | completeSend running found =>
      obtain ⟨within, _⟩ := List.getElem?_eq_some_iff.mp found
      simp [Sender.unfinished, SenderAction.closes, List.length_eraseIdx, within]
      omega
  | leaveRun running released posted inFlight =>
      simp [Sender.unfinished, running, SenderAction.closes, ServicePosition.toFinish]

private theorem left_step_kept {records : Batch → List Payload}
    {before after : Sender Batch Payload}
    {action : SenderAction Batch} (stepped : before.step records action = some after)
    (left : before.threads.transmit.Left) : after.threads.transmit.Left := by
  cases senderMove_of_step stepped with
  | thread allowed step => exact left_kept (transmitStep_of_step step) left
  | failInitialise pending => trivial
  | initialise | queueSend | resetWork | startSend | completeSend | leaveRun => exact left

private theorem closing_enabled {records : Batch → List Payload} {sender : Sender Batch Payload}
    (invariant : SenderInvariant records sender) (leaving : sender.threads.transmit = .leaving) :
    ∃ action, action.closes = true ∧ (sender.step records action).isSome := by
  have begun := invariant.coherent.opened (invariant.coherent.ready leaving)
  cases working : sender.work with
  | true =>
      refine ⟨.resetWork, rfl, ?_⟩
      unfold Sender.step
      rw [leaving, working]
      rfl
  | false =>
      cases service : sender.service with
      | notStarted => exact absurd service begun
      | finished =>
          refine ⟨.thread .transmitJoin, rfl, ?_⟩
          unfold Sender.step Sender.stepThread Sender.allows Threads.step
          dsimp only
          rw [if_pos (decide_eq_true service), leaving]
          rfl
      | running =>
          cases posted : sender.posted with
          | cons payload rest =>
              refine ⟨.startSend, rfl, ?_⟩
              unfold Sender.step
              rw [service, posted]
              rfl
          | nil =>
              cases inFlight : sender.inFlight with
              | cons payload rest =>
                  refine ⟨.completeSend 0 false, rfl, ?_⟩
                  unfold Sender.step
                  rw [service, inFlight]
                  rfl
              | nil =>
                  refine ⟨.leaveRun, rfl, ?_⟩
                  unfold Sender.step
                  rw [service, working, posted, inFlight]
                  rfl

/-- Once transmitThread has left its loop, whatever the other threads do, at most a fixed number
of closing steps is left, and until it has returned one of them can be taken: the join ends. -/
theorem join_ends (records : Batch → List Payload) (sender : Sender Batch Payload)
    (reachable : (senderSystem records).Reachable sender)
    (left : sender.threads.transmit.Left) (actions : List (SenderAction Batch))
    (after : Sender Batch Payload) (run : (senderSystem records).Run sender actions after) :
    actions.countP SenderAction.closes + after.unfinished ≤ sender.unfinished ∧
      (after.threads.transmit = .returned ∨
        ∃ action, action.closes = true ∧ (after.step records action).isSome) := by
  have bounded := @TransitionSystem.Run.countP_le _ _ (senderSystem records)
    (fun state => SenderInvariant records state ∧ state.threads.transmit.Left)
    Sender.unfinished SenderAction.closes (fun before action after stepped held =>
      ⟨⟨senderInvariant_step stepped held.1, left_step_kept stepped held.2⟩,
        unfinished_step stepped held.1 held.2⟩) _ _ _ run
    ⟨senderInvariant_of_reachable reachable, left⟩
  obtain ⟨⟨invariant, leftAfter⟩, count⟩ := bounded
  refine ⟨count, ?_⟩
  cases position : after.threads.transmit with
  | returned => exact Or.inl rfl
  | leaving => exact Or.inr (closing_enabled invariant position)
  | waiting | asleep | sending batch =>
      rw [position] at leftAfter
      cases leftAfter

theorem join_ends_closeOne : ∃ leaving returned : Sender ExportData String,
    returned.threads.transmit = .returned ∧ 4 + returned.unfinished ≤ leaving.unfinished := by
  obtain ⟨leaving, returned, reached, position, _, run, _, _, _, transmit⟩ := sendOne_run
  have left : leaving.threads.transmit.Left := by
    rw [position]
    trivial
  exact ⟨leaving, returned, transmit,
    (join_ends payloads leaving reached.of_restrict left closeOne returned run).1⟩

end SflowMiddle.Exporter

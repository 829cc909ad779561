/-
The whole way of a flow record through src/main.cpp, on a card whose calls succeed: the
loop of smartNicIoThread, and the threads with the queue and the io_service, side by side.
They meet where a tick leaves its batch in the hands of smartNicIoThread; everything else,
the firmware between ticks, the stop requests, the pops, the sends and their completions,
happens in any order. What is followed is the agents a collector reads out of the datagrams.
-/

import SflowMiddle.Foundation.Composition
import SflowMiddle.Exporter.Decoding
import SflowMiddle.Exporter.ExportLoop
import SflowMiddle.Exporter.Sending

namespace SflowMiddle.Exporter

open SflowMiddle.Foundation
open SflowMiddle.Calibration
open SflowMiddle.Card
open SflowMiddle.Clock

/-! ### What a collector reads -/

def agentsOf (entry : Tuple × FlowRecord) : List (Tuple × Agent) :=
  entry.2.agent.map fun agent => (entry.1, agent)

open Classical in
/-- The agents in a datagram, each with the flow it is said to be of. -/
noncomputable def readAgents (payload : String) : List (Tuple × Agent) :=
  if written : ∃ entry, flowPayload entry = payload then agentsOf written.choose else []

open Classical in
/-- The counters in a datagram. -/
noncomputable def readCounters (payload : String) : List (CounterAgent × CounterRecord) :=
  if written : ∃ entry, counterPayload entry = payload then [written.choose] else []

private theorem readAgents_flowPayload (entry : Tuple × FlowRecord) :
    readAgents (flowPayload entry) = agentsOf entry := by
  have written : ∃ other, flowPayload other = flowPayload entry := ⟨entry, rfl⟩
  unfold readAgents
  rw [dif_pos written]
  have shown := (flowPayload_eq_iff _ _).mp written.choose_spec
  simp only [FlowRecord.shown, Prod.mk.injEq] at shown
  obtain ⟨key, _, _, agents⟩ := shown
  unfold agentsOf
  rw [key, agents]

private theorem readAgents_counterPayload (entry : CounterAgent × CounterRecord) :
    readAgents (counterPayload entry) = [] := by
  unfold readAgents
  rw [dif_neg]
  rintro ⟨flow, written⟩
  exact flowPayload_ne_counterPayload flow entry written

private theorem readCounters_counterPayload (entry : CounterAgent × CounterRecord) :
    readCounters (counterPayload entry) = [entry] := by
  have written : ∃ other, counterPayload other = counterPayload entry := ⟨entry, rfl⟩
  unfold readCounters
  rw [dif_pos written, counterPayload_injective written.choose_spec]

private theorem readCounters_flowPayload (entry : Tuple × FlowRecord) :
    readCounters (flowPayload entry) = [] := by
  unfold readCounters
  rw [dif_neg]
  rintro ⟨counter, written⟩
  exact flowPayload_ne_counterPayload entry counter written.symm

private theorem readAgents_payloads (data : ExportData) :
    (payloads data).flatMap readAgents = exportedAgents data := by
  unfold payloads
  rw [List.flatMap_append, List.flatMap_map, List.flatMap_map]
  have nothing : data.counterMap.entries.flatMap (fun entry => readAgents (counterPayload entry)) =
      [] := List.flatMap_eq_nil_iff.mpr (fun entry _ => readAgents_counterPayload entry)
  rw [nothing, List.append_nil]
  simp only [readAgents_flowPayload]
  rfl

private theorem readCounters_payloads (data : ExportData) :
    (payloads data).flatMap readCounters = data.counterMap.entries := by
  unfold payloads
  rw [List.flatMap_append, List.flatMap_map, List.flatMap_map]
  have nothing : data.flowMap.entries.flatMap (fun entry => readCounters (flowPayload entry)) =
      [] := List.flatMap_eq_nil_iff.mpr (fun entry _ => readCounters_flowPayload entry)
  rw [nothing, List.nil_append]
  simp only [readCounters_counterPayload]
  exact List.flatMap_singleton' _

/-! ### The batches of smartNicIoThread -/

/-- The batch smartNicIoThread has aggregated and not pushed. -/
def IoPosition.held {Batch : Type} : IoPosition Batch → List Batch
  | .holding batch => batch.toList
  | _ => []

def ThreadAction.aggregated {Batch : Type} : ThreadAction Batch → List Batch
  | .ioAggregate batch => batch.toList
  | _ => []

def SenderAction.aggregated {Batch : Type} : SenderAction Batch → List Batch
  | .thread action => action.aggregated
  | _ => []

section Batches

variable {Batch Payload : Type}

private theorem held_of_settled {position : IoPosition Batch} (settled : position.Settled) :
    position.held = [] := by
  cases position with
  | holding batch =>
      cases batch with
      | none => rfl
      | some data => cases settled
  | _ => rfl

private theorem aggregated_step {before after : Threads Batch} {action : ThreadAction Batch}
    (stepped : before.step action = some after) :
    after.pushed ++ after.io.held = before.pushed ++ before.io.held ++ action.aggregated := by
  cases threadMove_of_step stepped with
  | ioTestRunning here =>
      dsimp only
      split <;> simp [here, IoPosition.held, ThreadAction.aggregated]
  | ioPush here => simp [here, IoPosition.held, ThreadAction.aggregated, Threads.push]
  | ioWake here | ioAggregate here | ioSkip here | ioDrain here | ioNotify here =>
      simp [here, IoPosition.held, ThreadAction.aggregated]
  | transmitSection here =>
      unfold Threads.lockedSection
      split
      · simp [ThreadAction.aggregated]
      · split <;> simp [ThreadAction.aggregated]
  | transmitWake | transmitSend | transmitJoin | mainStop | mainNotify | signalStop
  | signalNotify | signalLeave => simp [ThreadAction.aggregated]

private theorem aggregated_sender_step {records : Batch → List Payload}
    {before after : Sender Batch Payload} {action : SenderAction Batch}
    (stepped : before.step records action = some after) :
    after.threads.pushed ++ after.threads.io.held =
      before.threads.pushed ++ before.threads.io.held ++ action.aggregated := by
  cases senderMove_of_step stepped with
  | thread allowed step => exact aggregated_step step
  | initialise | failInitialise | queueSend | resetWork | startSend | completeSend | leaveRun =>
      exact (List.append_nil _).symm

private theorem aggregated_run {records : Batch → List Payload}
    {before after : Sender Batch Payload}
    {actions : List (SenderAction Batch)} (run : (senderSystem records).Run before actions after) :
    after.threads.pushed ++ after.threads.io.held =
      before.threads.pushed ++ before.threads.io.held ++
        actions.flatMap SenderAction.aggregated := by
  induction run with
  | stay state => exact (List.append_nil _).symm
  | move step _ ih => rw [ih, aggregated_sender_step step, List.flatMap_cons, List.append_assoc]

end Batches

/-! ### Side by side -/

/-- Every step of the threads and of the sending side but the one that a tick takes. -/
def SenderAction.Apart {Batch : Type} : SenderAction Batch → Prop
  | .thread (.ioAggregate _) => False
  | _ => True

private theorem SenderAction.Apart.aggregated {Batch : Type} {action : SenderAction Batch}
    (apart : action.Apart) : action.aggregated = [] := by
  unfold SenderAction.Apart at apart
  split at apart
  · cases apart
  · rename_i other
    unfold SenderAction.aggregated ThreadAction.aggregated
    split
    · split
      · exact absurd rfl (other _)
      · rfl
    · rfl

inductive PipelineAction where
  | tick (polls : List PollInput) (counted : List CounterData) (reported : Bool)
      (batch : Option ExportData)
  | fill (flowRecords counterRecords : List Carried)
  | other (action : SenderAction ExportData) (apart : action.Apart)

namespace PipelineAction

def ofLoop : PipelineAction → Option LoopAction
  | tick polls counted reported batch => some (.tick polls counted reported batch)
  | fill flowRecords counterRecords => some (.fill flowRecords counterRecords)
  | other _ _ => none

def ofSender : PipelineAction → Option (SenderAction ExportData)
  | tick _ _ _ batch => some (.thread (.ioAggregate batch))
  | fill _ _ => none
  | other action _ => some action

def flowsFilled : PipelineAction → List Carried
  | fill flowRecords _ => flowRecords
  | _ => []

def countersFilled : PipelineAction → List Carried
  | fill _ counterRecords => counterRecords
  | _ => []

def counted : PipelineAction → List CounterData
  | tick _ counted _ _ => counted
  | _ => []

end PipelineAction

abbrev Pipeline : Type := ExportLoop × Sender ExportData String

def pipelineSystem (std : StdSort) (config : TimeAdjuster.Config) (flows : SmartNicReader)
    (counters : CounterReader) : TransitionSystem Pipeline PipelineAction :=
  .composed (loopSystem std config flows counters) (senderSystem payloads) PipelineAction.ofLoop
    PipelineAction.ofSender

/-- The pipeline whose transmitThread takes its exit only with no batch on its way. -/
def settledPipelineSystem (std : StdSort) (config : TimeAdjuster.Config) (flows : SmartNicReader)
    (counters : CounterReader) : TransitionSystem Pipeline PipelineAction :=
  .composed (loopSystem std config flows counters)
    ((senderSystem payloads).restrict SenderExitsSettled) PipelineAction.ofLoop
    PipelineAction.ofSender

private theorem batches_ofLoop (actions : List PipelineAction) :
    (actions.flatMap fun action => action.ofLoop.toList).flatMap LoopAction.batches =
      (actions.flatMap fun action => action.ofSender.toList).flatMap SenderAction.aggregated := by
  rw [List.flatMap_assoc, List.flatMap_assoc]
  congr 1
  funext action
  cases action with
  | tick polls counted reported batch =>
      simp [PipelineAction.ofLoop, PipelineAction.ofSender, LoopAction.batches,
        SenderAction.aggregated, ThreadAction.aggregated]
  | fill flowRecords counterRecords => rfl
  | other action apart =>
      simp [PipelineAction.ofLoop, PipelineAction.ofSender, apart.aggregated]

private theorem carried_ofLoop {Item : Type} {ofAction : PipelineAction → List Item}
    {ofPart : LoopAction → List Item}
    (same : ∀ action : PipelineAction, action.ofLoop.toList.flatMap ofPart = ofAction action)
    (actions : List PipelineAction) :
    (actions.flatMap fun action => action.ofLoop.toList).flatMap ofPart =
      actions.flatMap ofAction := by
  rw [List.flatMap_assoc]
  congr 1
  funext action
  exact same action

private theorem flowsFilled_ofLoop (action : PipelineAction) :
    action.ofLoop.toList.flatMap LoopAction.flowsFilled = action.flowsFilled := by
  cases action <;> simp [PipelineAction.ofLoop, PipelineAction.flowsFilled, LoopAction.flowsFilled]

private theorem countersFilled_ofLoop (action : PipelineAction) :
    action.ofLoop.toList.flatMap LoopAction.countersFilled = action.countersFilled := by
  cases action <;>
    simp [PipelineAction.ofLoop, PipelineAction.countersFilled, LoopAction.countersFilled]

private theorem counted_ofLoop (action : PipelineAction) :
    action.ofLoop.toList.flatMap LoopAction.counted = action.counted := by
  cases action <;> simp [PipelineAction.ofLoop, PipelineAction.counted, LoopAction.counted]

/-- The datagrams of all batches so far, in the order of their sends: started, posted and in hand,
then those of the batches queued or held. -/
def Sender.datagrams (sender : Sender ExportData String) : List String :=
  sender.started ++ sender.posted ++ sender.remaining ++
    (sender.threads.queue ++ sender.threads.io.held).flatMap payloads

private theorem datagrams_of_run {sender : Sender ExportData String}
    {actions : List (SenderAction ExportData)}
    (run : (senderSystem payloads).Run {} actions sender) :
    sender.datagrams = (actions.flatMap SenderAction.aggregated).flatMap payloads := by
  have aggregated := aggregated_run run
  have order := records_in_order (run.reachable (.start rfl))
  unfold Sender.datagrams
  rw [List.flatMap_append, ← List.append_assoc, order, ← List.flatMap_append, aggregated]
  rfl

private theorem datagrams_at_return {sender : Sender ExportData String}
    (reachable : ((senderSystem payloads).restrict SenderExitsSettled).Reachable sender)
    (initialised : sender.opening = .ready) (returned : sender.threads.transmit = .returned) :
    sender.datagrams = sender.started := by
  have left := nothing_left_at_return (senderInvariant_of_reachable reachable.of_restrict) returned
  have drained := drained_at_return reachable initialised returned
  unfold Sender.datagrams
  rw [left.posted, left.remaining, drained.empty, held_of_settled drained.settled]
  simp

section Runs

variable {std : StdSort} {config : TimeAdjuster.Config} {flows : SmartNicReader}
  {counters : CounterReader} {first last : Pipeline} {actions : List PipelineAction}

private theorem flows_followed (opened : flows.cpp = true ∧ counters.cpp = true)
    (slots : 0 < flows.slotCount ∧ 0 < counters.slotCount)
    (initial : (pipelineSystem std config flows counters).initial first)
    (loopRun : (loopSystem std config flows counters).Run first.1
      (actions.flatMap fun action => action.ofLoop.toList) last.1)
    (senderRun : (senderSystem payloads).Run first.2
      (actions.flatMap fun action => action.ofSender.toList) last.2) :
    (last.2.datagrams.flatMap readAgents ++
        (readyRecords flowStore flows.slotCount last.1.card.memory).map exportedAs).Perm
      ((readyRecords flowStore flows.slotCount first.1.card.memory ++
        actions.flatMap PipelineAction.flowsFilled).map exportedAs) := by
  have begins : first.2 = {} := initial.2
  rw [begins] at senderRun
  have exported := every_flow_exported_once opened slots initial.1 loopRun
  rw [batches_ofLoop, carried_ofLoop flowsFilled_ofLoop] at exported
  rw [datagrams_of_run senderRun, List.flatMap_assoc]
  simp only [readAgents_payloads]
  exact exported

/-- Whoever keeps the last counters of each interface out of the datagrams has what one
aggregation of all the counter records would give. -/
private theorem counters_followed
    (initial : (pipelineSystem std config flows counters).initial first)
    (loopRun : (loopSystem std config flows counters).Run first.1
      (actions.flatMap fun action => action.ofLoop.toList) last.1)
    (senderRun : (senderSystem payloads).Run first.2
      (actions.flatMap fun action => action.ofSender.toList) last.2) :
    OrderedMap.ofList (last.2.datagrams.flatMap readCounters) =
      aggregateCounters (actions.flatMap PipelineAction.counted) := by
  have begins : first.2 = {} := initial.2
  rw [begins] at senderRun
  have kept := counters_kept loopRun OrderedMap.empty
  rw [batches_ofLoop, carried_ofLoop counted_ofLoop] at kept
  rw [datagrams_of_run senderRun, List.flatMap_assoc, aggregateCounters_eq]
  simp only [readCounters_payloads]
  exact kept

/-- On a card whose calls succeed, with ticks that end normally: at every moment, whatever order
the firmware, the threads, the sends and the stop requests take, the agents in the datagrams
started, posted and in hand, in those of the batches queued or held, and in the records still
ready on the card are all the flow records the firmware has made ready, each once. -/
theorem every_flow_in_one_place (opened : flows.cpp = true ∧ counters.cpp = true)
    (slots : 0 < flows.slotCount ∧ 0 < counters.slotCount)
    (initial : (pipelineSystem std config flows counters).initial first)
    (run : (pipelineSystem std config flows counters).Run first actions last) :
    (last.2.datagrams.flatMap readAgents ++
        (readyRecords flowStore flows.slotCount last.1.card.memory).map exportedAs).Perm
      ((readyRecords flowStore flows.slotCount first.1.card.memory ++
        actions.flatMap PipelineAction.flowsFilled).map exportedAs) :=
  flows_followed opened slots initial run.onLeft run.onRight

end Runs

private theorem startup_pipeline : ∃ (first last : Pipeline) (counted : List CounterData)
    (reported : Bool)
    (batch : Option ExportData),
    (pipelineSystem StdSort.insertion {} ⟨true, 2⟩ ⟨true, 1⟩).initial first ∧
      first.1.card = busyOnce ∧
      (pipelineSystem StdSort.insertion {} ⟨true, 2⟩ ⟨true, 1⟩).Run first
        [.other .initialise trivial, .other (.thread .ioTestRunning) trivial,
          .other (.thread .ioWake) trivial, .tick [] counted reported batch] last := by
  obtain ⟨loop, counted, reported, batch, after, initial, card, step⟩ := startup_tick
  exact ⟨(loop, {}), (after, _), counted, reported, batch, ⟨initial, rfl⟩, card,
    .both rfl rfl (.both rfl rfl (.both rfl rfl (.both step rfl (.stay _))))⟩

theorem every_flow_in_one_place_startup : ∃ (sender : Sender ExportData String) (card : SteadyCard),
    (sender.datagrams.flatMap readAgents ++
      (readyRecords flowStore 2 card.memory).map exportedAs).length = 1 := by
  obtain ⟨first, last, counted, reported, batch, initial, card, run⟩ := startup_pipeline
  have accounted := every_flow_in_one_place ⟨rfl, rfl⟩ (by decide) initial run
  have count : (readyRecords flowStore 2 first.1.card.memory).length = 1 := by
    rw [card]
    decide
  refine ⟨last.2, last.1.card, accounted.length_eq.trans ?_⟩
  simpa [PipelineAction.flowsFilled] using count

/-! ### Two records from the card to the socket -/

def poppedOne (data : ExportData) (remaining : List String) : Sender ExportData String where
  threads := { transmit := .sending data, pushed := [data], popped := [data] }
  opening := .ready
  remaining := remaining
  work := true
  service := .running

def untilPopped (counted : List CounterData) (reported : Bool) (data : ExportData) :
    List PipelineAction :=
  [.other .initialise trivial, .other (.thread .ioTestRunning) trivial,
    .other (.thread .ioWake) trivial, .tick [] counted reported (some data),
    .other (.thread .ioPush) trivial, .other (.thread .transmitSection) trivial]

def untilReturned : List PipelineAction :=
  [.other .queueSend trivial, .other .startSend trivial, .other .queueSend trivial,
    .other (.thread .transmitSend) trivial, .other (.thread .mainStop) trivial,
    .other (.thread .ioTestRunning) trivial, .other (.thread .ioDrain) trivial,
    .other (.thread .ioNotify) trivial, .other (.thread .transmitSection) trivial,
    .other .startSend trivial, .other (.completeSend 1 true) trivial, .other .resetWork trivial,
    .other (.completeSend 0 false) trivial, .other .leaveRun trivial,
    .other (.thread .transmitJoin) trivial]

theorem startup_datagrams {loop after : ExportLoop} {counted : List CounterData} {reported : Bool}
    {batch : Option ExportData}
    (initial : (loopSystem StdSort.insertion {} ⟨true, 2⟩ ⟨true, 1⟩).initial loop)
    (card : loop.card = busyOnce)
    (step : (loopSystem StdSort.insertion {} ⟨true, 2⟩ ⟨true, 1⟩).step loop
      (.tick [] counted reported batch) after) :
    counted.length = 1 ∧
      ∃ data flow counter, batch = some data ∧ payloads data = [flow, counter] := by
  obtain ⟨entries, returns, _, _, aggregated⟩ := step
  have taken := tickTaken_of_step ⟨rfl, rfl⟩ (by decide) initial.1 returns
  have flowCount := congrArg List.length taken.flows.returned
  have counterCount := congrArg List.length taken.counters.returned
  rw [card, List.length_map] at flowCount counterCount
  have oneFlow : entries.length = 1 := flowCount.trans (by decide)
  have oneCounter : counted.length = 1 := counterCount.trans (by decide)
  obtain ⟨entry, rfl⟩ := List.length_eq_one_iff.mp oneFlow
  obtain ⟨counter, rfl⟩ := List.length_eq_one_iff.mp oneCounter
  obtain ⟨flowMap, flows, pushed⟩ := aggregate_eq_ok aggregated
  obtain ⟨_, built⟩ := foldlM_eq_ok flows
  subst built
  exact ⟨rfl, _, _, _, pushed, rfl⟩

private theorem delivery_run : ∃ (first last : Pipeline) (counted : List CounterData)
    (reported : Bool)
    (data : ExportData),
    (settledPipelineSystem StdSort.insertion {} ⟨true, 2⟩ ⟨true, 1⟩).initial first ∧
      first.1.card = busyOnce ∧ counted.length = 1 ∧
      (settledPipelineSystem StdSort.insertion {} ⟨true, 2⟩ ⟨true, 1⟩).Run first
        (untilPopped counted reported data ++ untilReturned) last ∧
      last.2.opening = .ready ∧ last.2.threads.transmit = .returned := by
  obtain ⟨loop, counted, reported, batch, after, initial, card, step⟩ := startup_tick
  obtain ⟨count, data, flow, counter, rfl, both⟩ := startup_datagrams initial card step
  have popped : (settledPipelineSystem StdSort.insertion {} ⟨true, 2⟩ ⟨true, 1⟩).Run (loop, {})
      (untilPopped counted reported data) (after, poppedOne data (payloads data)) := by
    refine .both rfl ⟨trivial, rfl⟩ (.both rfl ⟨trivial, rfl⟩ (.both rfl ⟨trivial, rfl⟩
      (.both step ⟨trivial, rfl⟩ (.both rfl ⟨trivial, rfl⟩ (.both rfl ⟨?_, rfl⟩ (.stay _))))))
    exact fun exits => absurd exits.2 (List.cons_ne_nil _ _)
  rw [both] at popped
  have returned : ∃ last, (settledPipelineSystem StdSort.insertion {} ⟨true, 2⟩ ⟨true, 1⟩).Run
      (after, poppedOne data [flow, counter]) untilReturned (after, last) ∧
        last.opening = .ready ∧ last.threads.transmit = .returned := by
    refine ⟨_, .both rfl ⟨trivial, rfl⟩ (.both rfl ⟨trivial, rfl⟩ (.both rfl ⟨trivial, rfl⟩
      (.both rfl ⟨trivial, rfl⟩ (.both rfl ⟨trivial, rfl⟩ (.both rfl ⟨trivial, rfl⟩
      (.both rfl ⟨trivial, rfl⟩ (.both rfl ⟨trivial, rfl⟩ (.both rfl ⟨fun _ => trivial, rfl⟩
      (.both rfl ⟨trivial, rfl⟩ (.both rfl ⟨trivial, rfl⟩ (.both rfl ⟨trivial, rfl⟩
      (.both rfl ⟨trivial, rfl⟩ (.both rfl ⟨trivial, rfl⟩ (.both rfl ⟨trivial, rfl⟩
      (.stay _))))))))))))))), rfl, rfl⟩
  obtain ⟨last, rest, ends⟩ := returned
  exact ⟨(loop, {}), (after, last), counted, reported, data, ⟨initial, rfl⟩, card, count,
    popped.append rest, ends⟩

section Runs

variable {std : StdSort} {config : TimeAdjuster.Config} {flows : SmartNicReader}
  {counters : CounterReader} {first last : Pipeline} {actions : List PipelineAction}

/-- From the card to the socket, on such a card: in every run in which the initialisation of
transmitThread succeeds and its exits find no batch on its way, once transmitThread has returned
a collector reads out of the datagrams every flow record the firmware has made ready, each once,
but for those still ready on the card; and every send has completed. -/
theorem every_flow_reaches_the_socket (opened : flows.cpp = true ∧ counters.cpp = true)
    (slots : 0 < flows.slotCount ∧ 0 < counters.slotCount)
    (initial : (settledPipelineSystem std config flows counters).initial first)
    (run : (settledPipelineSystem std config flows counters).Run first actions last)
    (initialised : last.2.opening = .ready) (returned : last.2.threads.transmit = .returned) :
    (last.2.started.flatMap readAgents ++
        (readyRecords flowStore flows.slotCount last.1.card.memory).map exportedAs).Perm
      ((readyRecords flowStore flows.slotCount first.1.card.memory ++
        actions.flatMap PipelineAction.flowsFilled).map exportedAs) ∧
      (last.2.completed.map Prod.fst).Perm last.2.started := by
  have reached := run.onRight.reachable (.start initial.2)
  have followed := flows_followed opened slots initial run.onLeft run.onRight.of_restrict
  rw [datagrams_at_return reached initialised returned] at followed
  exact ⟨followed,
    completed_at_return (senderInvariant_of_reachable reached.of_restrict) returned⟩

end Runs

theorem every_flow_reaches_the_socket_delivery : ∃ (sender : Sender ExportData String)
    (card : SteadyCard), sender.threads.transmit = .returned ∧
      (sender.started.flatMap readAgents ++
        (readyRecords flowStore 2 card.memory).map exportedAs).length = 1 := by
  obtain ⟨first, last, counted, reported, data, initial, card, _, run, ready, transmit⟩ :=
    delivery_run
  have accounted :=
    (every_flow_reaches_the_socket ⟨rfl, rfl⟩ (by decide) initial run ready transmit).1
  have count : (readyRecords flowStore 2 first.1.card.memory).length = 1 := by
    rw [card]
    decide
  refine ⟨last.2, last.1.card, transmit, accounted.length_eq.trans ?_⟩
  simpa [PipelineAction.flowsFilled, untilPopped, untilReturned] using count

section Runs

variable {std : StdSort} {config : TimeAdjuster.Config} {flows : SmartNicReader}
  {counters : CounterReader} {first last : Pipeline} {actions : List PipelineAction}

/-- In the same runs, a collector that takes the datagrams in the order of their sends and keeps
the last counters of each interface ends with those of the last counter record that was read for
it, whatever ticks the records fell in; and every counter record the firmware has made ready was
read in one tick, or is still ready. -/
theorem counters_up_to_date (opened : flows.cpp = true ∧ counters.cpp = true)
    (slots : 0 < flows.slotCount ∧ 0 < counters.slotCount)
    (initial : (settledPipelineSystem std config flows counters).initial first)
    (run : (settledPipelineSystem std config flows counters).Run first actions last)
    (initialised : last.2.opening = .ready) (returned : last.2.threads.transmit = .returned) :
    OrderedMap.ofList (last.2.started.flatMap readCounters) =
        aggregateCounters (actions.flatMap PipelineAction.counted) ∧
      ((actions.flatMap PipelineAction.counted).map counterCarried ++
          readyRecords counterStore counters.slotCount last.1.card.memory).Perm
        (readyRecords counterStore counters.slotCount first.1.card.memory ++
          actions.flatMap PipelineAction.countersFilled) := by
  have reached := run.onRight.reachable (.start initial.2)
  have followed := counters_followed initial run.onLeft run.onRight.of_restrict
  rw [datagrams_at_return reached initialised returned] at followed
  have read := every_counter_read_once opened slots initial.1 run.onLeft
  rw [carried_ofLoop counted_ofLoop, carried_ofLoop countersFilled_ofLoop] at read
  exact ⟨followed, read⟩

end Runs

theorem counters_up_to_date_delivery : ∃ (sender : Sender ExportData String)
    (counted : List CounterData), sender.threads.transmit = .returned ∧ counted.length = 1 ∧
      OrderedMap.ofList (sender.started.flatMap readCounters) = aggregateCounters counted := by
  obtain ⟨first, last, counted, reported, data, initial, card, count, run, ready, transmit⟩ :=
    delivery_run
  have followed := (counters_up_to_date ⟨rfl, rfl⟩ (by decide) initial run ready transmit).1
  refine ⟨last.2, counted, transmit, count, ?_⟩
  simpa [PipelineAction.counted, untilPopped, untilReturned] using followed

end SflowMiddle.Exporter

/-
The loop of smartNicIoThread in src/main.cpp, tick after tick, on a card whose calls
succeed: both readers, one clock refresh, the report of the drift calibration, the
aggregation and the batch that is pushed. What the firmware makes ready in between is
exported as an agent of its flow, once, and a tick only fails on a timestamp that
cannot be converted.
-/

import SflowMiddle.Card.SteadyTicks
import SflowMiddle.Foundation.Simulation
import SflowMiddle.Exporter.Grouping

namespace SflowMiddle.Exporter

open SflowMiddle.Foundation
open SflowMiddle.Calibration
open SflowMiddle.Card
open SflowMiddle.Card.SteadyCard
open SflowMiddle.Clock

/-- What the loop keeps from one tick to the next. -/
structure ExportLoop where
  card : SteadyCard
  adjuster : TimeAdjuster
  driftCalibrationReported : Bool := false

/-- Whether the tick reports the drift calibration, and the flag afterwards. -/
def reportDrift (calibration : CalibrationStatus) (driftCalibrationReported : Bool) :
    Bool × Bool :=
  if calibration.driftCalibrated = false then (false, false)
  else if driftCalibrationReported = false then (true, true)
  else (false, driftCalibrationReported)

inductive LoopAction where
  | tick (polls : List PollInput) (counted : List CounterData) (reported : Bool)
      (batch : Option ExportData)
  | fill (flowRecords counterRecords : List Carried)

/-- One iteration that ends normally; an exception out of the aggregation leaves the loop. -/
def LoopStep (flows : SmartNicReader) (counters : CounterReader) :
    ExportLoop → LoopAction → ExportLoop → Prop
  | before, .tick polls counted reported batch, after =>
      ∃ entries,
        device.Returns (readBoth flows counters) before.card (entries, counted) after.card ∧
          after.adjuster = (before.adjuster.refresh polls).2 ∧
          (reported, after.driftCalibrationReported) =
            reportDrift after.adjuster.status before.driftCalibrationReported ∧
          aggregate after.adjuster entries counted = .ok batch
  | before, .fill flowRecords counterRecords, after =>
      SteadyStep flows counters before.card (.fill flowRecords counterRecords) after.card ∧
        after.adjuster = before.adjuster ∧
        after.driftCalibrationReported = before.driftCalibrationReported

def loopSystem (std : StdSort) (config : TimeAdjuster.Config) (flows : SmartNicReader)
    (counters : CounterReader) : TransitionSystem ExportLoop LoopAction where
  initial loop := KeepsSettling loop.card ∧
    (∃ polls, TimeAdjuster.construct std config polls = .ok loop.adjuster) ∧
    loop.driftCalibrationReported = false
  step := LoopStep flows counters

/-! ### What is exported -/

def exportedAgents (data : ExportData) : List (Tuple × Agent) :=
  data.flowMap.collect fun key record => record.agent.map fun agent => (key, agent)

namespace LoopAction

def batches : LoopAction → List ExportData
  | tick _ _ _ batch => batch.toList
  | fill _ _ => []

def counted : LoopAction → List CounterData
  | tick _ counted _ _ => counted
  | fill _ _ => []

def flowsFilled : LoopAction → List Carried
  | tick _ _ _ _ => []
  | fill flowRecords _ => flowRecords

def countersFilled : LoopAction → List Carried
  | tick _ _ _ _ => []
  | fill _ counterRecords => counterRecords

def isTick : LoopAction → Bool
  | tick _ _ _ _ => true
  | fill _ _ => false

end LoopAction

def flowOf (carried : Carried) : FlowData :=
  match carried.record with
  | [key, data] => ⟨.ofBytes key, .ofBytes data, carried.index⟩
  | _ => {}

@[simp]
theorem flowOf_flowCarried (entry : FlowData) : flowOf (flowCarried entry) = entry := by
  unfold flowOf flowCarried
  simp only [StoredFlowKey.ofBytes_toBytes, StoredFlowData.ofBytes_toBytes]

/-- The flow a record belongs to and the agent it becomes. -/
def exportedAs (carried : Carried) : Tuple × Agent :=
  (tupleOf (flowOf carried), agentOf (flowOf carried))

private theorem collect_foldl_addConverted (convert : Int → Int) (entries : List FlowData)
    (flowMap : FlowMap) :
    ((entries.foldl (addConverted convert) flowMap).collect fun key record =>
        record.agent.map fun agent => (key, agent)).Perm
      ((flowMap.collect fun key record => record.agent.map fun agent => (key, agent)) ++
        entries.map fun entry => (tupleOf entry, agentOf entry)) := by
  induction entries generalizing flowMap with
  | nil =>
      rw [List.map_nil, List.append_nil]
      exact .refl _
  | cons entry rest ih =>
      have added : ((addConverted convert flowMap entry).collect fun key record =>
          record.agent.map fun agent => (key, agent)).Perm
            ((flowMap.collect fun key record => record.agent.map fun agent => (key, agent)) ++
              [(tupleOf entry, agentOf entry)]) := by
        refine OrderedMap.collect_modify_perm ?_ ?_ flowMap
        · intro record
          exact .of_eq (List.map_append)
        · exact List.map_nil
      refine (ih _).trans ((added.append_right _).trans (.of_eq ?_))
      rw [List.append_assoc]
      rfl

private theorem exportedAgents_perm {adjuster : TimeAdjuster} {flowEntries : List FlowData}
    {counterEntries : List CounterData} {batch : Option ExportData}
    (aggregated : aggregate adjuster flowEntries counterEntries = .ok batch) :
    (batch.toList.flatMap exportedAgents).Perm
      ((flowEntries.map flowCarried).map exportedAs) := by
  have entries : (flowEntries.map flowCarried).map exportedAs =
      flowEntries.map fun entry => (tupleOf entry, agentOf entry) := by
    simp [exportedAs]
  obtain ⟨flowMap, flows, pushed⟩ := aggregate_eq_ok aggregated
  obtain ⟨_, built⟩ := foldlM_eq_ok flows
  have collected := collect_foldl_addConverted adjuster.calibration.convert flowEntries
    OrderedMap.empty
  rw [← built] at collected
  rw [entries, pushed]
  split
  · rw [Option.toList_some, List.flatMap_singleton]
    exact collected
  · rename_i nothing
    -- Nothing is pushed only when the map has no record.
    have none : flowMap.isEmpty = true := by
      by_contra some
      exact nothing (Or.inl some)
    have empty : (flowMap.collect fun key record => record.agent.map fun agent => (key, agent)) =
        [] := by
      unfold OrderedMap.collect
      rw [List.isEmpty_iff.mp none]
      rfl
    rw [empty] at collected
    exact collected

def exportedCounter (entry : CounterData) : CounterAgent × CounterRecord :=
  (interfaceOf entry, countersOf entry)

theorem aggregateCounters_eq (entries : List CounterData) :
    aggregateCounters entries = OrderedMap.ofList (entries.map exportedCounter) := by
  unfold aggregateCounters OrderedMap.ofList
  rw [List.foldl_map]
  rfl

private theorem exportedCounters_eq {adjuster : TimeAdjuster} {flowEntries : List FlowData}
    {counterEntries : List CounterData} {batch : Option ExportData}
    (aggregated : aggregate adjuster flowEntries counterEntries = .ok batch) :
    (batch.toList.flatMap fun data => data.counterMap.entries) =
      (aggregateCounters counterEntries).entries := by
  obtain ⟨flowMap, _, pushed⟩ := aggregate_eq_ok aggregated
  rw [pushed]
  split
  · exact List.append_nil _
  · rename_i nothing
    have none : (aggregateCounters counterEntries).isEmpty = true := by
      by_contra some
      exact nothing (Or.inr some)
    exact (List.isEmpty_iff.mp none).symm

/-! ### Runs of the loop -/

section Runs

variable {std : StdSort} {config : TimeAdjuster.Config} {flows : SmartNicReader}
  {counters : CounterReader}

/-- What every iteration keeps. -/
structure LoopInvariant (std : StdSort) (config : TimeAdjuster.Config) (loop : ExportLoop) :
    Prop where
  settling : KeepsSettling loop.card
  adjuster : (TimeAdjuster.adjusterSystem std config).Reachable loop.adjuster

theorem loopInvariant_initial {loop : ExportLoop}
    (initial : (loopSystem std config flows counters).initial loop) :
    LoopInvariant std config loop :=
  ⟨initial.1, .start initial.2.1⟩

private theorem loopInvariant_step (opened : flows.cpp = true ∧ counters.cpp = true)
    (slots : 0 < flows.slotCount ∧ 0 < counters.slotCount) (before : ExportLoop)
    (action : LoopAction) (after : ExportLoop)
    (step : (loopSystem std config flows counters).step before action after)
    (invariant : LoopInvariant std config before) : LoopInvariant std config after := by
  cases action with
  | tick polls counted reported batch =>
      obtain ⟨entries, returns, refreshed, _⟩ := step
      have taken := tickTaken_of_step opened slots invariant.settling returns
      exact ⟨taken.settling, @TransitionSystem.Reachable.next _ _ _ _ _ polls invariant.adjuster
        refreshed⟩
  | fill flowRecords counterRecords =>
      obtain ⟨filled, same, _⟩ := step
      refine ⟨settling_step opened slots _ (.fill flowRecords counterRecords) _ filled
        invariant.settling, ?_⟩
      rw [same]
      exact invariant.adjuster

private theorem exported_step (opened : flows.cpp = true ∧ counters.cpp = true)
    (slots : 0 < flows.slotCount ∧ 0 < counters.slotCount) (before : ExportLoop)
    (action : LoopAction) (after : ExportLoop)
    (step : (loopSystem std config flows counters).step before action after)
    (invariant : LoopInvariant std config before) :
    (action.batches.flatMap exportedAgents ++
        (readyRecords flowStore flows.slotCount after.card.memory).map exportedAs).Perm
      ((readyRecords flowStore flows.slotCount before.card.memory).map exportedAs ++
        action.flowsFilled.map exportedAs) := by
  rw [← List.map_append]
  cases action with
  | tick polls counted reported batch =>
      obtain ⟨entries, returns, _, _, aggregated⟩ := step
      have taken := tickTaken_of_step opened slots invariant.settling returns
      have accounted := taken.flows.conserves.map exportedAs
      rw [List.map_append] at accounted
      rw [LoopAction.flowsFilled, List.append_nil]
      exact ((exportedAgents_perm aggregated).append_right _).trans accounted
  | fill flowRecords counterRecords =>
      have accounted := flows_accounted_step opened slots _ (.fill flowRecords counterRecords) _
        step.1 invariant.settling
      exact accounted.map exportedAs

private theorem counted_step (opened : flows.cpp = true ∧ counters.cpp = true)
    (slots : 0 < flows.slotCount ∧ 0 < counters.slotCount) (before : ExportLoop)
    (action : LoopAction) (after : ExportLoop)
    (step : (loopSystem std config flows counters).step before action after)
    (invariant : LoopInvariant std config before) :
    (action.counted.map counterCarried ++
        readyRecords counterStore counters.slotCount after.card.memory).Perm
      (readyRecords counterStore counters.slotCount before.card.memory ++
        action.countersFilled) := by
  cases action with
  | tick polls counted reported batch =>
      obtain ⟨entries, returns, _⟩ := step
      exact counters_accounted_step opened slots _ (.tick entries counted) _ returns
        invariant.settling
  | fill flowRecords counterRecords =>
      exact counters_accounted_step opened slots _ (.fill flowRecords counterRecords) _ step.1
        invariant.settling

/-- A tick whose entries can all be converted ends normally, whatever the clock polls bring. -/
theorem tick_of_wellTimed (opened : flows.cpp = true ∧ counters.cpp = true)
    (slots : 0 < flows.slotCount ∧ 0 < counters.slotCount) {loop : ExportLoop}
    (invariant : LoopInvariant std config loop)
    (wellTimed : ∀ record ∈ (flowStore loop.card.memory.activeBank).records flows.slotCount
      loop.card.memory, WellTimed (flowOf record)) (polls : List PollInput) :
    ∃ counted reported batch after,
      (loopSystem std config flows counters).step loop
        (.tick polls counted reported batch) after := by
  obtain ⟨entries, counted, card, returns, taken⟩ := tick_takes opened slots invariant.settling
  rw [← taken.flows.returned] at wellTimed
  have entriesTimed : ∀ entry ∈ entries, WellTimed entry := by simpa using wellTimed
  have refreshed : (TimeAdjuster.adjusterSystem std config).Reachable
      (loop.adjuster.refresh polls).2 := invariant.adjuster.next rfl
  have built := foldlM_of_wellTimed (TimeAdjuster.valid_of_reachable refreshed) entriesTimed
    OrderedMap.empty
  have aggregated := aggregate_built built
    (flowsExact_built (loop.adjuster.refresh polls).2.calibration.convert entries)
    (countersExact_aggregateCounters counted)
  let report := reportDrift (loop.adjuster.refresh polls).2.status loop.driftCalibrationReported
  exact ⟨counted, report.1, _, ⟨card, (loop.adjuster.refresh polls).2, report.2⟩, entries,
    returns.returns, rfl, rfl, aggregated⟩

private theorem wellTimed_of_tick (opened : flows.cpp = true ∧ counters.cpp = true)
    (slots : 0 < flows.slotCount ∧ 0 < counters.slotCount) {loop after : ExportLoop}
    (settling : KeepsSettling loop.card) {polls : List PollInput} {counted : List CounterData}
    {reported : Bool} {batch : Option ExportData}
    (step : (loopSystem std config flows counters).step loop
      (.tick polls counted reported batch) after) :
    ∀ record ∈ (flowStore loop.card.memory.activeBank).records flows.slotCount loop.card.memory,
      WellTimed (flowOf record) := by
  obtain ⟨entries, returns, _, _, aggregated⟩ := step
  have taken := tickTaken_of_step opened slots settling returns
  obtain ⟨flowMap, built, _⟩ := aggregate_eq_ok aggregated
  have wellTimed := (foldlM_eq_ok built).1
  rw [← taken.flows.returned]
  simpa using wellTimed

/-- From the first tick on, every flow record the firmware made ready is an agent of its flow in
exactly one batch, or is still ready. -/
theorem every_flow_exported_once (opened : flows.cpp = true ∧ counters.cpp = true)
    (slots : 0 < flows.slotCount ∧ 0 < counters.slotCount) {first last : ExportLoop}
    {actions : List LoopAction} (initial : (loopSystem std config flows counters).initial first)
    (run : (loopSystem std config flows counters).Run first actions last) :
    ((actions.flatMap LoopAction.batches).flatMap exportedAgents ++
        (readyRecords flowStore flows.slotCount last.card.memory).map exportedAs).Perm
      ((readyRecords flowStore flows.slotCount first.card.memory ++
        actions.flatMap LoopAction.flowsFilled).map exportedAs) := by
  have conserved := run.conserved (loopInvariant_step opened slots) (exported_step opened slots)
    (loopInvariant_initial initial)
  rw [List.flatMap_assoc, List.map_append, List.map_flatMap]
  exact conserved

/-- Every counter record is read in exactly one tick, or is still ready. -/
theorem every_counter_read_once (opened : flows.cpp = true ∧ counters.cpp = true)
    (slots : 0 < flows.slotCount ∧ 0 < counters.slotCount) {first last : ExportLoop}
    {actions : List LoopAction} (initial : (loopSystem std config flows counters).initial first)
    (run : (loopSystem std config flows counters).Run first actions last) :
    ((actions.flatMap LoopAction.counted).map counterCarried ++
        readyRecords counterStore counters.slotCount last.card.memory).Perm
      (readyRecords counterStore counters.slotCount first.card.memory ++
        actions.flatMap LoopAction.countersFilled) := by
  have conserved := run.conserved (loopInvariant_step opened slots) (counted_step opened slots)
    (loopInvariant_initial initial)
  rw [List.map_flatMap]
  exact conserved

theorem counters_kept {before after : ExportLoop} {actions : List LoopAction}
    (run : (loopSystem std config flows counters).Run before actions after)
    (table : OrderedMap CounterAgent CounterRecord) :
    table.insertAll ((actions.flatMap LoopAction.batches).flatMap
        fun data => data.counterMap.entries) =
      table.insertAll ((actions.flatMap LoopAction.counted).map exportedCounter) := by
  induction run generalizing table with
  | stay state => rfl
  | @move before _ _ action actions step _ ih =>
      rw [List.flatMap_cons, List.flatMap_append, OrderedMap.insertAll_append, ih,
        List.flatMap_cons, List.map_append, OrderedMap.insertAll_append]
      congr 1
      cases action with
      | tick polls counted reported batch =>
          obtain ⟨_, _, _, _, aggregated⟩ := step
          change table.insertAll (batch.toList.flatMap fun data => data.counterMap.entries) = _
          rw [exportedCounters_eq aggregated, aggregateCounters_eq]
          exact OrderedMap.insertAll_collected table _
      | fill flowRecords counterRecords => rfl

end Runs

private theorem startup_loop : ∃ loop,
    (loopSystem StdSort.insertion {} ⟨true, 2⟩ ⟨true, 1⟩).initial loop ∧ loop.card = busyOnce := by
  have constructed : ∃ adjuster,
      TimeAdjuster.construct StdSort.insertion {} startupPolls = .ok adjuster := ⟨_, rfl⟩
  obtain ⟨adjuster, started⟩ := constructed
  exact ⟨⟨busyOnce, adjuster, false⟩, ⟨busyOnce_keepsSettling, ⟨_, started⟩, rfl⟩, rfl⟩

theorem busyOnce_wellTimed : ∀ record ∈ (flowStore busyOnce.memory.activeBank).records 2
    busyOnce.memory, WellTimed (flowOf record) := by
  decide

theorem startup_tick : ∃ loop counted reported batch after,
    (loopSystem StdSort.insertion {} ⟨true, 2⟩ ⟨true, 1⟩).initial loop ∧ loop.card = busyOnce ∧
      (loopSystem StdSort.insertion {} ⟨true, 2⟩ ⟨true, 1⟩).step loop
        (.tick [] counted reported batch) after := by
  obtain ⟨loop, initial, card⟩ := startup_loop
  have wellTimed := busyOnce_wellTimed
  rw [← card] at wellTimed
  obtain ⟨counted, reported, batch, after, step⟩ := @tick_of_wellTimed _ _ ⟨true, 2⟩ ⟨true, 1⟩
    ⟨rfl, rfl⟩ (by decide) loop (loopInvariant_initial initial) wellTimed []
  exact ⟨loop, counted, reported, batch, after, initial, card, step⟩

section Runs

variable {std : StdSort} {config : TimeAdjuster.Config} {flows : SmartNicReader}
  {counters : CounterReader}

/-- On a card whose calls succeed, in any reachable state, and whatever the clock polls bring, a
tick ends normally exactly if every ready flow record of the active bank has timestamps that can
be converted. -/
theorem tick_goes_through_iff (opened : flows.cpp = true ∧ counters.cpp = true)
    (slots : 0 < flows.slotCount ∧ 0 < counters.slotCount) {loop : ExportLoop}
    (reachable : (loopSystem std config flows counters).Reachable loop) (polls : List PollInput) :
    (∃ counted reported batch after, (loopSystem std config flows counters).step loop
        (.tick polls counted reported batch) after) ↔
      ∀ record ∈ (flowStore loop.card.memory.activeBank).records flows.slotCount loop.card.memory,
        WellTimed (flowOf record) := by
  have invariant := reachable.invariant (LoopInvariant std config)
    (fun _ initial => loopInvariant_initial initial) (loopInvariant_step opened slots)
  constructor
  · rintro ⟨counted, reported, batch, after, step⟩
    exact wellTimed_of_tick opened slots invariant.settling step
  · intro wellTimed
    exact tick_of_wellTimed opened slots invariant wellTimed polls

end Runs

theorem tick_goes_through_iff_startup : ∃ loop counted reported batch after,
    (loopSystem StdSort.insertion {} ⟨true, 2⟩ ⟨true, 1⟩).step loop
      (.tick [] counted reported batch) after := by
  obtain ⟨loop, initial, card⟩ := startup_loop
  refine ⟨loop, (tick_goes_through_iff ⟨rfl, rfl⟩ (by decide) (.start initial) []).mpr ?_⟩
  rw [card]
  exact busyOnce_wellTimed

/-! ### How often the drift is reported -/

section Drift

variable {calibration : ClockCalibration} {sample : TimeSample}

private theorem length_absorb_le :
    (calibration.absorb sample).samples.length ≤ calibration.samples.length + 1 := by
  unfold ClockCalibration.absorb
  refine (List.dropWhile_suffix _).length_le.trans ?_
  split
  · exact (List.length_append ..).le
  · split
    · exact Nat.le_add_left 1 _
    · exact (List.length_append ..).le

private theorem absorb_drift :
    (calibration.absorb sample).status.driftCalibrated = calibration.status.driftCalibrated ∨
      ((calibration.absorb sample).status.driftCalibrated = false ∧
        (calibration.absorb sample).samples.length ≤ 1) := by
  unfold ClockCalibration.absorb
  split
  · exact Or.inl rfl
  · split
    · exact Or.inr ⟨rfl, (List.dropWhile_suffix _).length_le⟩
    · exact Or.inl rfl

private theorem fitIfDue_drift :
    calibration.fitIfDue.status.driftCalibrated = calibration.status.driftCalibrated ∨
      (calibration.fitIfDue.status.driftCalibrated = true ∧
        10 ≤ calibration.fitIfDue.samples.length) := by
  obtain ⟨_, samples, _⟩ := fitIfDue_frame calibration
  rw [samples]
  rcases fitIfDue_cases calibration with same | ⟨after, due, fitted, installed⟩
  · rw [same]
    exact Or.inl rfl
  · rw [installed]
    obtain ⟨_, _, _, _, _, _, _, _, _, rfl⟩ := fit_eq_some fitted
    exact Or.inr ⟨rfl, due.1⟩

/-- What one more sample does to the drift calibration and to the number of samples. -/
structure DriftMoves (before after : ClockCalibration) : Prop where
  grows : after.samples.length ≤ before.samples.length + 1
  lost : before.status.driftCalibrated = true → after.status.driftCalibrated = false →
    after.samples.length ≤ 1
  begun : before.status.driftCalibrated = false → after.status.driftCalibrated = true →
    10 ≤ after.samples.length

private theorem driftMoves_addSample (calibration : ClockCalibration) (sample : TimeSample) :
    DriftMoves calibration (calibration.addSample sample).2 := by
  unfold ClockCalibration.addSample
  split
  · refine ⟨Nat.le_succ _, ?_, ?_⟩ <;> intro before after <;> simp_all
  · obtain ⟨_, samples, _⟩ := fitIfDue_frame (calibration.absorb sample)
    have fits := @fitIfDue_drift (calibration.absorb sample)
    have absorbs := @absorb_drift calibration sample
    refine ⟨?_, ?_, ?_⟩
    · rw [samples]
      exact length_absorb_le
    · intro before after
      rw [samples]
      rcases absorbs with same | ⟨_, few⟩
      · rw [before] at same
        rcases fits with kept | ⟨begun, _⟩
        · rw [after, same] at kept
          cases kept
        · rw [after] at begun
          cases begun
      · exact few
    · intro before after
      rcases fits with kept | ⟨_, many⟩
      · rw [after] at kept
        rcases absorbs with same | ⟨ended, _⟩
        · rw [before, ← kept] at same
          cases same
        · rw [ended] at kept
          cases kept
      · exact many

private theorem driftMoves_refresh (adjuster : TimeAdjuster) (polls : List PollInput) :
    DriftMoves adjuster.calibration (adjuster.refresh polls).2.calibration := by
  rcases adjuster.refresh_calibration polls with same | ⟨sample, added⟩
  · rw [same]
    refine ⟨Nat.le_succ _, ?_, ?_⟩ <;> intro before after <;> simp_all
  · rw [added]
    exact driftMoves_addSample _ sample

end Drift

private theorem reportDrift_eq (calibration : CalibrationStatus) (reported : Bool) :
    reportDrift calibration reported =
      (calibration.driftCalibrated && !reported, calibration.driftCalibrated) := by
  unfold reportDrift
  cases calibration.driftCalibrated <;> cases reported <;> rfl

namespace LoopAction

def reports : LoopAction → Bool
  | tick _ _ reported _ => reported
  | fill _ _ => false

end LoopAction

/-- The samples gathered towards the next report. -/
def ExportLoop.gathered (loop : ExportLoop) : Nat :=
  if loop.driftCalibrationReported then 0 else loop.adjuster.calibration.samples.length

section Reports

variable {std : StdSort} {config : TimeAdjuster.Config} {flows : SmartNicReader}
  {counters : CounterReader}

def FlagFollows (loop : ExportLoop) : Prop :=
  loop.driftCalibrationReported = loop.adjuster.calibration.status.driftCalibrated

private theorem flagFollows_initial {loop : ExportLoop}
    (initial : (loopSystem std config flows counters).initial loop) : FlagFollows loop := by
  obtain ⟨_, ⟨polls, constructed⟩, fresh⟩ := initial
  obtain ⟨samples, started, same⟩ := TimeAdjuster.construct_calibration constructed
  unfold FlagFollows
  rw [fresh, same]
  unfold ClockCalibration.initializeFrom
  dsimp only
  split <;> rfl

/-- A report takes ten samples, and a tick gathers one. -/
private theorem gathered_step (before : ExportLoop) (action : LoopAction) (after : ExportLoop)
    (step : (loopSystem std config flows counters).step before action after)
    (follows : FlagFollows before) :
    FlagFollows after ∧
      10 * (if action.reports then 1 else 0) + after.gathered ≤
        before.gathered + (if action.isTick then 1 else 0) := by
  cases action with
  | tick polls counted reported batch =>
      obtain ⟨_, _, refreshed, flag, _⟩ := step
      have moves := driftMoves_refresh before.adjuster polls
      rw [← refreshed] at moves
      rw [reportDrift_eq, Prod.mk.injEq] at flag
      obtain ⟨rfl, flagged⟩ := flag
      have status : after.adjuster.status.driftCalibrated =
          after.adjuster.calibration.status.driftCalibrated := rfl
      refine ⟨flagged, ?_⟩
      unfold FlagFollows at follows
      simp only [LoopAction.reports, LoopAction.isTick, ExportLoop.gathered, flagged, status,
        follows, if_true]
      cases earlier : before.adjuster.calibration.status.driftCalibrated <;>
        cases later : after.adjuster.calibration.status.driftCalibrated
      · have grows := moves.grows
        simpa using grows
      · have many := moves.begun earlier later
        have grows := moves.grows
        simp
        omega
      · have few := moves.lost earlier later
        simpa using few
      · simp
  | fill flowRecords counterRecords =>
      obtain ⟨_, same, flag⟩ := step
      unfold FlagFollows ExportLoop.gathered
      rw [same, flag]
      exact ⟨follows, (Nat.zero_add _).le⟩

def countReports : TimeAdjuster → Bool → List (List PollInput) → Nat
  | _, _, [] => 0
  | adjuster, reported, polls :: rest =>
      let after := (adjuster.refresh polls).2
      let report := reportDrift after.status reported
      countReports after report.2 rest + if report.1 then 1 else 0

def ReadyWellTimed (flows : SmartNicReader) (card : SteadyCard) : Prop :=
  ∀ record ∈ readyRecords flowStore flows.slotCount card.memory, WellTimed (flowOf record)

private theorem ticks_on_polls (opened : flows.cpp = true ∧ counters.cpp = true)
    (slots : 0 < flows.slotCount ∧ 0 < counters.slotCount) (refreshes : List (List PollInput))
    {loop : ExportLoop} (invariant : LoopInvariant std config loop)
    (timed : ReadyWellTimed flows loop.card) :
    ∃ actions last, (loopSystem std config flows counters).Run loop actions last ∧
      actions.countP LoopAction.isTick = refreshes.length ∧
      actions.countP LoopAction.reports =
        countReports loop.adjuster loop.driftCalibrationReported refreshes := by
  induction refreshes generalizing loop with
  | nil => exact ⟨[], loop, .stay _, rfl, rfl⟩
  | cons polls rest ih =>
      have active := readyRecords_perm flowStore flows.slotCount loop.card.memory
        loop.card.memory.activeBank
      obtain ⟨counted, reported, batch, after, step⟩ := @tick_of_wellTimed _ _ _ counters opened
        slots loop invariant (fun record member =>
          timed record (active.symm.subset (List.mem_append_left _ member))) polls
      have next := loopInvariant_step opened slots _ _ _ step invariant
      obtain ⟨entries, returns, refreshed, flag, aggregated⟩ := step
      have taken := tickTaken_of_step opened slots invariant.settling returns
      have timedAfter : ReadyWellTimed flows after.card := fun record member =>
        timed record (taken.flows.conserves.subset (List.mem_append_right _ member))
      obtain ⟨actions, last, run, ticks, reports⟩ := ih next timedAfter
      refine ⟨.tick polls counted reported batch :: actions, last,
        .move ⟨entries, returns, refreshed, flag, aggregated⟩ run, ?_, ?_⟩
      · rw [List.countP_cons, ticks]
        rfl
      · rw [refreshed, Prod.mk.injEq] at flag
        obtain ⟨rfl, flagged⟩ := flag
        rw [List.countP_cons, reports, refreshed, flagged]
        rfl

/-- In any stretch of any run, the reports of the drift calibration are at least ten ticks apart:
each takes ten samples gathered since the one before, and a tick gathers one. -/
theorem drift_reports_spaced {first last : ExportLoop} {actions : List LoopAction}
    (reachable : (loopSystem std config flows counters).Reachable first)
    (run : (loopSystem std config flows counters).Run first actions last) :
    10 * actions.countP LoopAction.reports ≤
      actions.countP LoopAction.isTick + first.gathered := by
  have follows := reachable.invariant FlagFollows (fun _ initial => flagFollows_initial initial)
    (fun before action after step follows => (gathered_step before action after step follows).1)
  obtain ⟨_, paid⟩ := run.amortized gathered_step follows
  omega

end Reports

def turnPolls (second : Nat) : List PollInput :=
  [0, 1].map fun turned : Nat =>
    { bounds :=
        { realtimeBeforeNs := 1000000000 * second + 1000 * turned
          realtimeAfterNs := 1000000000 * second + 1000 * turned + 100
          monotonicBeforeNs := 1000000000 * second + 1000 * turned
          monotonicAfterNs := 1000000000 * second + 1000 * turned + 100 }
      raw := .ok ⟨UInt32.ofNat (second + turned), 0, 0, 16, 0⟩ }

/-- Five samples at the start and one a tick: the fifth tick has ten, and reports. -/
theorem drift_reports_spaced_fifthTick : ∃ (first : ExportLoop) (actions : List LoopAction),
    actions.countP LoopAction.reports = 1 ∧ actions.countP LoopAction.isTick = 5 ∧
      first.gathered = 5 ∧
      10 * actions.countP LoopAction.reports ≤
        actions.countP LoopAction.isTick + first.gathered := by
  have checked : (TimeAdjuster.construct StdSort.insertion {}
      ([1, 2, 3, 4, 5].flatMap turnPolls)).toOption.map (fun adjuster =>
        decide (countReports adjuster false ([6, 7, 8, 9, 10].map turnPolls) = 1 ∧
          adjuster.calibration.samples.length = 5)) = some true := by
    decide +kernel
  obtain ⟨adjuster, constructed, passes⟩ := TimeAdjuster.construct_checked checked
  obtain ⟨once, five⟩ := of_decide_eq_true passes
  have initial : (loopSystem StdSort.insertion {} ⟨true, 2⟩ ⟨true, 1⟩).initial
      ⟨busyOnce, adjuster, false⟩ := ⟨busyOnce_keepsSettling, ⟨_, constructed⟩, rfl⟩
  have timed : ReadyWellTimed ⟨true, 2⟩ busyOnce := by
    unfold ReadyWellTimed
    decide
  obtain ⟨actions, last, run, ticks, reports⟩ := @ticks_on_polls _ _ ⟨true, 2⟩ ⟨true, 1⟩
    ⟨rfl, rfl⟩ (by decide) ([6, 7, 8, 9, 10].map turnPolls) _ (loopInvariant_initial initial) timed
  exact ⟨⟨busyOnce, adjuster, false⟩, actions, reports.trans once, ticks, five,
    drift_reports_spaced (.start initial) run⟩

end SflowMiddle.Exporter

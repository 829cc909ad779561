/-
What a tick's batch says about the entries that went into it. The conversion of
an entry throws exactly when one of its nanosecond fields is out of range, and
nothing between it and the thread boundary handles that; the times of a record
are in order as soon as those of one of its entries are.
-/

import SflowMiddle.Calibration.Conversion
import SflowMiddle.Exporter.Aggregation

namespace SflowMiddle.Exporter

open SflowMiddle.Foundation
open SflowMiddle.Calibration
open SflowMiddle.Card
open SflowMiddle.Clock

/-- The entry is an agent of the record its tuple has in the pushed batch. -/
def Exported (batch : Option ExportData) (entry : FlowData) : Prop :=
  ∃ exported record, batch = some exported ∧
    exported.flowMap.find? (tupleOf entry) = some record ∧ agentOf entry ∈ record.agent

/-- The aggregation of the tick ends normally, with every good entry in the batch. -/
def TickExports (adjuster : TimeAdjuster) (flowEntries : List FlowData)
    (counterEntries : List CounterData) : Prop :=
  ∃ batch, aggregate adjuster flowEntries counterEntries = .ok batch ∧
    ∀ entry ∈ flowEntries, WellTimed entry → Exported batch entry

theorem aggregate_eq_ok {adjuster : TimeAdjuster} {flowEntries : List FlowData}
    {counterEntries : List CounterData} {batch : Option ExportData}
    (ended : aggregate adjuster flowEntries counterEntries = .ok batch) :
    ∃ flowMap, aggregateFlows adjuster flowEntries = .ok flowMap ∧
      batch =
        if ¬ flowMap.isEmpty ∨ ¬ (aggregateCounters counterEntries).isEmpty then
          some { flowMap := flowMap, counterMap := aggregateCounters counterEntries }
        else none := by
  unfold aggregate at ended
  cases flows : aggregateFlows adjuster flowEntries with
  | error exception =>
      rw [flows] at ended
      cases ended
  | ok flowMap =>
      rw [flows] at ended
      refine ⟨flowMap, rfl, ?_⟩
      change (if ¬ flowMap.isEmpty ∨ ¬ (aggregateCounters counterEntries).isEmpty then
        Except.ok (some { flowMap := flowMap, counterMap := aggregateCounters counterEntries })
        else Except.ok none : Except StdException (Option ExportData)) = .ok batch at ended
      split at ended
      · rename_i pushed
        rw [if_pos pushed]
        exact (Except.ok.inj ended).symm
      · rename_i nothing
        rw [if_neg nothing]
        exact (Except.ok.inj ended).symm

private theorem find?_aggregateFlows {adjuster : TimeAdjuster} {entries : List FlowData}
    {flowMap : FlowMap} (ended : aggregateFlows adjuster entries = .ok flowMap)
    {entry : FlowData} (member : entry ∈ entries) :
    flowMap.find? (tupleOf entry) =
      some ((entries.filter (fun other => tupleOf other = tupleOf entry)).foldl
        (extendWith adjuster.calibration.convert) {}) := by
  obtain ⟨_, folded⟩ := foldlM_eq_ok ended
  have present : entry ∈ entries.filter (fun other => tupleOf other = tupleOf entry) :=
    List.mem_filter.mpr ⟨member, by simp⟩
  have nonempty :
      (entries.filter (fun other => tupleOf other = tupleOf entry)).isEmpty = false := by
    rw [List.isEmpty_eq_false_iff]
    exact List.ne_nil_of_mem present
  rw [folded, find?_foldl_addConverted, nonempty]
  rfl

private theorem exported_of_wellTimed {adjuster : TimeAdjuster} {flowEntries : List FlowData}
    {counterEntries : List CounterData} {batch : Option ExportData}
    (ended : aggregate adjuster flowEntries counterEntries = .ok batch)
    {entry : FlowData} (member : entry ∈ flowEntries) : Exported batch entry := by
  obtain ⟨flowMap, flows, pushed⟩ := aggregate_eq_ok ended
  have found := find?_aggregateFlows flows member
  rw [if_pos (Or.inl (by simp [OrderedMap.isEmpty_false_of_find? found]))] at pushed
  refine ⟨_, _, pushed, found, ?_⟩
  rw [agent_foldl_extendWith]
  exact List.mem_append_right _
    (List.mem_map_of_mem (List.mem_filter.mpr ⟨member, by simp⟩))

/-! ### Malformed entries -/

/-- The tick ends normally exactly when no entry is malformed. -/
theorem tick_exports_iff_wellTimed (std : StdSort) (config : TimeAdjuster.Config)
    (adjuster : TimeAdjuster)
    (reachable : (TimeAdjuster.adjusterSystem std config).Reachable adjuster)
    (flowEntries : List FlowData) (counterEntries : List CounterData) :
    TickExports adjuster flowEntries counterEntries ↔
      ∀ entry ∈ flowEntries, WellTimed entry := by
  constructor
  · rintro ⟨batch, ended, _⟩
    obtain ⟨flowMap, flows, _⟩ := aggregate_eq_ok ended
    exact (foldlM_eq_ok flows).1
  · intro wellTimed
    have flows := foldlM_of_wellTimed (TimeAdjuster.valid_of_reachable reachable) wellTimed
      OrderedMap.empty
    have ended : ∃ batch, aggregate adjuster flowEntries counterEntries = .ok batch := by
      unfold aggregate aggregateFlows
      rw [flows]
      dsimp only [bind, Except.bind]
      split <;> exact ⟨_, rfl⟩
    obtain ⟨batch, normally⟩ := ended
    exact ⟨batch, normally, fun entry member _ => exported_of_wellTimed normally member⟩

def goodEntry : FlowData := { index := 7 }

def malformedEntry : FlowData := { data := { endTime := { sec := 1, nsec := 1000000000 } } }

theorem tick_exports_iff_wellTimed_goodEntry :
    ∃ adjuster, (TimeAdjuster.adjusterSystem StdSort.insertion {}).Reachable adjuster ∧
      TickExports adjuster [goodEntry] [] := by
  obtain ⟨adjuster, reachable⟩ := startup_reachable
  refine ⟨adjuster, reachable,
    (tick_exports_iff_wellTimed _ _ adjuster reachable [goodEntry] []).mpr ?_⟩
  decide

/-- One malformed entry takes the good one, and the tick, with it. -/
theorem malformed_entry_ends_thread :
    ∃ std config adjuster, (TimeAdjuster.adjusterSystem std config).Reachable adjuster ∧
      WellTimed goodEntry ∧ ¬ TickExports adjuster [malformedEntry, goodEntry] [] := by
  obtain ⟨adjuster, reachable⟩ := startup_reachable
  refine ⟨_, _, adjuster, reachable, by decide, ?_⟩
  rintro ⟨batch, ended, _⟩
  obtain ⟨flowMap, flows, _⟩ := aggregate_eq_ok ended
  have wellTimed := (foldlM_eq_ok flows).1 malformedEntry List.mem_cons_self
  exact absurd wellTimed (by decide)

/-! ### Order and duration of exported times -/

private theorem record_ordered {adjuster : TimeAdjuster}
    (preserves : PreservesDurations adjuster.calibration) {flowEntries : List FlowData}
    {counterEntries : List CounterData} {batch : ExportData}
    (ended : aggregate adjuster flowEntries counterEntries = .ok (some batch))
    {entry : FlowData} (member : entry ∈ flowEntries)
    (inOrder : deviceStart entry ≤ deviceEnd entry) {record : FlowRecord}
    (found : batch.flowMap.find? (tupleOf entry) = some record) :
    record.startTimeNs ≤ record.endTimeNs ∧ record.startTime ≤ record.endTime := by
  obtain ⟨flowMap, flows, pushed⟩ := aggregate_eq_ok ended
  have looked := find?_aggregateFlows flows member
  rw [if_pos (Or.inl (by simp [OrderedMap.isEmpty_false_of_find? looked]))] at pushed
  rw [Option.some.inj pushed] at found
  have folded := Option.some.inj (found.symm.trans looked)
  have present : entry ∈ flowEntries.filter (fun other => tupleOf other = tupleOf entry) :=
    List.mem_filter.mpr ⟨member, by simp⟩
  obtain ⟨starts, ends⟩ :=
    (times_foldl_extendWith adjuster.calibration.convert _ {}).2 entry present
  obtain ⟨startMs, endMs⟩ := milliseconds_foldl_extendWith adjuster.calibration.convert
    (List.ne_nil_of_mem present) {}
  have ordered : record.startTimeNs ≤ record.endTimeNs := by
    rw [folded]
    exact starts.trans ((preserves.ordered _ _ inOrder).trans ends)
  refine ⟨ordered, ?_⟩
  rw [folded] at ordered ⊢
  rw [startMs, endMs]
  exact Int.tdiv_le_tdiv (by norm_num) ordered

/-- Every valid calibration below a million ppm converts in order and keeps durations up
to the drift and one nanosecond; so do the records of every batch it is used for. -/
theorem conversion_preserves_order_and_duration (std : StdSort) (config : Calibration.Config)
    (drift : 0 ≤ config.maximumDriftPpm) (limit : config.maximumDriftPpm < 10 ^ 6)
    (tracked : Tracked) (reachable : (calibrationSystem std config).Reachable tracked)
    (valid : tracked.calibration.status.valid = true) :
    (∀ first second, first ≤ second → ∃ firstUnix secondUnix,
        tracked.calibration.toUnixNanoseconds first = .ok firstUnix ∧
        tracked.calibration.toUnixNanoseconds second = .ok secondUnix ∧
        firstUnix ≤ secondUnix ∧
        |((secondUnix - firstUnix : Int) : ℚ) - ((second - first : Int) : ℚ)| ≤
          ((second - first : Int) : ℚ) * config.maximumDriftPpm / 10 ^ 6 + 1) ∧
      ∀ adjuster : TimeAdjuster, adjuster.calibration = tracked.calibration →
        ∀ flowEntries counterEntries batch,
          aggregate adjuster flowEntries counterEntries = .ok (some batch) →
          ∀ entry ∈ flowEntries, deviceStart entry ≤ deviceEnd entry →
          ∀ record, batch.flowMap.find? (tupleOf entry) = some record →
            record.startTimeNs ≤ record.endTimeNs ∧ record.startTime ≤ record.endTime := by
  have preserves := preservesDurations_of_reachable drift limit reachable
  constructor
  · intro first second ordered
    have converts : ∀ macNs, tracked.calibration.toUnixNanoseconds macNs =
        .ok (tracked.calibration.convert macNs) := by
      intro macNs
      exact if_neg (by simp [valid])
    have bounded := preserves.duration first second ordered
    rw [config_of_reachable reachable] at bounded
    exact ⟨_, _, converts first, converts second, preserves.ordered first second ordered, bounded⟩
  · intro adjuster same flowEntries counterEntries batch ended entry member inOrder record found
    exact record_ordered (by rw [same]; exact preserves) ended member inOrder found

def overlappingEntries : List FlowData :=
  [{ data := { startTime := ⟨3, 0⟩, endTime := ⟨5, 0⟩ }, index := 1 },
    { data := { startTime := ⟨4, 0⟩, endTime := ⟨7, 500000000⟩ }, index := 2 }]

/-- Under a fitted line half a thousandth ahead. -/
theorem conversion_preserves_order_and_duration_late :
    ∃ (adjuster : TimeAdjuster) (batch : ExportData) (record : FlowRecord),
      adjuster.calibration.status.scale ≠ 1 ∧
      (∃ firstUnix secondUnix,
        adjuster.calibration.toUnixNanoseconds 3000000000 = .ok firstUnix ∧
          adjuster.calibration.toUnixNanoseconds 7500000000 = .ok secondUnix ∧
          |((secondUnix - firstUnix : Int) : ℚ) - 4500000000| ≤ 4500001) ∧
      aggregate adjuster overlappingEntries [] = .ok (some batch) ∧
      batch.flowMap.find? (tupleOf {}) = some record ∧ record.agent.length = 2 ∧
      record.startTimeNs ≤ record.endTimeNs ∧ record.startTime ≤ record.endTime := by
  obtain ⟨converts, exports⟩ := conversion_preserves_order_and_duration StdSort.insertion {}
    (by norm_num) (by norm_num) (Tracked.ofCalls lateRun) (reachable_foldl lateRun (.start rfl))
    (by decide +kernel)
  let adjuster : TimeAdjuster :=
    { config := {}
      chain := { sampler := { maximumUncertaintyNs := 800000 } }
      calibration := (Tracked.ofCalls lateRun).calibration }
  have built := @foldlM_of_wellTimed adjuster overlappingEntries (by decide +kernel) (by decide)
    OrderedMap.empty
  have aggregated : aggregate adjuster overlappingEntries [] = .ok (some
      { flowMap := overlappingEntries.foldl (addConverted adjuster.calibration.convert)
          OrderedMap.empty
        counterMap := aggregateCounters [] }) := by
    unfold aggregate aggregateFlows
    rw [built]
    rfl
  obtain ⟨firstUnix, secondUnix, first, second, _, bounded⟩ :=
    converts 3000000000 7500000000 (by norm_num)
  norm_num at bounded
  refine ⟨adjuster, _, _, by decide +kernel, ⟨firstUnix, secondUnix, first, second, ?_⟩,
    aggregated, rfl, rfl, ?_⟩
  · push_cast
    exact bounded
  · exact exports adjuster rfl overlappingEntries [] _ aggregated
      { data := { startTime := ⟨3, 0⟩, endTime := ⟨5, 0⟩ }, index := 1 } List.mem_cons_self
      (by decide) _ rfl

end SflowMiddle.Exporter

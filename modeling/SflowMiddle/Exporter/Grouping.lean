/-
What one tick's maps say about the entries they were built from: every entry is an
agent of exactly one record, the record of its flow, and of counters the last entry
of an interface stays. The order of the flow entries only shows in the order of the
agents inside a record.
-/

import SflowMiddle.Exporter.Batches

namespace SflowMiddle.Exporter

open SflowMiddle.Foundation
open SflowMiddle.Card

/-- Same addresses, same ports and the same low half of the protocol. -/
def SameFlow (first second : FlowData) : Prop :=
  first.key.srcIp = second.key.srcIp ∧ first.key.dstIp = second.key.dstIp ∧
    first.key.srcPort = second.key.srcPort ∧ first.key.dstPort = second.key.dstPort ∧
      first.key.protocol.toNat % 2 ^ 16 = second.key.protocol.toNat % 2 ^ 16

private theorem tupleOf_eq_iff (first second : FlowData) :
    tupleOf first = tupleOf second ↔ SameFlow first second := by
  have narrowed : first.key.protocol.toUInt16 = second.key.protocol.toUInt16 ↔
      first.key.protocol.toNat % 2 ^ 16 = second.key.protocol.toNat % 2 ^ 16 := by
    rw [← UInt16.toNat_inj, UInt32.toNat_toUInt16, UInt32.toNat_toUInt16]
  unfold tupleOf SameFlow
  rw [Tuple.mk.injEq, narrowed]
  constructor
  · intro same
    obtain ⟨srcIp, dstIp, dstPort, srcPort, protocol⟩ := same
    exact ⟨srcIp, dstIp, srcPort, dstPort, protocol⟩
  · intro same
    obtain ⟨srcIp, dstIp, srcPort, dstPort, protocol⟩ := same
    exact ⟨srcIp, dstIp, dstPort, srcPort, protocol⟩

def group (entries : List FlowData) (key : Tuple) : List FlowData :=
  entries.filter fun entry => tupleOf entry = key

theorem group_ne_nil_iff {entries : List FlowData} {key : Tuple} :
    group entries key ≠ [] ↔ ∃ entry ∈ entries, tupleOf entry = key := by
  unfold group
  rw [Ne, List.filter_eq_nil_iff]
  simp

/-- The record of a group. The converted times are values of `int64_t`, so the largest and
the smallest of these, which a fresh record starts from, bound them. -/
structure RecordExact (convert : Int → Int) (entries : List FlowData) (record : FlowRecord) :
    Prop where
  agents : record.agent = entries.map agentOf
  starts : (∀ entry ∈ entries, convert (deviceStart entry) ≤ int64Max) →
    IsLeast {time | ∃ entry ∈ entries, convert (deviceStart entry) = time} record.startTimeNs
  ends : (∀ entry ∈ entries, int64Min ≤ convert (deviceEnd entry)) →
    IsGreatest {time | ∃ entry ∈ entries, convert (deviceEnd entry) = time} record.endTimeNs
  startTime : record.startTime = record.startTimeNs.tdiv 1000000
  endTime : record.endTime = record.endTimeNs.tdiv 1000000

def agentCount (record : FlowRecord) : Nat := record.agent.length

/-- Nothing is lost, duplicated or mixed. -/
structure FlowsExact (convert : Int → Int) (entries : List FlowData) (flowMap : FlowMap) :
    Prop where
  keys : ∀ key, key ∈ flowMap.keys ↔ ∃ entry ∈ entries, tupleOf entry = key
  records : ∀ key record, flowMap.find? key = some record →
    RecordExact convert (group entries key) record
  agents : flowMap.total agentCount = entries.length

def interfaceOf (entry : CounterData) : CounterAgent :=
  ⟨entry.data.key.agentIp, entry.data.key.ifIdx⟩

def countersOf (entry : CounterData) : CounterRecord :=
  ⟨entry.data.inOctets, entry.data.outOctets, entry.data.ifSpeed⟩

/-- Each interface has the values of its last entry. -/
structure CountersExact (entries : List CounterData) (counterMap : CounterMap) : Prop where
  keys : ∀ key, key ∈ counterMap.keys ↔ ∃ entry ∈ entries, interfaceOf entry = key
  values : ∀ key record, counterMap.find? key = some record → ∃ before entry after,
    entries = before ++ entry :: after ∧ interfaceOf entry = key ∧
      (∀ later ∈ after, interfaceOf later ≠ key) ∧ record = countersOf entry

/-- Two maps that differ in the order of the agents inside their records only. -/
structure SameUpToAgentOrder (flowMap other : FlowMap) : Prop where
  keys : flowMap.keys = other.keys
  records : ∀ key record reordered, flowMap.find? key = some record →
    other.find? key = some reordered →
      record.agent.Perm reordered.agent ∧ { record with agent := reordered.agent } = reordered

/-! ### The times of a group -/

section Times

variable (convert : Int → Int) (entries : List FlowData) (record : FlowRecord)

theorem startTimeNs_foldl_extendWith :
    (entries.foldl (extendWith convert) record).startTimeNs =
      (entries.map fun entry => convert (deviceStart entry)).foldl min record.startTimeNs := by
  induction entries generalizing record with
  | nil => rfl
  | cons entry rest ih => exact ih (extendWith convert record entry)

theorem endTimeNs_foldl_extendWith :
    (entries.foldl (extendWith convert) record).endTimeNs =
      (entries.map fun entry => convert (deviceEnd entry)).foldl max record.endTimeNs := by
  induction entries generalizing record with
  | nil => rfl
  | cons entry rest ih => exact ih (extendWith convert record entry)

end Times

private theorem isLeast_foldl_min {times : List Int} (nonempty : times ≠ []) {sentinel : Int}
    (bounded : ∀ time ∈ times, time ≤ sentinel) :
    IsLeast {time | time ∈ times} (times.foldl min sentinel) := by
  have least := List.min_mem nonempty
  rw [List.foldl_min_eq_min nonempty, min_eq_right (bounded _ least)]
  exact ⟨least, fun time member => List.min_le_of_mem member⟩

private theorem isGreatest_foldl_max {times : List Int} (nonempty : times ≠ []) {sentinel : Int}
    (bounded : ∀ time ∈ times, sentinel ≤ time) :
    IsGreatest {time | time ∈ times} (times.foldl max sentinel) := by
  have greatest := List.max_mem nonempty
  rw [List.foldl_max_eq_max nonempty, max_eq_right (bounded _ greatest)]
  exact ⟨greatest, fun time member => List.le_max_of_mem member⟩

private theorem recordExact_foldl_extendWith (convert : Int → Int) {entries : List FlowData}
    (nonempty : entries ≠ []) :
    RecordExact convert entries (entries.foldl (extendWith convert) {}) := by
  obtain ⟨startTime, endTime⟩ := milliseconds_foldl_extendWith convert nonempty {}
  constructor
  · exact agent_foldl_extendWith convert entries {}
  · intro bounded
    rw [startTimeNs_foldl_extendWith]
    have least := @isLeast_foldl_min (entries.map fun entry => convert (deviceStart entry))
      (by simpa using nonempty) int64Max (by simpa using bounded)
    simpa only [List.mem_map] using least
  · intro bounded
    rw [endTimeNs_foldl_extendWith]
    have greatest := @isGreatest_foldl_max (entries.map fun entry => convert (deviceEnd entry))
      (by simpa using nonempty) int64Min (by simpa using bounded)
    simpa only [List.mem_map] using greatest
  · exact startTime
  · exact endTime

/-! ### The maps of a tick -/

private theorem total_foldl_addConverted (convert : Int → Int) (entries : List FlowData)
    (flowMap : FlowMap) :
    (entries.foldl (addConverted convert) flowMap).total agentCount =
      flowMap.total agentCount + entries.length := by
  induction entries generalizing flowMap with
  | nil => rfl
  | cons entry rest ih =>
      have added : (addConverted convert flowMap entry).total agentCount =
          flowMap.total agentCount + 1 := by
        have grows : ∀ record, agentCount (extendWith convert record entry) =
            agentCount record + 1 := by
          intro record
          simp [agentCount, extendWith, FlowRecord.extend]
        exact OrderedMap.total_modify grows (show agentCount {} = 0 from rfl) flowMap _
      rw [List.foldl_cons, ih, added, List.length_cons]
      omega

theorem find?_built (convert : Int → Int) (entries : List FlowData) (key : Tuple) :
    (entries.foldl (addConverted convert) OrderedMap.empty).find? key =
      if group entries key = [] then none
      else some ((group entries key).foldl (extendWith convert) {}) := by
  rw [find?_foldl_addConverted]
  simp only [List.isEmpty_iff]
  rfl

theorem flowsExact_built (convert : Int → Int) (entries : List FlowData) :
    FlowsExact convert entries (entries.foldl (addConverted convert) OrderedMap.empty) := by
  constructor
  · intro key
    rw [OrderedMap.mem_keys_iff, find?_built, ← group_ne_nil_iff]
    split
    · rename_i none
      simp [none]
    · rename_i some
      simp [some]
  · intro key record found
    rw [find?_built] at found
    split at found
    · cases found
    · rename_i nonempty
      rw [← Option.some.inj found]
      exact recordExact_foldl_extendWith convert nonempty
  · have counted := total_foldl_addConverted convert entries OrderedMap.empty
    rw [show (OrderedMap.empty : FlowMap).total agentCount = 0 from rfl, Nat.zero_add] at counted
    exact counted

private theorem foldl_extendWith_perm (convert : Int → Int) {entries permuted : List FlowData}
    (same : entries.Perm permuted) (nonempty : entries ≠ []) :
    (entries.foldl (extendWith convert) {}).agent.Perm
        (permuted.foldl (extendWith convert) {}).agent ∧
      { entries.foldl (extendWith convert) {} with
        agent := (permuted.foldl (extendWith convert) {}).agent } =
        permuted.foldl (extendWith convert) {} := by
  have others : permuted ≠ [] := fun empty => nonempty (by rw [empty] at same; exact same.eq_nil)
  have starts : (entries.foldl (extendWith convert) {}).startTimeNs =
      (permuted.foldl (extendWith convert) {}).startTimeNs := by
    rw [startTimeNs_foldl_extendWith, startTimeNs_foldl_extendWith]
    exact (same.map _).foldl_eq _
  have ends : (entries.foldl (extendWith convert) {}).endTimeNs =
      (permuted.foldl (extendWith convert) {}).endTimeNs := by
    rw [endTimeNs_foldl_extendWith, endTimeNs_foldl_extendWith]
    exact (same.map _).foldl_eq _
  obtain ⟨startMs, endMs⟩ := milliseconds_foldl_extendWith convert nonempty {}
  obtain ⟨startMs', endMs'⟩ := milliseconds_foldl_extendWith convert others {}
  constructor
  · rw [agent_foldl_extendWith, agent_foldl_extendWith]
    exact (same.map agentOf).append_left _
  · rw [FlowRecord.mk.injEq]
    exact ⟨rfl, by rw [startMs, startMs', starts], by rw [endMs, endMs', ends], starts, ends⟩

private theorem sameUpToAgentOrder_built (convert : Int → Int) {entries permuted : List FlowData}
    (same : entries.Perm permuted) :
    SameUpToAgentOrder (entries.foldl (addConverted convert) OrderedMap.empty)
      (permuted.foldl (addConverted convert) OrderedMap.empty) := by
  constructor
  · apply OrderedMap.keys_eq_of_mem_iff
    intro key
    rw [(flowsExact_built convert entries).keys, (flowsExact_built convert permuted).keys]
    exact exists_congr fun entry => and_congr_left' same.mem_iff
  · intro key record reordered found foundOther
    rw [find?_built] at found foundOther
    split at found
    · cases found
    · rename_i nonempty
      split at foundOther
      · cases foundOther
      · rw [← Option.some.inj found, ← Option.some.inj foundOther]
        exact foldl_extendWith_perm convert (same.filter _) nonempty

theorem countersExact_aggregateCounters (entries : List CounterData) :
    CountersExact entries (aggregateCounters entries) := by
  induction entries using List.reverseRecOn with
  | nil =>
      constructor
      · intro key
        rw [OrderedMap.mem_keys_iff]
        simp [aggregateCounters, OrderedMap.find?, OrderedMap.empty, lookupEntry]
      · intro key record found
        cases found
  | append_singleton entries last ih =>
      have built : aggregateCounters (entries ++ [last]) =
          (aggregateCounters entries).modify (interfaceOf last) (countersOf last)
            (fun _ => countersOf last) :=
        List.foldl_concat addCounterEntry OrderedMap.empty last entries
      rw [built]
      constructor
      · intro key
        rw [OrderedMap.mem_keys_modify, ih.keys]
        simp only [List.mem_append, List.mem_singleton, or_and_right, exists_or,
          exists_eq_left]
        rw [or_comm, eq_comm]
      · intro key record found
        by_cases same : key = interfaceOf last
        · rw [same, OrderedMap.find?_modify_same] at found
          exact ⟨entries, last, [], rfl, same.symm, by simp, (Option.some.inj found).symm⟩
        · rw [OrderedMap.find?_modify_of_ne _ _ _ same] at found
          obtain ⟨before, entry, after, split, ofKey, later, values⟩ := ih.values key record found
          refine ⟨before, entry, after ++ [last], by simp [split], ofKey, ?_, values⟩
          intro other member
          rcases List.mem_append.mp member with old | new
          · exact later other old
          · rw [List.mem_singleton.mp new]
            exact Ne.symm same

/-- A tick pushes its maps unless both readers returned nothing. -/
theorem aggregate_built {adjuster : TimeAdjuster} {flowEntries : List FlowData}
    {counterEntries : List CounterData} {flowMap : FlowMap} {convert : Int → Int}
    (built : aggregateFlows adjuster flowEntries = .ok flowMap)
    (flowsExact : FlowsExact convert flowEntries flowMap)
    (countersExact : CountersExact counterEntries (aggregateCounters counterEntries)) :
    aggregate adjuster flowEntries counterEntries =
      .ok (if flowEntries = [] ∧ counterEntries = [] then none
        else some ⟨flowMap, aggregateCounters counterEntries⟩) := by
  have pushed : ¬ flowMap.isEmpty = true ∨ ¬ (aggregateCounters counterEntries).isEmpty = true ↔
      ¬ (flowEntries = [] ∧ counterEntries = []) := by
    rw [OrderedMap.isEmpty_iff_of_keys flowsExact.keys,
      OrderedMap.isEmpty_iff_of_keys countersExact.keys, not_and_or]
  unfold aggregate
  rw [built]
  dsimp only [bind, Except.bind, pure, Except.pure]
  by_cases empty : flowEntries = [] ∧ counterEntries = []
  · rw [if_pos empty, if_neg (fun some => pushed.mp some empty)]
  · rw [if_neg empty, if_pos (pushed.mpr empty)]

/-- The maps of a tick hold every entry once, under its flow or its interface, whatever the
order of the flow entries. -/
theorem aggregation_exact (std : StdSort) (config : TimeAdjuster.Config)
    (adjuster : TimeAdjuster)
    (reachable : (TimeAdjuster.adjusterSystem std config).Reachable adjuster)
    (flowEntries : List FlowData) (counterEntries : List CounterData)
    (wellTimed : ∀ entry ∈ flowEntries, WellTimed entry) :
    ∃ flowMap, aggregateFlows adjuster flowEntries = .ok flowMap ∧
      aggregate adjuster flowEntries counterEntries =
        .ok (if flowEntries = [] ∧ counterEntries = [] then none
          else some ⟨flowMap, aggregateCounters counterEntries⟩) ∧
      (∀ first second, tupleOf first = tupleOf second ↔ SameFlow first second) ∧
      FlowsExact adjuster.calibration.convert flowEntries flowMap ∧
      CountersExact counterEntries (aggregateCounters counterEntries) ∧
      ∀ permuted, flowEntries.Perm permuted → ∃ other,
        aggregateFlows adjuster permuted = .ok other ∧ SameUpToAgentOrder flowMap other := by
  have valid := TimeAdjuster.valid_of_reachable reachable
  have built := foldlM_of_wellTimed valid wellTimed OrderedMap.empty
  have flowsExact := flowsExact_built adjuster.calibration.convert flowEntries
  have countersExact := countersExact_aggregateCounters counterEntries
  refine ⟨_, built, ?_, tupleOf_eq_iff, flowsExact, countersExact, ?_⟩
  · exact aggregate_built built flowsExact countersExact
  · intro permuted same
    have others : ∀ entry ∈ permuted, WellTimed entry :=
      fun entry member => wellTimed entry (same.mem_iff.mpr member)
    exact ⟨_, foldlM_of_wellTimed valid others OrderedMap.empty,
      sameUpToAgentOrder_built _ same⟩

def otherPort : FlowData := { key := { srcPort := 53 }, index := 8 }

theorem aggregation_exact_two_flows :
    ∃ adjuster flowMap, aggregateFlows adjuster [goodEntry, otherPort, goodEntry] = .ok flowMap ∧
      flowMap.total agentCount = 3 ∧ tupleOf goodEntry ∈ flowMap.keys := by
  obtain ⟨adjuster, reachable⟩ := startup_reachable
  obtain ⟨flowMap, built, _, _, exactly, _⟩ := aggregation_exact _ _ adjuster reachable
    [goodEntry, otherPort, goodEntry] [] (by decide)
  exact ⟨adjuster, flowMap, built, exactly.agents,
    (exactly.keys _).mpr ⟨goodEntry, by simp, rfl⟩⟩

end SflowMiddle.Exporter

/-
The datagrams of transmitThread in src/main.cpp: one for each record of a batch, however
many agents the record has. A record has one agent for each slot of its flow, so the
size of a datagram grows with the slots that share a flow. The combined record that only
the debug file gets is left out.
-/

import SflowMiddle.Card.ExactDrain
import SflowMiddle.Exporter.Grouping
import SflowMiddle.Foundation.CompactJson

namespace SflowMiddle.Exporter

open SflowMiddle.Foundation
open SflowMiddle.Card

def Agent.json (agent : Agent) : Json :=
  .ofMembers
    [("aip", .number agent.aip.toNat),
      ("in_if", .number agent.inIf.toNat),
      ("out_if", .number agent.outIf.toNat),
      ("byte_cnt", .number agent.byteCnt.toNat),
      ("packet_cnt", .number agent.packetCnt.toNat),
      ("sampling_rate", .number agent.samplingRate.toNat),
      ("tcp_flag", .number agent.tcpFlag.toNat),
      ("index", .number agent.index.toNat)]

def flowItem (key : Tuple) (record : FlowRecord) : Json :=
  .ofMembers
    [("src_ip", .number key.srcIp.toNat),
      ("dst_ip", .number key.dstIp.toNat),
      ("src_port", .number key.srcPort.toNat),
      ("dst_port", .number key.dstPort.toNat),
      ("protocol", .number key.protocol.toNat),
      ("start_time", .number record.startTime),
      ("end_time", .number record.endTime),
      ("agent", .array (record.agent.map Agent.json))]

def counterItem (key : CounterAgent) (record : CounterRecord) : Json :=
  .ofMembers
    [("agent_ip", .number key.agentIp.toNat),
      ("if_idx", .number key.ifIdx.toNat),
      ("if_speed", .number record.ifSpeed.toNat),
      ("in_octets", .number record.inOctets.toNat),
      ("out_octets", .number record.outOctets.toNat)]

def payloadOf (name : String) (item : Json) : String :=
  (Json.ofMembers [(name, .array [item])]).dump

def flowPayload (entry : Tuple × FlowRecord) : String :=
  payloadOf "flowMap" (flowItem entry.1 entry.2)

def counterPayload (entry : CounterAgent × CounterRecord) : String :=
  payloadOf "counterMap" (counterItem entry.1 entry.2)

/-- What `transmitThread` hands to `queueSend`, in order. -/
def payloads (data : ExportData) : List String :=
  data.flowMap.entries.map flowPayload ++ data.counterMap.entries.map counterPayload

/-- What an IPv4 datagram carries at most: 65535 bytes less the two headers. -/
def maximumDatagram : Nat := 65507

def FitsDatagrams (data : ExportData) : Prop :=
  ∀ payload ∈ payloads data, payload.utf8ByteSize ≤ maximumDatagram

/-! ### Sizes -/

def Agent.width (agent : Agent) : Nat :=
  Json.width agent.aip.toNat + Json.width agent.inIf.toNat + Json.width agent.outIf.toNat +
    Json.width agent.byteCnt.toNat + Json.width agent.packetCnt.toNat +
      Json.width agent.samplingRate.toNat + Json.width agent.tcpFlag.toNat +
        Json.width agent.index.toNat

def Tuple.width (key : Tuple) : Nat :=
  Json.width key.srcIp.toNat + Json.width key.dstIp.toNat + Json.width key.srcPort.toNat +
    Json.width key.dstPort.toNat + Json.width key.protocol.toNat

private theorem Agent.size_json (agent : Agent) : agent.json.size = 91 + agent.width := by
  have distinct : ["aip", "in_if", "out_if", "byte_cnt", "packet_cnt", "sampling_rate",
      "tcp_flag", "index"].Nodup := by
    decide
  have names : "aip".utf8ByteSize = 3 ∧ "in_if".utf8ByteSize = 5 ∧ "out_if".utf8ByteSize = 6 ∧
      "byte_cnt".utf8ByteSize = 8 ∧ "packet_cnt".utf8ByteSize = 10 ∧
        "sampling_rate".utf8ByteSize = 13 ∧ "tcp_flag".utf8ByteSize = 8 ∧
          "index".utf8ByteSize = 5 := by
    decide
  unfold Agent.json Agent.width
  rw [Json.size_ofMembers]
  · simp only [List.map_cons, List.map_nil, List.sum_cons, List.sum_nil, Json.memberSize,
      Json.size_number]
    omega
  · exact List.cons_ne_nil _ _
  · exact distinct

private theorem size_payloadOf (name : String) (item : Json) :
    (payloadOf name item).utf8ByteSize = name.utf8ByteSize + item.size + 7 := by
  have size := @Json.size_ofMembers [(name, .array [item])] (List.cons_ne_nil _ _) (by simp)
  have array := @Json.size_array [item] (List.cons_ne_nil _ _)
  simp only [List.map_cons, List.map_nil, List.sum_cons, List.sum_nil, Json.memberSize]
    at size array
  change Json.size _ = _
  omega

private theorem size_flowItem (key : Tuple) {record : FlowRecord} (nonempty : record.agent ≠ []) :
    (flowItem key record).size = 93 + key.width + Json.width record.startTime +
      Json.width record.endTime + (record.agent.map fun agent => 92 + agent.width).sum := by
  have distinct : ["src_ip", "dst_ip", "src_port", "dst_port", "protocol", "start_time",
      "end_time", "agent"].Nodup := by
    decide
  have names : "src_ip".utf8ByteSize = 6 ∧ "dst_ip".utf8ByteSize = 6 ∧
      "src_port".utf8ByteSize = 8 ∧ "dst_port".utf8ByteSize = 8 ∧ "protocol".utf8ByteSize = 8 ∧
        "start_time".utf8ByteSize = 10 ∧ "end_time".utf8ByteSize = 8 ∧
          "agent".utf8ByteSize = 5 := by
    decide
  have each : record.agent.map ((fun item => item.size + 1) ∘ Agent.json) =
      record.agent.map fun agent => 92 + agent.width := by
    apply List.map_congr_left
    intro agent _
    rw [Function.comp_apply, Agent.size_json]
    omega
  have agents : (Json.array (record.agent.map Agent.json)).size =
      1 + (record.agent.map fun agent => 92 + agent.width).sum := by
    rw [Json.size_array (by simpa using nonempty), List.map_map, each]
  unfold flowItem Tuple.width
  rw [Json.size_ofMembers]
  · simp only [List.map_cons, List.map_nil, List.sum_cons, List.sum_nil, Json.memberSize,
      Json.size_number, agents]
    omega
  · exact List.cons_ne_nil _ _
  · exact distinct

private theorem size_flowPayload (key : Tuple) {record : FlowRecord}
    (nonempty : record.agent ≠ []) :
    (flowPayload (key, record)).utf8ByteSize = 107 + key.width + Json.width record.startTime +
      Json.width record.endTime + (record.agent.map fun agent => 92 + agent.width).sum := by
  have name : "flowMap".utf8ByteSize = 7 := rfl
  unfold flowPayload
  rw [size_payloadOf, size_flowItem key nonempty]
  omega

/-! ### The widths of fixed-width fields -/

private theorem width_uint16 (value : UInt16) : Json.width value.toNat ≤ 5 :=
  Json.width_natCast_le (by decide) (value.toNat_lt.trans (by decide))

private theorem width_uint32 (value : UInt32) : Json.width value.toNat ≤ 10 :=
  Json.width_natCast_le (by decide) (value.toNat_lt.trans (by decide))

private theorem width_uint64 (value : UInt64) : Json.width value.toNat ≤ 20 :=
  Json.width_natCast_le (by decide) (value.toNat_lt.trans (by decide))

private theorem Agent.width_range (agent : Agent) : 8 ≤ agent.width ∧ agent.width ≤ 95 := by
  have aip := width_uint32 agent.aip
  have inIf := width_uint32 agent.inIf
  have outIf := width_uint32 agent.outIf
  have byteCnt := width_uint64 agent.byteCnt
  have packetCnt := width_uint64 agent.packetCnt
  have samplingRate := width_uint32 agent.samplingRate
  have tcpFlag := width_uint16 agent.tcpFlag
  have index := width_uint32 agent.index
  have positive := Json.width_pos
  have aipPos := positive agent.aip.toNat
  have inIfPos := positive agent.inIf.toNat
  have outIfPos := positive agent.outIf.toNat
  have byteCntPos := positive agent.byteCnt.toNat
  have packetCntPos := positive agent.packetCnt.toNat
  have samplingRatePos := positive agent.samplingRate.toNat
  have tcpFlagPos := positive agent.tcpFlag.toNat
  have indexPos := positive agent.index.toNat
  unfold Agent.width
  omega

private theorem Tuple.width_range (key : Tuple) : 5 ≤ key.width ∧ key.width ≤ 35 := by
  have srcIp := width_uint32 key.srcIp
  have dstIp := width_uint32 key.dstIp
  have srcPort := width_uint16 key.srcPort
  have dstPort := width_uint16 key.dstPort
  have protocol := width_uint16 key.protocol
  have srcIpPos := Json.width_pos key.srcIp.toNat
  have dstIpPos := Json.width_pos key.dstIp.toNat
  have srcPortPos := Json.width_pos key.srcPort.toNat
  have dstPortPos := Json.width_pos key.dstPort.toNat
  have protocolPos := Json.width_pos key.protocol.toNat
  unfold Tuple.width
  omega

private theorem width_milliseconds {time : Int} (low : int64Min ≤ time) (high : time ≤ int64Max) :
    Json.width (time.tdiv 1000000) ≤ 14 := by
  have size : (time.tdiv 1000000).natAbs < 10 ^ 13 := by
    rw [Int.natAbs_tdiv]
    unfold int64Min at low
    unfold int64Max at high
    have bound : time.natAbs ≤ 9223372036854775808 := by omega
    have divided := @Nat.div_le_div_right _ _ 1000000 bound
    exact divided.trans_lt (by norm_num)
  exact Json.width_le (by decide) size

private theorem counterPayload_fits (key : CounterAgent) (record : CounterRecord) :
    (counterPayload (key, record)).utf8ByteSize ≤ maximumDatagram := by
  have distinct : ["agent_ip", "if_idx", "if_speed", "in_octets", "out_octets"].Nodup := by
    decide
  have names : "agent_ip".utf8ByteSize = 8 ∧ "if_idx".utf8ByteSize = 6 ∧
      "if_speed".utf8ByteSize = 8 ∧ "in_octets".utf8ByteSize = 9 ∧
        "out_octets".utf8ByteSize = 10 ∧ "counterMap".utf8ByteSize = 10 := by
    decide
  have agentIp := width_uint32 key.agentIp
  have ifIdx := width_uint32 key.ifIdx
  have ifSpeed := width_uint64 record.ifSpeed
  have inOctets := width_uint64 record.inOctets
  have outOctets := width_uint64 record.outOctets
  unfold counterPayload counterItem maximumDatagram
  rw [size_payloadOf, Json.size_ofMembers]
  · simp only [List.map_cons, List.map_nil, List.sum_cons, List.sum_nil, Json.memberSize,
      Json.size_number]
    omega
  · exact List.cons_ne_nil _ _
  · exact distinct

/-! ### The datagram of one flow -/

/-- The bytes of the record of a group of slots with the same key, from the slots. -/
def flowBytes (convert : Int → Int) (key : Tuple) (slots : List FlowData) : Nat :=
  107 + key.width +
    Json.width (((slots.map fun entry => convert (deviceStart entry)).foldl min int64Max).tdiv
      1000000) +
    Json.width (((slots.map fun entry => convert (deviceEnd entry)).foldl max int64Min).tdiv
      1000000) +
    (slots.map fun entry => 92 + (agentOf entry).width).sum

private theorem size_flowPayload_group (convert : Int → Int) (key : Tuple) {slots : List FlowData}
    (nonempty : slots ≠ []) :
    (flowPayload (key, slots.foldl (extendWith convert) {})).utf8ByteSize =
      flowBytes convert key slots := by
  obtain ⟨startTime, endTime⟩ := milliseconds_foldl_extendWith convert nonempty {}
  have agents : (slots.foldl (extendWith convert) {}).agent = slots.map agentOf :=
    agent_foldl_extendWith convert slots {}
  have some : (slots.foldl (extendWith convert) {}).agent ≠ [] := by
    rw [agents]
    simpa using nonempty
  rw [size_flowPayload key some, agents, startTime, endTime, startTimeNs_foldl_extendWith,
    endTimeNs_foldl_extendWith, List.map_map]
  rfl

private theorem mem_flowMap_iff {adjuster : TimeAdjuster} {flowEntries : List FlowData}
    {counterEntries : List CounterData} {data : ExportData}
    (aggregated : aggregate adjuster flowEntries counterEntries = .ok (some data)) {key : Tuple}
    {record : FlowRecord} :
    (key, record) ∈ data.flowMap.entries ↔ group flowEntries key ≠ [] ∧
      record = (group flowEntries key).foldl (extendWith adjuster.calibration.convert) {} := by
  obtain ⟨flowMap, flows, pushed⟩ := aggregate_eq_ok aggregated
  obtain ⟨_, folded⟩ := foldlM_eq_ok flows
  have same : data.flowMap = flowMap := by
    split at pushed
    · rw [Option.some.inj pushed]
    · cases pushed
  rw [OrderedMap.mem_entries_iff, same, folded, find?_built]
  split
  · rename_i empty
    simp [empty]
  · rename_i nonempty
    rw [Option.some.injEq, eq_comm]
    simp [nonempty]

section Groups

variable {adjuster : TimeAdjuster} {flowEntries : List FlowData}
  {counterEntries : List CounterData} {data : ExportData}

/-- Every group of slots that share a flow has a record that fits. -/
def GroupsFit (adjuster : TimeAdjuster) (flowEntries : List FlowData) : Prop :=
  ∀ entry ∈ flowEntries,
    flowBytes adjuster.calibration.convert (tupleOf entry) (group flowEntries (tupleOf entry)) ≤
      maximumDatagram

instance (adjuster : TimeAdjuster) (flowEntries : List FlowData) :
    Decidable (GroupsFit adjuster flowEntries) :=
  inferInstanceAs (Decidable (∀ entry ∈ flowEntries, _ ≤ _))

private theorem groups_of_fits
    (aggregated : aggregate adjuster flowEntries counterEntries = .ok (some data))
    (fits : FitsDatagrams data) : GroupsFit adjuster flowEntries := by
  intro entry member
  have nonempty : group flowEntries (tupleOf entry) ≠ [] :=
    group_ne_nil_iff.mpr ⟨entry, member, rfl⟩
  have present := (mem_flowMap_iff aggregated).mpr ⟨nonempty, rfl⟩
  rw [← size_flowPayload_group _ _ nonempty]
  exact fits _ (List.mem_append_left _ (List.mem_map_of_mem present))

private theorem fits_of_groups
    (aggregated : aggregate adjuster flowEntries counterEntries = .ok (some data))
    (bounded : GroupsFit adjuster flowEntries) : FitsDatagrams data := by
  intro payload handed
  rcases List.mem_append.mp handed with flow | counter
  · obtain ⟨⟨key, record⟩, present, rfl⟩ := List.mem_map.mp flow
    obtain ⟨nonempty, rfl⟩ := (mem_flowMap_iff aggregated).mp present
    obtain ⟨entry, member, rfl⟩ := group_ne_nil_iff.mp nonempty
    rw [size_flowPayload_group _ _ nonempty]
    exact bounded entry member
  · obtain ⟨⟨key, record⟩, _, rfl⟩ := List.mem_map.mp counter
    exact counterPayload_fits key record

end Groups

/-- Whatever a tick read, its datagrams fit exactly if the group of slots of each flow does. -/
theorem datagrams_fit_iff (adjuster : TimeAdjuster) (flowEntries : List FlowData)
    (counterEntries : List CounterData) (data : ExportData)
    (aggregated : aggregate adjuster flowEntries counterEntries = .ok (some data)) :
    FitsDatagrams data ↔ GroupsFit adjuster flowEntries :=
  ⟨groups_of_fits aggregated, fits_of_groups aggregated⟩

def sharedEntries : List FlowData :=
  [{ key := { agentIp := 1, srcPort := 80 }, index := 0 },
    { key := { agentIp := 1, srcPort := 443 }, index := 1 },
    { key := { agentIp := 2, srcPort := 80 }, index := 2 }]

theorem datagrams_fit_iff_shared :
    ∃ adjuster data, (TimeAdjuster.adjusterSystem StdSort.insertion {}).Reachable adjuster ∧
      aggregate adjuster sharedEntries [] = .ok (some data) ∧
      data.flowMap.entries.length = 2 ∧ FitsDatagrams data := by
  have checked : (TimeAdjuster.construct StdSort.insertion {} startupPolls).toOption.map
      (fun adjuster => decide (GroupsFit adjuster sharedEntries)) = some true := by
    decide +kernel
  obtain ⟨adjuster, constructed, passes⟩ := TimeAdjuster.construct_checked checked
  have reachable : (TimeAdjuster.adjusterSystem StdSort.insertion {}).Reachable adjuster :=
    .start ⟨_, constructed⟩
  have built := foldlM_of_wellTimed (TimeAdjuster.valid_of_reachable reachable)
    (show ∀ entry ∈ sharedEntries, WellTimed entry by decide) OrderedMap.empty
  have aggregated := aggregate_built built
    (flowsExact_built adjuster.calibration.convert sharedEntries)
    (countersExact_aggregateCounters [])
  exact ⟨adjuster, _, reachable, aggregated, rfl,
    (datagrams_fit_iff _ _ _ _ aggregated).mpr (of_decide_eq_true passes)⟩

/-! ### How many slots a datagram has room for -/

private theorem foldl_choice {choose : Int → Int → Int}
    (chooses : ∀ first second, choose first second = first ∨ choose first second = second)
    {holds : Int → Prop} {times : List Int} (each : ∀ time ∈ times, holds time) {start : Int}
    (first : holds start) : holds (times.foldl choose start) := by
  induction times generalizing start with
  | nil => exact first
  | cons time rest ih =>
      have later := fun other member => each other (List.mem_cons_of_mem time member)
      rcases chooses start time with kept | replaced
      · exact ih later (kept.symm ▸ first)
      · exact ih later (replaced.symm ▸ each time List.mem_cons_self)

/-- The widths are those of 64-bit times. -/
def TimesFit (convert : Int → Int) (slots : List FlowData) : Prop :=
  ∀ entry ∈ slots, (int64Min ≤ convert (deviceStart entry) ∧
      convert (deviceStart entry) ≤ int64Max) ∧
    int64Min ≤ convert (deviceEnd entry) ∧ convert (deviceEnd entry) ≤ int64Max

private theorem flowBytes_le {convert : Int → Int} {slots : List FlowData}
    (timesFit : TimesFit convert slots) (key : Tuple) :
    flowBytes convert key slots ≤ 170 + 187 * slots.length := by
  have sentinels : (int64Min ≤ int64Max ∧ int64Max ≤ int64Max) ∧
      int64Min ≤ int64Min ∧ int64Min ≤ int64Max := by
    decide
  have starts := @foldl_choice min min_choice (fun time => int64Min ≤ time ∧ time ≤ int64Max)
    (slots.map fun entry => convert (deviceStart entry))
    (by simpa using fun entry member => (timesFit entry member).1) int64Max sentinels.1
  have ends := @foldl_choice max max_choice (fun time => int64Min ≤ time ∧ time ≤ int64Max)
    (slots.map fun entry => convert (deviceEnd entry))
    (by simpa using fun entry member => (timesFit entry member).2) int64Min sentinels.2
  have startWidth := width_milliseconds starts.1 starts.2
  have endWidth := width_milliseconds ends.1 ends.2
  have keyWidth := key.width_range.2
  have each : ∀ bytes ∈ slots.map fun entry => 92 + (agentOf entry).width, bytes ≤ 187 := by
    intro bytes member
    obtain ⟨entry, _, rfl⟩ := List.mem_map.mp member
    exact Nat.add_le_add_left (agentOf entry).width_range.2 92
  have agents := List.sum_le_card_nsmul _ _ each
  rw [List.length_map, smul_eq_mul] at agents
  unfold flowBytes
  omega

private theorem le_flowBytes (convert : Int → Int) (key : Tuple) (slots : List FlowData) :
    114 + 100 * slots.length ≤ flowBytes convert key slots := by
  have startWidth := Json.width_pos
    (((slots.map fun entry => convert (deviceStart entry)).foldl min int64Max).tdiv 1000000)
  have endWidth := Json.width_pos
    (((slots.map fun entry => convert (deviceEnd entry)).foldl max int64Min).tdiv 1000000)
  have keyWidth := key.width_range.1
  have each : ∀ bytes ∈ slots.map fun entry => 92 + (agentOf entry).width, 100 ≤ bytes := by
    intro bytes member
    obtain ⟨entry, _, rfl⟩ := List.mem_map.mp member
    exact Nat.add_le_add_left (agentOf entry).width_range.1 92
  have agents := List.card_nsmul_le_sum _ _ each
  rw [List.length_map, smul_eq_mul] at agents
  unfold flowBytes
  omega

section Room

variable {adjuster : TimeAdjuster} {flowEntries : List FlowData}
  {counterEntries : List CounterData} {data : ExportData}

theorem datagrams_fit_of_few
    (aggregated : aggregate adjuster flowEntries counterEntries = .ok (some data))
    (timesFit : TimesFit adjuster.calibration.convert flowEntries)
    (few : ∀ entry ∈ flowEntries, (group flowEntries (tupleOf entry)).length ≤ 349) :
    FitsDatagrams data := by
  refine fits_of_groups aggregated ?_
  intro entry member
  have within : TimesFit adjuster.calibration.convert (group flowEntries (tupleOf entry)) :=
    fun other present => timesFit other (List.mem_of_mem_filter present)
  have bounded := flowBytes_le within (tupleOf entry)
  have count := few entry member
  unfold maximumDatagram
  omega

private theorem oversized_of_many
    (aggregated : aggregate adjuster flowEntries counterEntries = .ok (some data))
    {entry : FlowData} (member : entry ∈ flowEntries)
    (many : 654 ≤ (group flowEntries (tupleOf entry)).length) : ¬ FitsDatagrams data := by
  intro fits
  have bounded := groups_of_fits aggregated fits entry member
  have least := le_flowBytes adjuster.calibration.convert (tupleOf entry)
    (group flowEntries (tupleOf entry))
  unfold maximumDatagram at bounded
  omega

end Room

/-! ### A crowded drain -/

def crowdedCard : SteadyCard where
  memory region position := if region = .flowSem .primary ∧ position % 4 = 0 then 3 else 0
  counters _ _ := 0

private theorem word_crowdedCard (slot : Nat) :
    crowdedCard.memory.word (.flowSem .primary) (4 * slot) = kSemDataReady := by
  have bytes : crowdedCard.memory.read (.flowSem .primary) (4 * slot) 4 = [3, 0, 0, 0] := by
    simp [Memory.read, crowdedCard, List.range_succ]
  unfold Memory.word
  rw [bytes]
  decide

private theorem read_of_blank {memory : Memory} {region : Region}
    (blank : memory region = fun _ => 0)
    (offset length : Nat) : memory.read region offset length = List.replicate length 0 := by
  unfold Memory.read
  rw [blank, List.map_const', List.length_range]

private theorem blank_entry (slot : Nat) :
    WellTimed (SmartNicReader.entryOf slot (List.replicate recordSize 0)
        (List.replicate recordSize 0)) ∧
      tupleOf (SmartNicReader.entryOf slot (List.replicate recordSize 0)
        (List.replicate recordSize 0)) = ⟨0, 0, 0, 0, 0⟩ := by
  have timed : TimeAdjuster.Readable
      (StoredFlowData.ofBytes (List.replicate recordSize 0)).startTime.nsec ∧
        TimeAdjuster.Readable
          (StoredFlowData.ofBytes (List.replicate recordSize 0)).endTime.nsec := by
    decide
  exact ⟨timed, rfl⟩

private theorem drained_crowdedCard : ∃ entries after,
    SteadyCard.device.ReturnsOnly ({ slotCount := 20000 } : SmartNicReader).readFlowData
      crowdedCard entries after ∧ entries.length = 20000 ∧
      ∀ entry ∈ entries, WellTimed entry ∧ tupleOf entry = ⟨0, 0, 0, 0, 0⟩ := by
  have active : crowdedCard.memory.activeBank = .primary := by decide
  have settles : crowdedCard.Settles crowdedCard.memory.activeBank := ⟨0, by decide⟩
  obtain ⟨reads, returns⟩ := @SteadyCard.returns_readFlowData crowdedCard { slotCount := 20000 }
    rfl (by decide) settles
  rw [active] at returns
  have kept := @SteadyCard.memory_retired crowdedCard reads
  have ready : haveData 20000 ((crowdedCard.retired reads).memory.read (.flowSem .primary) 0
      (20000 * 4)) = List.range 20000 := by
    rw [haveData_read, List.filter_eq_self]
    intro slot _
    have word : (crowdedCard.retired reads).memory.word (.flowSem .primary) (4 * slot) =
        crowdedCard.memory.word (.flowSem .primary) (4 * slot) :=
      Memory.word_congr fun position => congrFun (kept (by simp)) position
    rw [word, word_crowdedCard]
    rfl
  have keys : (crowdedCard.retired reads).memory (.flowKey .primary) = fun _ => 0 := kept (by simp)
  have data : (crowdedCard.retired reads).memory (.flowData .primary) = fun _ => 0 := by
    rw [kept (by simp)]
    rfl
  refine ⟨_, _, returns.only SteadyCard.device_deterministic, ?_, ?_⟩
  · rw [List.length_map]
    exact (congrArg List.length ready).trans List.length_range
  · intro entry member
    obtain ⟨slot, _, rfl⟩ := List.mem_map.mp member
    unfold SteadyCard.flowEntry
    rw [read_of_blank keys, read_of_blank data]
    exact blank_entry slot

/-- Nothing on the way from the card to the socket splits or refuses the record. -/
theorem crowded_datagram_oversized :
    ∃ adjuster entries after data,
      (TimeAdjuster.adjusterSystem StdSort.insertion {}).Reachable adjuster ∧
      SteadyCard.device.ReturnsOnly ({ slotCount := 20000 } : SmartNicReader).readFlowData
        crowdedCard entries after ∧
      aggregate adjuster entries [] = .ok (some data) ∧ ¬ FitsDatagrams data := by
  obtain ⟨adjuster, reachable⟩ := startup_reachable
  obtain ⟨entries, after, returns, count, each⟩ := drained_crowdedCard
  have valid := TimeAdjuster.valid_of_reachable reachable
  have built := foldlM_of_wellTimed valid (fun entry member => (each entry member).1)
    OrderedMap.empty
  have aggregated := aggregate_built built
    (flowsExact_built adjuster.calibration.convert entries) (countersExact_aggregateCounters [])
  have some : entries ≠ [] := by
    rintro rfl
    cases count
  rw [if_neg (fun empty => some empty.1)] at aggregated
  refine ⟨adjuster, entries, after, _, reachable, returns, aggregated, ?_⟩
  obtain ⟨first, member⟩ := List.exists_mem_of_ne_nil entries some
  have whole : group entries (tupleOf first) = entries := by
    refine List.filter_eq_self.mpr ?_
    intro entry present
    rw [(each entry present).2, (each first member).2]
    rfl
  refine oversized_of_many aggregated member ?_
  rw [whole, count]
  decide

end SflowMiddle.Exporter

/-
What a collector can tell from the datagrams of src/main.cpp: everything that is
written into them. A flow datagram determines its tuple, its two times in milliseconds
and its agents in order, a counter datagram its key and its counters, and neither kind
can be taken for the other, so that the datagrams of a batch determine the batch up to
the nanoseconds.
-/

import SflowMiddle.Exporter.Datagrams
import SflowMiddle.Foundation.JsonReading

namespace SflowMiddle.Exporter

open SflowMiddle.Foundation
open SflowMiddle.Card

/-! ### Items -/

def agentNames : List String :=
  ["aip", "in_if", "out_if", "byte_cnt", "packet_cnt", "sampling_rate", "tcp_flag", "index"]

def flowNames : List String :=
  ["src_ip", "dst_ip", "src_port", "dst_port", "protocol", "start_time", "end_time", "agent"]

def counterNames : List String :=
  ["agent_ip", "if_idx", "if_speed", "in_octets", "out_octets"]

private theorem names_distinct : agentNames.Nodup ∧ flowNames.Nodup ∧ counterNames.Nodup := by
  decide

private theorem Agent.plain_json (agent : Agent) : agent.json.Plain := by
  unfold Agent.json
  apply Json.plain_ofMembers
  · exact names_distinct.1
  · simp [Json.PlainMembers, Json.PlainMember, Json.Plain]

private theorem Agent.json_cancel {first second : Agent} (same : first.json = second.json) :
    first = second := by
  unfold Agent.json at same
  have members := Json.ofMembers_cancel same names_distinct.1 rfl
  simp only [List.cons.injEq, Prod.mk.injEq, Json.number.injEq, Nat.cast_inj, UInt32.toNat_inj,
    UInt64.toNat_inj, UInt16.toNat_inj, true_and, and_true] at members
  obtain ⟨aip, inIf, outIf, byteCnt, packetCnt, samplingRate, tcpFlag, index⟩ := members
  cases first
  cases second
  simp_all

private theorem plain_flowItem (key : Tuple) (record : FlowRecord) :
    (flowItem key record).Plain := by
  have agents : Json.PlainItems (record.agent.map Agent.json) := by
    rw [Json.plainItems_iff]
    intro item member
    obtain ⟨agent, _, rfl⟩ := List.mem_map.mp member
    exact agent.plain_json
  unfold flowItem
  apply Json.plain_ofMembers
  · exact names_distinct.2.1
  · simp [Json.PlainMembers, Json.PlainMember, Json.Plain, agents]

private theorem plain_counterItem (key : CounterAgent) (record : CounterRecord) :
    (counterItem key record).Plain := by
  unfold counterItem
  apply Json.plain_ofMembers
  · exact names_distinct.2.2
  · simp [Json.PlainMembers, Json.PlainMember, Json.Plain]

private theorem flowItem_cancel {key other : Tuple} {record read : FlowRecord}
    (same : flowItem key record = flowItem other read) :
    key = other ∧ record.startTime = read.startTime ∧ record.endTime = read.endTime ∧
      record.agent = read.agent := by
  unfold flowItem at same
  have members := Json.ofMembers_cancel same names_distinct.2.1 rfl
  simp only [List.cons.injEq, Prod.mk.injEq, Json.number.injEq, Json.array.injEq, Nat.cast_inj,
    UInt32.toNat_inj, UInt16.toNat_inj, true_and, and_true] at members
  obtain ⟨srcIp, dstIp, srcPort, dstPort, protocol, startTime, endTime, agents⟩ := members
  refine ⟨?_, startTime, endTime, ?_⟩
  · cases key
    cases other
    simp_all
  · exact List.map_injective_iff.mpr (fun _ _ => Agent.json_cancel) agents

private theorem counterItem_cancel {key other : CounterAgent} {record read : CounterRecord}
    (same : counterItem key record = counterItem other read) : key = other ∧ record = read := by
  unfold counterItem at same
  have members := Json.ofMembers_cancel same names_distinct.2.2 rfl
  simp only [List.cons.injEq, Prod.mk.injEq, Json.number.injEq, Nat.cast_inj, UInt32.toNat_inj,
    UInt64.toNat_inj, true_and, and_true] at members
  obtain ⟨agentIp, ifIdx, ifSpeed, inOctets, outOctets⟩ := members
  constructor
  · cases key
    cases other
    simp_all
  · cases record
    cases read
    simp_all

/-! ### Datagrams -/

private theorem payloadOf_cancel {name label : String} {item read : Json} (plain : item.Plain)
    (readPlain : read.Plain) (named : '"' ∉ name.toList) (labelled : '"' ∉ label.toList)
    (same : payloadOf name item = payloadOf label read) : name = label ∧ item = read := by
  have parts := Json.dump_injective
    (Json.plain_ofMembers (by simp) (by simp [Json.PlainMembers, Json.PlainMember, Json.Plain,
      Json.PlainItems, plain, named]))
    (Json.plain_ofMembers (by simp) (by simp [Json.PlainMembers, Json.PlainMember, Json.Plain,
      Json.PlainItems, readPlain, labelled])) same
  have members : [(name, Json.array [item])] = [(label, Json.array [read])] :=
    Json.object.inj parts
  simp only [List.cons.injEq, Prod.mk.injEq, Json.array.injEq, and_true] at members
  exact members

/-- What a flow datagram says of a record: not its times in nanoseconds. -/
def FlowRecord.shown (entry : Tuple × FlowRecord) : Tuple × Int × Int × List Agent :=
  (entry.1, entry.2.startTime, entry.2.endTime, entry.2.agent)

theorem flowPayload_eq_iff (first second : Tuple × FlowRecord) :
    flowPayload first = flowPayload second ↔ FlowRecord.shown first = FlowRecord.shown second := by
  obtain ⟨key, record⟩ := first
  obtain ⟨other, read⟩ := second
  unfold flowPayload FlowRecord.shown
  constructor
  · intro same
    have item := (payloadOf_cancel (plain_flowItem key record) (plain_flowItem other read)
      (by decide) (by decide) same).2
    obtain ⟨keys, startTime, endTime, agents⟩ := flowItem_cancel item
    rw [keys, startTime, endTime, agents]
  · intro same
    simp only [Prod.mk.injEq] at same
    obtain ⟨keys, startTime, endTime, agents⟩ := same
    unfold flowItem
    rw [keys, startTime, endTime, agents]

theorem counterPayload_injective : Function.Injective counterPayload := by
  rintro ⟨key, record⟩ ⟨other, read⟩ same
  have item := (payloadOf_cancel (plain_counterItem key record) (plain_counterItem other read)
    (by decide) (by decide) same).2
  obtain ⟨keys, records⟩ := counterItem_cancel item
  rw [keys, records]

theorem flowPayload_ne_counterPayload (flow : Tuple × FlowRecord)
    (counter : CounterAgent × CounterRecord) : flowPayload flow ≠ counterPayload counter := by
  intro same
  have names := (payloadOf_cancel (plain_flowItem flow.1 flow.2)
    (plain_counterItem counter.1 counter.2) (by decide) (by decide) same).1
  exact absurd names (by decide)

/-! ### Batches -/

private theorem parts_cancel {α : Type} {belongs : α → Prop} {first second rest more : List α}
    (same : first ++ rest = second ++ more) (inFirst : ∀ item ∈ first, belongs item)
    (inSecond : ∀ item ∈ second, belongs item) (notInRest : ∀ item ∈ rest, ¬ belongs item)
    (notInMore : ∀ item ∈ more, ¬ belongs item) : first = second ∧ rest = more := by
  induction first generalizing second with
  | nil =>
      cases second with
      | nil => exact ⟨rfl, same⟩
      | cons item items =>
          rw [List.nil_append] at same
          exact absurd (inSecond item List.mem_cons_self) (notInRest item (by simp [same]))
  | cons item items ih =>
      cases second with
      | nil =>
          rw [List.nil_append] at same
          exact absurd (inFirst item List.mem_cons_self) (notInMore item (by simp [← same]))
      | cons other others =>
          obtain ⟨rfl, later⟩ := List.cons_eq_cons.mp same
          obtain ⟨rfl, rests⟩ := ih later
            (fun member present => inFirst member (List.mem_cons_of_mem item present))
            (fun member present => inSecond member (List.mem_cons_of_mem item present))
          exact ⟨rfl, rests⟩

private theorem map_eq_map_iff_of_eq_iff {α β γ : Type} {text : α → β} {shown : α → γ}
    (determined : ∀ first second, text first = text second ↔ shown first = shown second)
    {first second : List α} :
    first.map text = second.map text ↔ first.map shown = second.map shown := by
  induction first generalizing second with
  | nil => cases second <;> simp
  | cons item items ih =>
      cases second with
      | nil => simp
      | cons other others => simp [determined, ih]

/-- The datagrams of a batch are those of another exactly if the two batches agree on all keys,
counters, agents in order, and times in milliseconds. -/
theorem datagrams_determine_batch (first second : ExportData) :
    payloads first = payloads second ↔
      first.flowMap.entries.map FlowRecord.shown = second.flowMap.entries.map FlowRecord.shown ∧
        first.counterMap.entries = second.counterMap.entries := by
  unfold payloads
  rw [← map_eq_map_iff_of_eq_iff flowPayload_eq_iff]
  constructor
  · intro same
    have isFlow : ∀ entries : List (Tuple × FlowRecord), ∀ payload ∈ entries.map flowPayload,
        ∃ flow, payload = flowPayload flow := by
      intro entries payload member
      obtain ⟨flow, _, rfl⟩ := List.mem_map.mp member
      exact ⟨flow, rfl⟩
    have notFlow : ∀ entries : List (CounterAgent × CounterRecord),
        ∀ payload ∈ entries.map counterPayload, ¬ ∃ flow, payload = flowPayload flow := by
      rintro entries payload member ⟨flow, written⟩
      obtain ⟨counter, _, rfl⟩ := List.mem_map.mp member
      exact flowPayload_ne_counterPayload flow counter written.symm
    obtain ⟨flows, counters⟩ := parts_cancel same (isFlow _) (isFlow _) (notFlow _) (notFlow _)
    exact ⟨flows, List.map_injective_iff.mpr counterPayload_injective counters⟩
  · rintro ⟨flows, counters⟩
    rw [flows, counters]

/-- A batch never holds the same datagram twice. -/
theorem datagrams_distinct (data : ExportData) : (payloads data).Nodup := by
  have flows : (data.flowMap.entries.map flowPayload).Nodup := by
    refine List.Pairwise.map flowPayload ?_ data.flowMap.ascending
    intro earlier later below same
    have keys := congrArg Prod.fst ((flowPayload_eq_iff earlier later).mp same)
    exact absurd below (keys ▸ lt_irrefl _)
  have counters : (data.counterMap.entries.map counterPayload).Nodup := by
    refine List.Pairwise.map counterPayload ?_ data.counterMap.ascending
    intro earlier later below same
    rw [counterPayload_injective same] at below
    exact lt_irrefl _ below
  refine List.nodup_append.mpr ⟨flows, counters, ?_⟩
  intro payload isFlow other isCounter
  obtain ⟨flow, _, rfl⟩ := List.mem_map.mp isFlow
  obtain ⟨counter, _, rfl⟩ := List.mem_map.mp isCounter
  exact flowPayload_ne_counterPayload flow counter

end SflowMiddle.Exporter

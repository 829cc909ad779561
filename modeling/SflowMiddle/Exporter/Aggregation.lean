/-
The aggregation part of one smartNicIoThread tick in src/main.cpp: the entries
the readers returned become the two maps of a batch. A conversion that throws
leaves the loop, and the thread, with the entries read so far. The device stores
ports and interfaces the other way round from the exported record.
-/

import SflowMiddle.Card.Records
import SflowMiddle.Exporter.TimeAdjuster
import SflowMiddle.Foundation.OrderedMap
import Mathlib.Data.Prod.Lex

namespace SflowMiddle.Exporter

open SflowMiddle.Foundation
open SflowMiddle.Card

structure Tuple where
  srcIp : UInt32
  dstIp : UInt32
  srcPort : UInt16
  dstPort : UInt16
  protocol : UInt16
  deriving Repr

/-- The `std::tie` that `operator<` compares. -/
def Tuple.tied (tuple : Tuple) : Nat ×ₗ Nat ×ₗ Nat ×ₗ Nat ×ₗ Nat :=
  toLex (tuple.srcIp.toNat, toLex (tuple.dstIp.toNat, toLex (tuple.srcPort.toNat,
    toLex (tuple.dstPort.toNat, tuple.protocol.toNat))))

private theorem Tuple.tied_injective : Function.Injective Tuple.tied := by
  rintro ⟨srcIp, dstIp, srcPort, dstPort, protocol⟩ ⟨srcIp', dstIp', srcPort', dstPort', protocol'⟩
    same
  simp only [Tuple.tied, EmbeddingLike.apply_eq_iff_eq, Prod.mk.injEq, UInt32.toNat_inj,
    UInt16.toNat_inj] at same
  obtain ⟨rfl, rfl, rfl, rfl, rfl⟩ := same
  rfl

instance : LinearOrder Tuple := LinearOrder.lift' Tuple.tied Tuple.tied_injective

structure Agent where
  aip : UInt32
  inIf : UInt32
  outIf : UInt32
  byteCnt : UInt64
  packetCnt : UInt64
  samplingRate : UInt32
  tcpFlag : UInt16
  index : UInt32
  deriving DecidableEq, Repr

def int64Max : Int := 9223372036854775807

def int64Min : Int := -9223372036854775808

structure FlowRecord where
  agent : List Agent := []
  startTime : Int := int64Max
  endTime : Int := int64Min
  startTimeNs : Int := int64Max
  endTimeNs : Int := int64Min
  deriving DecidableEq, Repr

structure CounterAgent where
  agentIp : UInt32
  ifIdx : UInt32
  deriving Repr

def CounterAgent.tied (agent : CounterAgent) : Nat ×ₗ Nat :=
  toLex (agent.agentIp.toNat, agent.ifIdx.toNat)

private theorem CounterAgent.tied_injective : Function.Injective CounterAgent.tied := by
  rintro ⟨agentIp, ifIdx⟩ ⟨agentIp', ifIdx'⟩ same
  simp only [CounterAgent.tied, EmbeddingLike.apply_eq_iff_eq, Prod.mk.injEq,
    UInt32.toNat_inj] at same
  obtain ⟨rfl, rfl⟩ := same
  rfl

instance : LinearOrder CounterAgent :=
  LinearOrder.lift' CounterAgent.tied CounterAgent.tied_injective

structure CounterRecord where
  inOctets : UInt64
  outOctets : UInt64
  ifSpeed : UInt64
  deriving DecidableEq, Repr

abbrev FlowMap := OrderedMap Tuple FlowRecord

abbrev CounterMap := OrderedMap CounterAgent CounterRecord

/-- The batch that is pushed, without the elapsed time it carries for the debug file. -/
structure ExportData where
  flowMap : FlowMap
  counterMap : CounterMap

/-! ### One entry -/

def tupleOf (entry : FlowData) : Tuple where
  srcIp := entry.key.srcIp
  dstIp := entry.key.dstIp
  srcPort := entry.key.dstPort
  dstPort := entry.key.srcPort
  protocol := entry.key.protocol.toUInt16

def agentOf (entry : FlowData) : Agent where
  aip := entry.key.agentIp
  inIf := entry.key.outIf.toUInt32
  outIf := entry.key.inIf.toUInt32
  byteCnt := entry.data.byteCnt
  packetCnt := entry.data.packetCnt
  samplingRate := entry.key.samplingRate
  tcpFlag := entry.key.tcpFlag.toUInt16
  index := entry.index

def FlowRecord.extend (record : FlowRecord) (agent : Agent) (startTimeNs endTimeNs : Int) :
    FlowRecord :=
  let earliest := min record.startTimeNs startTimeNs
  let latest := max record.endTimeNs endTimeNs
  { agent := record.agent ++ [agent]
    startTimeNs := earliest
    endTimeNs := latest
    startTime := earliest.tdiv 1000000
    endTime := latest.tdiv 1000000 }

def addFlowEntry (adjuster : TimeAdjuster) (flowMap : FlowMap) (entry : FlowData) :
    Except StdException FlowMap := do
  let startTimeNs ←
    adjuster.toUnixNanoseconds entry.data.startTime.sec entry.data.startTime.nsec
  let endTimeNs ←
    adjuster.toUnixNanoseconds entry.data.endTime.sec entry.data.endTime.nsec
  return flowMap.modify (tupleOf entry) {}
    (fun record => record.extend (agentOf entry) startTimeNs endTimeNs)

def addCounterEntry (counterMap : CounterMap) (entry : CounterData) : CounterMap :=
  let record : CounterRecord :=
    { ifSpeed := entry.data.ifSpeed
      inOctets := entry.data.inOctets
      outOctets := entry.data.outOctets }
  counterMap.modify ⟨entry.data.key.agentIp, entry.data.key.ifIdx⟩ record (fun _ => record)

/-! ### One tick -/

def aggregateFlows (adjuster : TimeAdjuster) (entries : List FlowData) :
    Except StdException FlowMap :=
  entries.foldlM (addFlowEntry adjuster) OrderedMap.empty

def aggregateCounters (entries : List CounterData) : CounterMap :=
  entries.foldl addCounterEntry OrderedMap.empty

/-- The batch a tick pushes, if any; an error is an exception out of the thread. -/
def aggregate (adjuster : TimeAdjuster) (flowEntries : List FlowData)
    (counterEntries : List CounterData) : Except StdException (Option ExportData) := do
  let flowMap ← aggregateFlows adjuster flowEntries
  let counterMap := aggregateCounters counterEntries
  if ¬ flowMap.isEmpty ∨ ¬ counterMap.isEmpty then
    return some { flowMap := flowMap, counterMap := counterMap }
  else return none

/-! ### What the loop leaves in the map -/

/-- Both timestamps can be converted. -/
def WellTimed (entry : FlowData) : Prop :=
  TimeAdjuster.Readable entry.data.startTime.nsec ∧
    TimeAdjuster.Readable entry.data.endTime.nsec

instance (entry : FlowData) : Decidable (WellTimed entry) :=
  inferInstanceAs (Decidable (_ ∧ _))

def deviceStart (entry : FlowData) : Int :=
  TimeAdjuster.macNs entry.data.startTime.sec entry.data.startTime.nsec

def deviceEnd (entry : FlowData) : Int :=
  TimeAdjuster.macNs entry.data.endTime.sec entry.data.endTime.nsec

/-- A record after one more entry, with the times a calibration gives it. -/
def extendWith (convert : Int → Int) (record : FlowRecord) (entry : FlowData) : FlowRecord :=
  record.extend (agentOf entry) (convert (deviceStart entry)) (convert (deviceEnd entry))

def addConverted (convert : Int → Int) (flowMap : FlowMap) (entry : FlowData) : FlowMap :=
  flowMap.modify (tupleOf entry) {} (fun record => extendWith convert record entry)

private theorem addFlowEntry_of_wellTimed {adjuster : TimeAdjuster} {flowMap : FlowMap}
    {entry : FlowData} (valid : adjuster.calibration.status.valid = true)
    (wellTimed : WellTimed entry) :
    addFlowEntry adjuster flowMap entry =
      .ok (addConverted adjuster.calibration.convert flowMap entry) := by
  unfold addFlowEntry
  rw [TimeAdjuster.toUnixNanoseconds_of_readable valid wellTimed.1,
    TimeAdjuster.toUnixNanoseconds_of_readable valid wellTimed.2]
  rfl

private theorem addFlowEntry_eq_ok {adjuster : TimeAdjuster} {flowMap after : FlowMap}
    {entry : FlowData} (added : addFlowEntry adjuster flowMap entry = .ok after) :
    WellTimed entry ∧ after = addConverted adjuster.calibration.convert flowMap entry := by
  unfold addFlowEntry at added
  cases started : adjuster.toUnixNanoseconds entry.data.startTime.sec
      entry.data.startTime.nsec with
  | error exception =>
      rw [started] at added
      cases added
  | ok startTimeNs =>
      cases ended : adjuster.toUnixNanoseconds entry.data.endTime.sec
          entry.data.endTime.nsec with
      | error exception =>
          rw [started, ended] at added
          cases added
      | ok endTimeNs =>
          rw [started, ended] at added
          obtain ⟨startReadable, _, startNs⟩ := TimeAdjuster.toUnixNanoseconds_eq_ok started
          obtain ⟨endReadable, _, endNs⟩ := TimeAdjuster.toUnixNanoseconds_eq_ok ended
          refine ⟨⟨startReadable, endReadable⟩, ?_⟩
          rw [startNs, endNs] at added
          exact (Except.ok.inj added).symm

theorem foldlM_of_wellTimed {adjuster : TimeAdjuster} {entries : List FlowData}
    (valid : adjuster.calibration.status.valid = true)
    (wellTimed : ∀ entry ∈ entries, WellTimed entry) (flowMap : FlowMap) :
    entries.foldlM (addFlowEntry adjuster) flowMap =
      .ok (entries.foldl (addConverted adjuster.calibration.convert) flowMap) := by
  induction entries generalizing flowMap with
  | nil => rfl
  | cons entry rest ih =>
      rw [List.foldlM_cons, addFlowEntry_of_wellTimed valid (wellTimed entry List.mem_cons_self)]
      exact ih (fun other member => wellTimed other (List.mem_cons_of_mem entry member)) _

theorem foldlM_eq_ok {adjuster : TimeAdjuster} {entries : List FlowData}
    {flowMap after : FlowMap}
    (ended : entries.foldlM (addFlowEntry adjuster) flowMap = .ok after) :
    (∀ entry ∈ entries, WellTimed entry) ∧
      after = entries.foldl (addConverted adjuster.calibration.convert) flowMap := by
  induction entries generalizing flowMap with
  | nil =>
      cases ended
      exact ⟨by simp, rfl⟩
  | cons entry rest ih =>
      rw [List.foldlM_cons] at ended
      cases added : addFlowEntry adjuster flowMap entry with
      | error exception =>
          rw [added] at ended
          cases ended
      | ok middle =>
          rw [added] at ended
          obtain ⟨wellTimed, same⟩ := addFlowEntry_eq_ok added
          obtain ⟨restWellTimed, result⟩ := ih ended
          refine ⟨?_, ?_⟩
          · intro other member
            rcases List.mem_cons.mp member with first | later
            · rw [first]
              exact wellTimed
            · exact restWellTimed other later
          · rw [result, same]
            rfl

/-- The record of a key is the fold of exactly the entries with that key, in order. -/
theorem find?_foldl_addConverted (convert : Int → Int) (entries : List FlowData)
    (flowMap : FlowMap) (key : Tuple) :
    (entries.foldl (addConverted convert) flowMap).find? key =
      if (entries.filter (fun entry => tupleOf entry = key)).isEmpty then flowMap.find? key
      else some ((entries.filter (fun entry => tupleOf entry = key)).foldl (extendWith convert)
        ((flowMap.find? key).getD {})) := by
  induction entries generalizing flowMap with
  | nil => rfl
  | cons entry rest ih =>
      rw [List.foldl_cons, ih]
      by_cases same : tupleOf entry = key
      · have front : (entry :: rest).filter (fun entry => tupleOf entry = key) =
            entry :: rest.filter (fun entry => tupleOf entry = key) := by
          simp [same]
        have updated : (addConverted convert flowMap entry).find? key =
            some (extendWith convert ((flowMap.find? key).getD {}) entry) := by
          rw [← same]
          exact OrderedMap.find?_modify_same flowMap (tupleOf entry) {} _
        rw [front, updated]
        cases group : rest.filter (fun entry => tupleOf entry = key) with
        | nil => rfl
        | cons head tail => rfl
      · have front : (entry :: rest).filter (fun entry => tupleOf entry = key) =
            rest.filter (fun entry => tupleOf entry = key) := by
          simp [same]
        have untouched : (addConverted convert flowMap entry).find? key = flowMap.find? key :=
          OrderedMap.find?_modify_of_ne flowMap {} _ (Ne.symm same)
        rw [front, untouched]

/-! ### Folding one group -/

theorem agent_foldl_extendWith (convert : Int → Int) (entries : List FlowData)
    (record : FlowRecord) :
    (entries.foldl (extendWith convert) record).agent = record.agent ++ entries.map agentOf := by
  induction entries generalizing record with
  | nil => simp
  | cons entry rest ih =>
      rw [List.foldl_cons, ih]
      simp [extendWith, FlowRecord.extend]

theorem times_foldl_extendWith (convert : Int → Int) (entries : List FlowData)
    (record : FlowRecord) :
    ((entries.foldl (extendWith convert) record).startTimeNs ≤ record.startTimeNs ∧
        record.endTimeNs ≤ (entries.foldl (extendWith convert) record).endTimeNs) ∧
      ∀ entry ∈ entries,
        (entries.foldl (extendWith convert) record).startTimeNs ≤ convert (deviceStart entry) ∧
          convert (deviceEnd entry) ≤
            (entries.foldl (extendWith convert) record).endTimeNs := by
  induction entries generalizing record with
  | nil => exact ⟨⟨le_refl _, le_refl _⟩, by simp⟩
  | cons first rest ih =>
      obtain ⟨⟨starts, ends⟩, each⟩ := ih (extendWith convert record first)
      rw [List.foldl_cons]
      refine ⟨⟨starts.trans (min_le_left _ _), (le_max_left _ _).trans ends⟩, ?_⟩
      intro entry member
      rcases List.mem_cons.mp member with same | later
      · rw [same]
        exact ⟨starts.trans (min_le_right _ _), (le_max_right _ _).trans ends⟩
      · exact each entry later

theorem milliseconds_foldl_extendWith (convert : Int → Int) {entries : List FlowData}
    (nonempty : entries ≠ []) (record : FlowRecord) :
    (entries.foldl (extendWith convert) record).startTime =
        (entries.foldl (extendWith convert) record).startTimeNs.tdiv 1000000 ∧
      (entries.foldl (extendWith convert) record).endTime =
        (entries.foldl (extendWith convert) record).endTimeNs.tdiv 1000000 := by
  induction entries generalizing record with
  | nil => exact absurd rfl nonempty
  | cons first rest ih =>
      rw [List.foldl_cons]
      cases rest with
      | nil => exact ⟨rfl, rfl⟩
      | cons second others => exact ih (by simp) _

end SflowMiddle.Exporter

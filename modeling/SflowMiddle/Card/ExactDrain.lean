/-
What the two readers do when every call succeeds. The firmware only moves its in-use
counters, as it likes, and the retired bank's counter reads zero sooner or later.
Then both readers return, with exactly the ready records of the bank that was active
before, and that bank is cleared and everything else is as it was.
-/

import SflowMiddle.Card.Slots

namespace SflowMiddle.Card

open SflowMiddle.Foundation
open Device

/-! ### A bank before and after its drain -/

def Store.readySlots (store : Store) (slotCount : Nat) (memory : Memory) : List Nat :=
  (List.range slotCount).filter fun slot => store.Ready memory slot

private theorem Store.ready_congr {store : Store} {before after : Memory}
    (same : after store.semaphores = before store.semaphores) (slot : Nat) :
    store.Ready after slot ↔ store.Ready before slot := by
  unfold Store.Ready
  rw [Memory.word_congr fun position => congrFun same position]

theorem Store.readySlots_congr {store : Store} {before after : Memory}
    (same : after store.semaphores = before store.semaphores) (slotCount : Nat) :
    store.readySlots slotCount after = store.readySlots slotCount before :=
  List.filter_congr fun slot _ => decide_eq_decide.mpr (Store.ready_congr same slot)

private theorem haveData_semaphores (memory : Memory) (store : Store) (slotCount : Nat) :
    haveData slotCount (memory.read store.semaphores 0 (slotCount * 4)) =
      store.readySlots slotCount memory :=
  haveData_read memory store.semaphores slotCount

/-- What a drain returns and leaves. The index of an entry is a 32-bit field. The memory of
the bank is cleared up to its last slot; only the regions named as moved may otherwise
differ. -/
structure BankDrained (store : Store) (slotCount : Nat) (moved : List Region)
    (before after : Memory) (carried : List Carried) : Prop where
  returned : carried = (store.readySlots slotCount before).map fun slot =>
    ⟨.ofNat slot, store.record before slot⟩
  ascending : slotCount ≤ 2 ^ 32 → carried.Pairwise fun left right => left.index < right.index
  cleared : ∀ region ∈ store.regions, ∀ position, position < slotCount * region.entrySize →
    after region position = 0
  beyond : ∀ region ∈ store.regions, ∀ position, slotCount * region.entrySize ≤ position →
    after region position = before region position
  others : ∀ region, region ∉ store.regions → region ∉ moved → after region = before region

private theorem ascending_readySlots {store : Store} {slotCount : Nat} {memory : Memory}
    (fits : slotCount ≤ 2 ^ 32) :
    ((store.readySlots slotCount memory).map fun slot =>
      (⟨.ofNat slot, store.record memory slot⟩ : Carried)).Pairwise
        fun left right => left.index < right.index := by
  have ordered : (store.readySlots slotCount memory).Pairwise (· < ·) :=
    List.pairwise_lt_range.filter _
  have bounded : ∀ slot ∈ store.readySlots slotCount memory, slot < slotCount :=
    fun slot member => List.mem_range.mp (List.mem_of_mem_filter member)
  rw [List.pairwise_map]
  refine ordered.imp_of_mem ?_
  intro left right leftMember rightMember below
  have leftBound : left < 2 ^ 32 := (bounded left leftMember).trans_le fits
  have rightBound : right < 2 ^ 32 := (bounded right rightMember).trans_le fits
  rw [UInt32.lt_iff_toNat_lt, UInt32.toNat_ofNat_of_lt' leftBound,
    UInt32.toNat_ofNat_of_lt' rightBound]
  exact below

private theorem bankDrained_of_apply {store : Store} {slotCount : Nat} {moved : List Region}
    {before settled after : Memory} {carried : List Carried}
    (apart : ∀ region ∈ store.regions, region ∉ moved)
    (same : ∀ region, region ∉ moved → settled region = before region)
    (applied : ∀ region position, after region position =
      if region ∈ store.regions ∧ position < slotCount * region.entrySize then 0
      else settled region position)
    (returned : carried = (store.readySlots slotCount settled).map fun slot =>
      ⟨.ofNat slot, store.record settled slot⟩) :
    BankDrained store slotCount moved before after carried := by
  have agree : ∀ region ∈ store.regions, settled region = before region :=
    fun region member => same region (apart region member)
  have ready := Store.readySlots_congr (agree store.semaphores List.mem_cons_self) slotCount
  have record : ∀ slot, store.record settled slot = store.record before slot :=
    fun slot => Store.record_congr fun region member => Memory.read_congr fun position _ _ =>
      congrFun (agree region (List.mem_cons_of_mem _ member)) position
  simp only [ready, record] at returned
  constructor
  · exact returned
  · intro fits
    rw [returned]
    exact ascending_readySlots fits
  · intro region member position within
    rw [applied, if_pos ⟨member, within⟩]
  · intro region member position behind
    rw [applied, if_neg (by omega), agree region member]
  · intro region other unmoved
    funext position
    rw [applied, if_neg (fun inside => other inside.1), same region unmoved]

/-! ### Every call succeeds -/

/-- The memory, and what the firmware leaves in the in-use counters before each of the reads
of them that are still to come. -/
structure SteadyCard where
  memory : Memory
  counters : Nat → Nat → UInt8

namespace SteadyCard

/-- The card at one of the coming reads of the in-use counters. -/
def afterReads (card : SteadyCard) (reads : Nat) : SteadyCard where
  memory region := if region = .processingMe then card.counters reads else card.memory region
  counters later := card.counters (reads + 1 + later)

def inUseAt (card : SteadyCard) (reads : Nat) (bank : Bank) : Nat :=
  (card.afterReads reads).memory.inUse bank

/-- The in-use counter of a bank reads zero sooner or later. -/
def Settles (card : SteadyCard) (bank : Bank) : Prop :=
  ∃ reads, card.inUseAt reads bank = 0

def seenBy (card : SteadyCard) : NfpCall → SteadyCard
  | .areaRead area _ _ => if area.region = .processingMe then card.afterReads 0 else card
  | _ => card

def answer (card : SteadyCard) (call : NfpCall) : call.Reply × SteadyCard :=
  let answered := call.answer (card.seenBy call).memory .succeeds
  (answered.1, { card.seenBy call with memory := answered.2 })

def device : Device SteadyCard NfpCall NfpCall.Reply where
  effect card call reply result := reply = (card.answer call).1 ∧ result = (card.answer call).2
  interferes _ _ := False
  safe _ _ := True

theorem device_deterministic : device.Deterministic := by
  intro card call reply result other otherResult effect effectOther
  exact ⟨effect.1.trans effectOther.1.symm, effect.2.trans effectOther.2.symm⟩

/-! ### The parts both readers share -/

private theorem returns_call (card : SteadyCard) (call : NfpCall) :
    device.Returns (Program.call call .done) card (card.answer call).1 (card.answer call).2 :=
  .step (.call _) ⟨rfl, rfl⟩ (.done _ _)

private theorem returns_openArea (card : SteadyCard) (region : Region) (size : Nat) :
    device.Returns (openArea region size) card (some ⟨region, size, 0⟩) card :=
  (returns_call card (.areaAlloc region size)).bind
    ((returns_call card (.areaAcquire ⟨region, size, 0⟩)).bind (.done _ _))

private theorem returns_areaRead (card : SteadyCard) {area : Area}
    (other : area.region ≠ .processingMe)
    (offset length : Nat) :
    device.Returns (areaRead area offset length) card
      (some (card.memory.read area.region offset length)) card := by
  have seen : card.seenBy (.areaRead area offset length) = card := if_neg other
  have answered : card.answer (.areaRead area offset length) =
      (some (card.memory.read area.region offset length), card) := by
    unfold answer
    rw [seen]
    rfl
  have returns := returns_call card (.areaRead area offset length)
  rw [answered] at returns
  exact returns

private theorem memory_afterReads (card : SteadyCard) (reads : Nat) {region : Region}
    (other : region ≠ .processingMe) :
    (card.afterReads reads).memory region = card.memory region :=
  if_neg other

theorem counters_afterReads (card : SteadyCard) (reads : Nat) :
    (card.afterReads reads).memory .processingMe = card.counters reads :=
  rfl

private theorem afterReads_afterReads (card : SteadyCard) (reads : Nat) :
    (card.afterReads 0).afterReads reads = card.afterReads (reads + 1) := by
  have shifted : ∀ later, (card.afterReads 0).counters later = card.counters (later + 1) := by
    intro later
    change card.counters (0 + 1 + later) = _
    rw [Nat.zero_add, Nat.add_comm]
  have memory : ((card.afterReads 0).afterReads reads).memory =
      (card.afterReads (reads + 1)).memory := by
    funext region
    by_cases counters : region = .processingMe
    · rw [counters, counters_afterReads, counters_afterReads, shifted]
    · rw [memory_afterReads _ _ counters, memory_afterReads _ _ counters,
        memory_afterReads _ _ counters]
  have counters : ((card.afterReads 0).afterReads reads).counters =
      (card.afterReads (reads + 1)).counters := by
    funext later
    change (card.afterReads 0).counters (reads + 1 + later) = card.counters (reads + 1 + 1 + later)
    rw [shifted, Nat.add_right_comm]
  exact (SteadyCard.mk.injEq _ _ _ _).mpr ⟨memory, counters⟩

private theorem returns_poll {card : SteadyCard} {bank : Bank} (settles : card.Settles bank)
    (handle : Nat) :
    ∃ reads bytes, device.Returns
      (.poll (.areaRead ⟨.processingMe, 8, handle⟩ (4 * bank.val) 4) stillInUse .done) card
      (some bytes) (card.afterReads reads) := by
  obtain ⟨reads, zero⟩ := settles
  have answered : ∀ card : SteadyCard,
      card.answer (.areaRead ⟨.processingMe, 8, handle⟩ (4 * bank.val) 4) =
        (some ((card.afterReads 0).memory.read .processingMe (4 * bank.val) 4),
          card.afterReads 0) :=
    fun _ => rfl
  have read : ∀ card : SteadyCard, stillInUse
      (some ((card.afterReads 0).memory.read .processingMe (4 * bank.val) 4)) =
        decide (card.inUseAt 0 bank ≠ 0) :=
    fun _ => rfl
  have leaves : ∀ card : SteadyCard, card.inUseAt 0 bank = 0 → device.Returns
      (.poll (.areaRead ⟨.processingMe, 8, handle⟩ (4 * bank.val) 4) stillInUse .done) card
      (some ((card.afterReads 0).memory.read .processingMe (4 * bank.val) 4))
      (card.afterReads 0) := by
    intro card quiet
    refine .step (.leave ?_) ⟨rfl, rfl⟩ (.done _ _)
    rw [answered, read, quiet]
    rfl
  induction reads generalizing card with
  | zero => exact ⟨0, _, leaves card zero⟩
  | succ reads ih =>
      by_cases quiet : card.inUseAt 0 bank = 0
      · exact ⟨0, _, leaves card quiet⟩
      · have later : (card.afterReads 0).inUseAt reads bank = 0 := by
          unfold inUseAt
          rw [afterReads_afterReads]
          exact zero
        obtain ⟨more, bytes, rest⟩ := ih later
        rw [afterReads_afterReads] at rest
        refine ⟨more + 1, bytes, .step (.again ?_) ⟨rfl, rfl⟩ rest⟩
        rw [answered, read]
        exact decide_eq_true quiet

private theorem returns_awaitQuiescence {card : SteadyCard} {bank : Bank}
    (settles : card.Settles bank) :
    ∃ reads, device.Returns (awaitQuiescence bank) card true (card.afterReads reads) := by
  obtain ⟨reads, bytes, polled⟩ := returns_poll settles 0
  exact ⟨reads, (returns_openArea card .processingMe 8).bind (polled.bind
    ((returns_call _ (.areaReleaseFree ⟨.processingMe, 8, 0⟩)).bind (.done _ _)))⟩

/-! ### A drain -/

def withMemory (card : SteadyCard) (memory : Memory) : SteadyCard := { card with memory := memory }

private theorem returns_areaFill (card : SteadyCard) (area : Area) (offset : Nat) (value : UInt32)
    (length : Nat) :
    device.Returns (areaFill area offset value length) card true
      (card.withMemory (card.memory.fill area.region offset value length)) :=
  returns_call card (.areaFill area offset value length)

private theorem returns_releaseFree (card : SteadyCard) (area : Area) :
    device.Returns (areaReleaseFree area) card () card :=
  returns_call card (.areaReleaseFree area)

/-- The entry of a flow slot, as it is in memory. -/
def flowEntry (memory : Memory) (bank : Bank) (slot : Nat) : FlowData :=
  SmartNicReader.entryOf slot (memory.read (.flowKey bank) (slot * recordSize) recordSize)
    (memory.read (.flowData bank) (slot * recordSize) recordSize)

private theorem returns_collect_flow (card : SteadyCard) (bank : Bank) (keySize dataSize : Nat)
    (slots : List Nat) (result : List FlowData) :
    device.Returns
      (SmartNicReader.collect ⟨.flowKey bank, keySize, 0⟩ ⟨.flowData bank, dataSize, 0⟩ slots
        result) card (result ++ slots.map (flowEntry card.memory bank)) card := by
  induction slots generalizing result with
  | nil =>
      rw [List.map_nil, List.append_nil]
      exact .done _ _
  | cons slot slots ih =>
      have rest := ih (result ++ [flowEntry card.memory bank slot])
      rw [List.append_assoc] at rest
      have key := @returns_areaRead card ⟨.flowKey bank, keySize, 0⟩ (by simp)
        (slot * recordSize) recordSize
      have data := @returns_areaRead card ⟨.flowData bank, dataSize, 0⟩ (by simp)
        (slot * recordSize) recordSize
      exact key.bind (data.bind rest)

/-- Memory after the fills at the end of a flow drain. -/
def drainedFlows (reader : SmartNicReader) (bank : Bank) (memory : Memory) : Memory :=
  ((memory.fill (.flowKey bank) 0 kDataClearValue reader.keySize).fill (.flowData bank) 0
    kDataClearValue reader.dataSize).fill (.flowSem bank) 0 kSemUnlockValue reader.semSize

private theorem returns_drain_flow (card : SteadyCard) (reader : SmartNicReader) (bank : Bank) :
    device.Returns (reader.drain bank) card
      ((haveData reader.slotCount (card.memory.read (.flowSem bank) 0 reader.semSize)).map
        (flowEntry card.memory bank))
      (card.withMemory (drainedFlows reader bank card.memory)) := by
  have semaphores := @returns_areaRead card ⟨.flowSem bank, reader.semSize, 0⟩ (by simp) 0
    reader.semSize
  apply Returns.bind (returns_openArea card (.flowSem bank) reader.semSize)
  apply Returns.bind semaphores
  apply Returns.bind (returns_openArea card (.flowKey bank) reader.keySize)
  apply Returns.bind (returns_openArea card (.flowData bank) reader.dataSize)
  apply Returns.bind (returns_collect_flow card bank reader.keySize reader.dataSize _ [])
  apply Returns.bind (returns_areaFill card ⟨.flowKey bank, reader.keySize, 0⟩ 0 kDataClearValue
    reader.keySize)
  apply Returns.bind (returns_areaFill _ ⟨.flowData bank, reader.dataSize, 0⟩ 0 kDataClearValue
    reader.dataSize)
  apply Returns.bind (returns_areaFill _ ⟨.flowSem bank, reader.semSize, 0⟩ 0 kSemUnlockValue
    reader.semSize)
  exact (returns_releaseFree _ _).bind ((returns_releaseFree _ _).bind
    ((returns_releaseFree _ _).bind (.done _ _)))

def counterEntry (memory : Memory) (bank : Bank) (slot : Nat) : CounterData :=
  CounterReader.entryOf slot (memory.read (.counterData bank) (slot * recordSize) recordSize)

private theorem returns_collect_counters (card : SteadyCard) (bank : Bank) (dataSize : Nat)
    (slots : List Nat) (result : List CounterData) :
    device.Returns (CounterReader.collect ⟨.counterData bank, dataSize, 0⟩ slots result) card
      (result ++ slots.map (counterEntry card.memory bank)) card := by
  induction slots generalizing result with
  | nil =>
      rw [List.map_nil, List.append_nil]
      exact .done _ _
  | cons slot slots ih =>
      have rest := ih (result ++ [counterEntry card.memory bank slot])
      rw [List.append_assoc] at rest
      have data := @returns_areaRead card ⟨.counterData bank, dataSize, 0⟩ (by simp)
        (slot * recordSize) recordSize
      exact data.bind rest

def drainedCounters (reader : CounterReader) (bank : Bank) (memory : Memory) : Memory :=
  (memory.fill (.counterData bank) 0 kDataClearValue reader.dataSize).fill (.counterSem bank) 0
    kSemUnlockValue reader.semSize

private theorem returns_drain_counters (card : SteadyCard) (reader : CounterReader) (bank : Bank) :
    device.Returns (reader.drain bank) card
      ((haveData reader.slotCount (card.memory.read (.counterSem bank) 0 reader.semSize)).map
        (counterEntry card.memory bank))
      (card.withMemory (drainedCounters reader bank card.memory)) := by
  have semaphores := @returns_areaRead card ⟨.counterSem bank, reader.semSize, 0⟩ (by simp) 0
    reader.semSize
  apply Returns.bind (returns_openArea card (.counterSem bank) reader.semSize)
  apply Returns.bind semaphores
  apply Returns.bind (returns_openArea card (.counterData bank) reader.dataSize)
  apply Returns.bind (returns_collect_counters card bank reader.dataSize _ [])
  apply Returns.bind (returns_areaFill card ⟨.counterData bank, reader.dataSize, 0⟩ 0
    kDataClearValue reader.dataSize)
  apply Returns.bind (returns_areaFill _ ⟨.counterSem bank, reader.semSize, 0⟩ 0 kSemUnlockValue
    reader.semSize)
  exact (returns_releaseFree _ _).bind ((returns_releaseFree _ _).bind (.done _ _))

/-! ### The two calls -/

/-- The card after the state word was switched and the retired bank fell quiet. -/
def retired (card : SteadyCard) (reads : Nat) : SteadyCard :=
  (card.withMemory (card.memory.write .curState 0
    (encode 4 (otherBank card.memory.activeBank).val))).afterReads reads

theorem returns_readFlowData {card : SteadyCard} {reader : SmartNicReader}
    (opened : reader.cpp = true) (slots : 0 < reader.slotCount)
    (settles : card.Settles card.memory.activeBank) :
    ∃ reads, device.Returns reader.readFlowData card
      ((haveData reader.slotCount ((card.retired reads).memory.read
        (.flowSem card.memory.activeBank) 0 reader.semSize)).map
          (flowEntry (card.retired reads).memory card.memory.activeBank))
      ((card.retired reads).withMemory
        (drainedFlows reader card.memory.activeBank (card.retired reads).memory)) := by
  have settlesSwitched : (card.withMemory (card.memory.write .curState 0
      (encode 4 (otherBank card.memory.activeBank).val))).Settles card.memory.activeBank :=
    settles
  obtain ⟨reads, waited⟩ := returns_awaitQuiescence settlesSwitched
  refine ⟨reads, ?_⟩
  unfold SmartNicReader.readFlowData
  rw [if_neg (by simp [opened, slots.ne'])]
  apply Returns.bind (returns_openArea card .curState 4)
  apply Returns.bind (@returns_areaRead card ⟨.curState, 4, 0⟩ (by simp) 0 4)
  apply Returns.bind (returns_call card (.areaWrite ⟨.curState, 4, 0⟩ 0
    (encode 4 (otherBank card.memory.activeBank).val)))
  apply Returns.bind (returns_releaseFree _ _)
  exact waited.bind (returns_drain_flow _ reader card.memory.activeBank)

private theorem returns_readCounterData {card : SteadyCard} {reader : CounterReader} {bank : Bank}
    (opened : reader.cpp = true) (slots : 0 < reader.slotCount)
    (active : otherBank card.memory.activeBank = bank) (settles : card.Settles bank) :
    ∃ reads, device.Returns reader.readCounterData card
      ((haveData reader.slotCount ((card.afterReads reads).memory.read (.counterSem bank) 0
        reader.semSize)).map (counterEntry (card.afterReads reads).memory bank))
      ((card.afterReads reads).withMemory
        (drainedCounters reader bank (card.afterReads reads).memory)) := by
  obtain ⟨reads, waited⟩ := returns_awaitQuiescence settles
  refine ⟨reads, ?_⟩
  unfold CounterReader.readCounterData
  rw [if_neg (by simp [opened, slots.ne'])]
  apply Returns.bind (returns_openArea card .curState 4)
  apply Returns.bind (@returns_areaRead card ⟨.curState, 4, 0⟩ (by simp) 0 4)
  apply Returns.bind (returns_releaseFree _ _)
  subst active
  exact waited.bind (returns_drain_counters _ reader _)

/-! ### Both calls of a tick -/

private theorem drainedFlows_apply (reader : SmartNicReader) (bank : Bank) (memory : Memory)
    (region : Region) (position : Nat) :
    drainedFlows reader bank memory region position =
      if region ∈ (flowStore bank).regions ∧ position < reader.slotCount * region.entrySize then 0
      else memory region position := by
  unfold drainedFlows kDataClearValue kSemUnlockValue
  rw [Memory.fill_zero_apply, Memory.fill_zero_apply, Memory.fill_zero_apply]
  simp only [flowStore, Store.regions, List.mem_cons, List.not_mem_nil, or_false]
  by_cases semaphores : region = .flowSem bank
  · simp [semaphores, Region.entrySize, SmartNicReader.semSize]
  · by_cases keys : region = .flowKey bank
    · simp [keys, Region.entrySize, SmartNicReader.keySize]
    · by_cases data : region = .flowData bank
      · simp [data, Region.entrySize, SmartNicReader.dataSize]
      · simp [semaphores, keys, data]

private theorem drainedCounters_apply (reader : CounterReader) (bank : Bank) (memory : Memory)
    (region : Region) (position : Nat) :
    drainedCounters reader bank memory region position =
      if region ∈ (counterStore bank).regions ∧
        position < reader.slotCount * region.entrySize then 0
      else memory region position := by
  unfold drainedCounters kDataClearValue kSemUnlockValue
  rw [Memory.fill_zero_apply, Memory.fill_zero_apply]
  simp only [counterStore, Store.regions, List.mem_cons, List.not_mem_nil, or_false]
  by_cases semaphores : region = .counterSem bank
  · simp [semaphores, Region.entrySize, CounterReader.semSize]
  · by_cases data : region = .counterData bank
    · simp [data, Region.entrySize, CounterReader.dataSize]
    · simp [semaphores, data]

/-- The in-use counters are as the firmware left them at the last read. -/
def CountersLeft (before after : SteadyCard) : Prop :=
  ∃ reads, after.memory .processingMe = before.counters reads ∧
    ∀ later, after.counters later = before.counters (reads + 1 + later)

/-- The bank that was active is drained of its flows, and the other one is active. -/
structure FlowsDrained (slotCount : Nat) (before after : SteadyCard) (entries : List FlowData) :
    Prop where
  drained : BankDrained (flowStore before.memory.activeBank) slotCount
    [.curState, .processingMe] before.memory after.memory (entries.map flowCarried)
  switched : after.memory.word .curState 0 = (otherBank before.memory.activeBank).val
  counters : CountersLeft before after

structure CountersDrained (slotCount : Nat) (bank : Bank) (before after : SteadyCard)
    (entries : List CounterData) : Prop where
  drained : BankDrained (counterStore bank) slotCount [.processingMe] before.memory after.memory
    (entries.map counterCarried)
  counters : CountersLeft before after

private theorem flowCarried_flowEntry (memory : Memory) (bank : Bank) (slot : Nat) :
    flowCarried (flowEntry memory bank slot) =
      ⟨.ofNat slot, (flowStore bank).record memory slot⟩ :=
  flowCarried_entryOf slot (Memory.length_read _ _ _ _) (Memory.length_read _ _ _ _)

private theorem counterCarried_counterEntry (memory : Memory) (bank : Bank) (slot : Nat) :
    counterCarried (counterEntry memory bank slot) =
      ⟨.ofNat slot, (counterStore bank).record memory slot⟩ :=
  counterCarried_entryOf slot (Memory.length_read _ _ _ _)

theorem memory_retired (card : SteadyCard) (reads : Nat) {region : Region}
    (unmoved : region ∉ [Region.curState, Region.processingMe]) :
    (card.retired reads).memory region = card.memory region := by
  rw [List.mem_pair, not_or] at unmoved
  unfold retired
  rw [memory_afterReads _ _ unmoved.2]
  funext position
  exact Memory.write_of_ne unmoved.1 _ _ position

private theorem curState_retired (card : SteadyCard) (reads : Nat) :
    (card.retired reads).memory.word .curState 0 = (otherBank card.memory.activeBank).val := by
  have kept : ∀ position, (card.retired reads).memory .curState position =
      card.memory.write .curState 0 (encode 4 (otherBank card.memory.activeBank).val)
        .curState position := by
    intro position
    unfold retired
    rw [memory_afterReads _ _ (by simp)]
    rfl
  have bound : (otherBank card.memory.activeBank).val < 2 ^ 32 :=
    (otherBank card.memory.activeBank).isLt.trans (by norm_num)
  rw [Memory.word_congr kept, Memory.word_write_same _ _ _ bound]

theorem readFlowData_exact {card : SteadyCard} {reader : SmartNicReader}
    (opened : reader.cpp = true) (slots : 0 < reader.slotCount)
    (settles : card.Settles card.memory.activeBank) :
    ∃ entries after, device.ReturnsOnly reader.readFlowData card entries after ∧
      FlowsDrained reader.slotCount card after entries := by
  obtain ⟨reads, returns⟩ := returns_readFlowData opened slots settles
  have applied := drainedFlows_apply reader card.memory.activeBank (card.retired reads).memory
  have untouched : ∀ region, region ∉ (flowStore card.memory.activeBank).regions →
      ∀ position, drainedFlows reader card.memory.activeBank (card.retired reads).memory region
        position = (card.retired reads).memory region position := by
    intro region other position
    rw [applied, if_neg (fun inside => other inside.1)]
  refine ⟨_, _, returns.only device_deterministic, ?_, ?_, ?_⟩
  · refine bankDrained_of_apply ?_ (fun region => memory_retired card reads) applied ?_
    · simp [flowStore, Store.regions]
    · rw [List.map_map, ← haveData_semaphores]
      exact List.map_congr_left fun slot _ => flowCarried_flowEntry _ _ slot
  · rw [← curState_retired card reads]
    exact Memory.word_congr (untouched .curState (by simp [flowStore, Store.regions]))
  · refine ⟨reads, ?_, fun later => rfl⟩
    funext position
    exact untouched .processingMe (by simp [flowStore, Store.regions]) position

theorem readCounterData_exact {card : SteadyCard} {reader : CounterReader} {bank : Bank}
    (opened : reader.cpp = true) (slots : 0 < reader.slotCount)
    (active : otherBank card.memory.activeBank = bank) (settles : card.Settles bank) :
    ∃ entries after, device.ReturnsOnly reader.readCounterData card entries after ∧
      CountersDrained reader.slotCount bank card after entries := by
  obtain ⟨reads, returns⟩ := returns_readCounterData opened slots active settles
  have applied := drainedCounters_apply reader bank (card.afterReads reads).memory
  refine ⟨_, _, returns.only device_deterministic, ?_, ?_⟩
  · refine bankDrained_of_apply ?_ ?_ applied ?_
    · simp [counterStore, Store.regions]
    · intro region unmoved
      exact memory_afterReads card reads (fun same => unmoved (List.mem_singleton.mpr same))
    · rw [List.map_map, ← haveData_semaphores]
      exact List.map_congr_left fun slot _ => counterCarried_counterEntry _ _ slot
  · refine ⟨reads, ?_, fun later => rfl⟩
    funext position
    change drainedCounters reader bank (card.afterReads reads).memory .processingMe position = _
    rw [applied, if_neg (by simp [counterStore, Store.regions])]
    rfl

theorem otherBank_of_switched {memory : Memory} {bank : Bank}
    (switched : memory.word .curState 0 = (otherBank bank).val) :
    otherBank memory.activeBank = bank := by
  have back : ∀ bank : Bank, otherBank (bankOf (otherBank bank).val) = bank := by decide
  unfold Memory.activeBank
  rw [switched]
  exact back bank

end SteadyCard

open SteadyCard

/-- A tick's two calls return exactly the ready slots of the bank that was active, clear that
bank and switch to the other one, and touch nothing else. -/
theorem drains_exact (flows : SmartNicReader) (counters : CounterReader)
    (opened : flows.cpp = true ∧ counters.cpp = true)
    (slots : 0 < flows.slotCount ∧ 0 < counters.slotCount) (card : SteadyCard)
    (settles : card.Settles card.memory.activeBank) :
    ∃ entries after, device.ReturnsOnly flows.readFlowData card entries after ∧
      FlowsDrained flows.slotCount card after entries ∧
      (after.Settles card.memory.activeBank → ∃ counted last,
        device.ReturnsOnly counters.readCounterData after counted last ∧
        CountersDrained counters.slotCount card.memory.activeBank after last counted) := by
  obtain ⟨entries, after, returns, drained⟩ := readFlowData_exact opened.1 slots.1 settles
  refine ⟨entries, after, returns, drained, ?_⟩
  intro settlesAgain
  exact readCounterData_exact opened.2 slots.2 (otherBank_of_switched drained.switched)
    settlesAgain

/-- A ready flow slot and a ready counter slot in a card of zeros, and a context that leaves
before the second read. -/
def busyOnce : SteadyCard where
  memory region position :=
    if region = .flowSem .primary ∧ position = 4 ∨ region = .counterSem .primary ∧ position = 0
    then 3 else 0
  counters reads position := if reads = 0 ∧ position = 0 then 1 else 0

theorem busyOnce_counters (reads position : Nat) : busyOnce.counters (reads + 1) position = 0 := by
  simp [busyOnce]

private theorem busyOnce_settles {after : SteadyCard} (left : CountersLeft busyOnce after)
    (bank : Bank) :
    after.Settles bank := by
  obtain ⟨reads, _, later⟩ := left
  refine ⟨0, word_zero_of_read (List.eq_replicate_iff.mpr ⟨Memory.length_read _ _ _ _, ?_⟩)⟩
  intro byte member
  obtain ⟨index, _, rfl⟩ := List.mem_map.mp member
  change after.counters 0 (4 * bank.val + index) = 0
  rw [later]
  exact busyOnce_counters reads _

theorem drains_exact_busyOnce :
    ∃ entries after counted last,
      device.ReturnsOnly (SmartNicReader.readFlowData ⟨true, 2⟩) busyOnce entries after ∧
        device.ReturnsOnly (CounterReader.readCounterData ⟨true, 1⟩) after counted last ∧
        entries.length = 1 ∧ counted.length = 1 ∧ after.memory.word .curState 0 = 1 := by
  have settles : busyOnce.Settles busyOnce.memory.activeBank := ⟨1, by decide⟩
  obtain ⟨entries, after, returns, drained, counts⟩ := drains_exact ⟨true, 2⟩ ⟨true, 1⟩
    ⟨rfl, rfl⟩ (by decide) busyOnce settles
  obtain ⟨counted, last, countersReturn, countersDrained⟩ :=
    counts (busyOnce_settles drained.counters _)
  have flowCount := congrArg List.length drained.drained.returned
  rw [List.length_map, List.length_map] at flowCount
  have ready : ((flowStore busyOnce.memory.activeBank).readySlots 2
      busyOnce.memory).length = 1 := by
    decide
  -- The flow reader leaves the semaphores of the counters as they were.
  have kept : after.memory (.counterSem .primary) = busyOnce.memory (.counterSem .primary) :=
    drained.drained.others _ (by decide) (by decide)
  have counterCount := congrArg List.length countersDrained.drained.returned
  rw [List.length_map, List.length_map,
    @Store.readySlots_congr (counterStore busyOnce.memory.activeBank) _ _ kept] at counterCount
  have readyCounters : ((counterStore busyOnce.memory.activeBank).readySlots 1
      busyOnce.memory).length = 1 := by
    decide
  have active : (otherBank busyOnce.memory.activeBank).val = 1 := by decide
  exact ⟨entries, after, counted, last, returns, countersReturn, flowCount.trans ready,
    counterCount.trans readyCounters, drained.switched.trans active⟩

end SflowMiddle.Card

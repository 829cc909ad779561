/-
Both readers with failing calls. Each call of either keeps the result and the bank
it drains settled against what came back and what was cleared, so a returned call
has delivered or kept every ready record exactly when no fill destroyed one that
had not come back.
-/

import SflowMiddle.Card.Delivery

namespace SflowMiddle.Card

open SflowMiddle.Foundation
open Device

/-! ### The flow reader -/

/-- The bank is the one that was active before the call, and still untouched. -/
def FlowUntouched (memory : Memory) (bank : Bank) (state : CallState) : Prop :=
  bank = memory.activeBank ∧ Untouched (flowStore bank) memory state

def FlowCollecting (memory : Memory) (slotCount : Nat) (bank : Bank) (slots : List Nat)
    (result : List FlowData) (state : CallState) : Prop :=
  bank = memory.activeBank ∧
    Collecting (flowStore bank) memory slotCount (.flowData bank) slots
      (result.map flowCarried) state

def FlowSettled (memory : Memory) (slotCount : Nat) (bank : Bank) (result : List FlowData)
    (state : CallState) : Prop :=
  bank = memory.activeBank ∧
    Settled (flowStore bank) memory slotCount (result.map flowCarried) state

private theorem flowUntouched_settled {memory : Memory} {slotCount : Nat} {bank : Bank}
    {state : CallState} (untouched : FlowUntouched memory bank state) :
    FlowSettled memory slotCount memory.activeBank [] state := by
  obtain ⟨rfl, untouched⟩ := untouched
  exact ⟨rfl, untouched.settled (flowStore_wellFormed _).nonempty⟩

def deliveringFlow (memory : Memory) (reader : SmartNicReader) :
    FlowOutline isolatedCard reader where
  idle state := state.memory = memory ∧ FlowUntouched memory memory.activeBank state
  selected := FlowUntouched memory
  retired := FlowUntouched memory
  quiet := FlowUntouched memory
  collecting := FlowCollecting memory reader.slotCount
  keyed bank slot key slots result state :=
    FlowCollecting memory reader.slotCount bank (slot :: slots) result state ∧
      key = memory.read (.flowKey bank) (slot * recordSize) recordSize ∧
      (.flowKey bank, slot * recordSize) ∈ state.fetched
  keyCleared := FlowSettled memory reader.slotCount
  dataCleared := FlowSettled memory reader.slotCount
  returned := FlowSettled memory reader.slotCount memory.activeBank
  idle_holding := isolated_holding _
  selected_holding _ := isolated_holding _
  retired_holding _ := isolated_holding _
  quiet_holding _ := isolated_holding _
  collecting_holding _ _ _ := isolated_holding _
  keyed_holding _ _ _ _ _ := isolated_holding _
  keyCleared_holding _ _ := isolated_holding _
  dataCleared_holding _ _ := isolated_holding _
  returned_holding _ := isolated_holding _
  idle_returned _ idle := flowUntouched_settled idle.2
  retired_returned _ _ := flowUntouched_settled
  quiet_returned _ _ := flowUntouched_settled
  collecting_returned := by
    rintro bank slots state ⟨rfl, collecting⟩
    exact ⟨rfl, collecting.settled⟩
  readState handle := by
    apply isolated_moves
    rintro reply state result ⟨same, untouched⟩ effect
    have after := untouched.2.read (by simp [flowStore]) effect
    rcases effect with ⟨rfl, rfl⟩ | ⟨bytes, rfl, answered, rfl⟩
    · exact flowUntouched_settled untouched
    · rcases answered with impossible | read
      · cases impossible
      · have active : bankOf (decode bytes) = memory.activeBank := by
          rw [read, same]
          rfl
        change FlowUntouched memory (bankOf (decode bytes)) _
        rw [active]
        exact ⟨rfl, after⟩
  writeState bank handle := by
    apply isolated_moves
    rintro reply state result ⟨rfl, untouched⟩ effect
    have after := untouched.write (by simp [Store.regions, flowStore]) effect
    cases reply with
    | false => exact flowUntouched_settled ⟨rfl, after⟩
    | true => exact ⟨rfl, after⟩
  readInUse bank handle := by
    apply isolated_readInUse
    · rintro reply state result ⟨rfl, untouched⟩ effect
      exact ⟨rfl, untouched.read (by simp [flowStore]) effect⟩
    · exact fun _ => flowUntouched_settled
  readSemaphores bank handle := by
    apply isolated_moves
    rintro reply state result ⟨rfl, untouched⟩ effect
    rcases untouched.readSemaphores (flowStore_wellFormed _)
      (List.mem_cons_of_mem _ List.mem_cons_self) nofun rfl effect with
      ⟨rfl, after⟩ | ⟨bytes, rfl, collecting⟩
    · exact flowUntouched_settled ⟨rfl, after⟩
    · exact ⟨rfl, collecting⟩
  readKey bank handle slot slots result := by
    apply isolated_moves
    rintro reply state after ⟨rfl, collecting⟩ effect
    rcases effect with ⟨rfl, rfl⟩ | ⟨bytes, rfl, answered, rfl⟩
    · exact ⟨rfl, collecting.skip⟩
    · rcases answered with impossible | read
      · cases impossible
      · refine ⟨⟨rfl, collecting.fetch_part (by simp [flowStore]) (by simp)⟩, ?_,
          List.mem_cons_self⟩
        rw [read]
        exact collecting.read (by simp [flowStore]) _ _
  readData bank handle slot key slots result := by
    apply isolated_moves
    rintro reply state after ⟨⟨rfl, collecting⟩, keyRead, keyFetched⟩ effect
    have others : ∀ region ∈ (flowStore memory.activeBank).payload,
        region = .flowData memory.activeBank ∨
          (region, slot * recordSize) ∈ state.fetched := by
      intro region member
      simp only [flowStore, List.mem_cons, List.not_mem_nil, or_false] at member
      rcases member with rfl | rfl
      · exact Or.inr keyFetched
      · exact Or.inl rfl
    rcases collecting.readLast (List.mem_cons_of_mem _ List.mem_cons_self) nofun others
      effect with ⟨rfl, skipped⟩ | ⟨rfl, fetched⟩
    · exact ⟨rfl, skipped⟩
    · refine ⟨rfl, ?_⟩
      rw [List.map_append, List.map_singleton, keyRead, flowCarried_entryOf slot
        (Memory.length_read _ _ _ _) (Memory.length_read _ _ _ _)]
      exact fetched
  clearKeys bank handle result := by
    apply isolated_moves
    rintro reply state after ⟨rfl, collecting⟩ effect
    exact ⟨rfl, collecting.settled.fill effect⟩
  clearData bank handle result := by
    apply isolated_moves
    rintro reply state after ⟨rfl, settled⟩ effect
    exact ⟨rfl, settled.fill effect⟩
  clearSemaphores bank handle result := by
    apply isolated_moves
    rintro reply state after ⟨rfl, settled⟩ effect
    exact ⟨rfl, settled.fill effect⟩

/-! ### The counter reader -/

def CounterUntouched (memory : Memory) (bank : Bank) (state : CallState) : Prop :=
  bank = otherBank memory.activeBank ∧ Untouched (counterStore bank) memory state

def CounterCollecting (memory : Memory) (slotCount : Nat) (bank : Bank) (slots : List Nat)
    (result : List CounterData) (state : CallState) : Prop :=
  bank = otherBank memory.activeBank ∧
    Collecting (counterStore bank) memory slotCount (.counterData bank) slots
      (result.map counterCarried) state

def CounterSettled (memory : Memory) (slotCount : Nat) (bank : Bank) (result : List CounterData)
    (state : CallState) : Prop :=
  bank = otherBank memory.activeBank ∧
    Settled (counterStore bank) memory slotCount (result.map counterCarried) state

private theorem counterUntouched_settled {memory : Memory} {slotCount : Nat} {bank : Bank}
    {state : CallState} (untouched : CounterUntouched memory bank state) :
    CounterSettled memory slotCount (otherBank memory.activeBank) [] state := by
  obtain ⟨rfl, untouched⟩ := untouched
  exact ⟨rfl, untouched.settled (counterStore_wellFormed _).nonempty⟩

def deliveringCounter (memory : Memory) (reader : CounterReader) :
    CounterOutline isolatedCard reader where
  idle state := state.memory = memory ∧
    CounterUntouched memory (otherBank memory.activeBank) state
  retired := CounterUntouched memory
  quiet := CounterUntouched memory
  collecting := CounterCollecting memory reader.slotCount
  dataCleared := CounterSettled memory reader.slotCount
  returned := CounterSettled memory reader.slotCount (otherBank memory.activeBank)
  idle_holding := isolated_holding _
  retired_holding _ := isolated_holding _
  quiet_holding _ := isolated_holding _
  collecting_holding _ _ _ := isolated_holding _
  dataCleared_holding _ _ := isolated_holding _
  returned_holding _ := isolated_holding _
  idle_returned _ idle := counterUntouched_settled idle.2
  retired_returned _ _ := counterUntouched_settled
  quiet_returned _ _ := counterUntouched_settled
  collecting_returned := by
    rintro bank slots state ⟨rfl, collecting⟩
    exact ⟨rfl, collecting.settled⟩
  readState handle := by
    apply isolated_moves
    rintro reply state result ⟨same, untouched⟩ effect
    have after := untouched.2.read (by simp [counterStore]) effect
    rcases effect with ⟨rfl, rfl⟩ | ⟨bytes, rfl, answered, rfl⟩
    · exact counterUntouched_settled untouched
    · rcases answered with impossible | read
      · cases impossible
      · have active : bankOf (decode bytes) = memory.activeBank := by
          rw [read, same]
          rfl
        change CounterUntouched memory (otherBank (bankOf (decode bytes))) _
        rw [active]
        exact ⟨rfl, after⟩
  readInUse bank handle := by
    apply isolated_readInUse
    · rintro reply state result ⟨rfl, untouched⟩ effect
      exact ⟨rfl, untouched.read (by simp [counterStore]) effect⟩
    · exact fun _ => counterUntouched_settled
  readSemaphores bank handle := by
    apply isolated_moves
    rintro reply state result ⟨rfl, untouched⟩ effect
    rcases untouched.readSemaphores (counterStore_wellFormed _) List.mem_cons_self nofun rfl
      effect with ⟨rfl, after⟩ | ⟨bytes, rfl, collecting⟩
    · exact counterUntouched_settled ⟨rfl, after⟩
    · exact ⟨rfl, collecting⟩
  readData bank handle slot slots result := by
    apply isolated_moves
    rintro reply state after ⟨rfl, collecting⟩ effect
    have others : ∀ region ∈ (counterStore (otherBank memory.activeBank)).payload,
        region = .counterData (otherBank memory.activeBank) ∨
          (region, slot * recordSize) ∈ state.fetched :=
      fun region member => Or.inl (List.mem_singleton.mp member)
    rcases collecting.readLast List.mem_cons_self nofun others effect with
      ⟨rfl, skipped⟩ | ⟨rfl, fetched⟩
    · exact ⟨rfl, skipped⟩
    · refine ⟨rfl, ?_⟩
      rw [List.map_append, List.map_singleton, counterCarried_entryOf slot
        (Memory.length_read _ _ _ _)]
      exact fetched
  clearData bank handle result := by
    apply isolated_moves
    rintro reply state after ⟨rfl, collecting⟩ effect
    exact ⟨rfl, collecting.settled.fill effect⟩
  clearSemaphores bank handle result := by
    apply isolated_moves
    rintro reply state after ⟨rfl, settled⟩ effect
    exact ⟨rfl, settled.fill effect⟩

/-! ### Ready records under failing calls -/

private theorem untouched_start (store : Store) (memory : Memory) :
    Untouched store memory { memory := memory } where
  same := fun _ _ _ => rfl
  uncleared := fun _ _ => List.not_mem_nil
  unfetched := fun _ _ _ => List.not_mem_nil

/-- Whatever the calls answered: every ready record of the retired bank is delivered or
kept if and only if the call spares it. -/
theorem ready_records_delivered_iff (memory : Memory) :
    (∀ (reader : SmartNicReader) result after,
        isolatedCard.device.Returns reader.readFlowData { memory := memory } result after →
        (Delivered (flowStore memory.activeBank) memory reader.slotCount
            (result.map flowCarried) after.memory ↔
          CallSpares (flowStore memory.activeBank) memory reader.slotCount after)) ∧
      ∀ (reader : CounterReader) result after,
        isolatedCard.device.Returns reader.readCounterData { memory := memory } result after →
        (Delivered (counterStore (otherBank memory.activeBank)) memory reader.slotCount
            (result.map counterCarried) after.memory ↔
          CallSpares (counterStore (otherBank memory.activeBank)) memory reader.slotCount
            after) := by
  constructor
  · intro reader result after returns
    have settled := Meets.returns returns (deliveringFlow memory reader).meets_readFlowData
      ⟨rfl, rfl, untouched_start _ memory⟩
    exact settled.2.delivered_iff (flowStore_wellFormed _)
  · intro reader result after returns
    have settled := Meets.returns returns
      (deliveringCounter memory reader).meets_readCounterData
      ⟨rfl, rfl, untouched_start _ memory⟩
    exact settled.2.delivered_iff (counterStore_wellFormed _)

/-! ### Two calls on a bank with one ready record -/

def CallState.answer (state : CallState) : (call : NfpCall) → Outcome → call.Reply × CallState
  | .areaRead area offset length, .succeeds =>
      (some (state.memory.read area.region offset length),
        { state with fetched := (area.region, offset) :: state.fetched })
  | .areaRead _ _ _, _ => (none, state)
  | .areaFill area offset value length, outcome =>
      (decide (outcome = .succeeds),
        if outcome = .fails then state
        else
          { state with
            memory := state.memory.fill area.region offset value length
            cleared := area.region :: state.cleared })
  | call, outcome =>
      ((call.answer state.memory outcome).1,
        { state with memory := (call.answer state.memory outcome).2 })

private theorem CallState.answer_effect (state : CallState) (call : NfpCall) (outcome : Outcome) :
    CallEffect state call (state.answer call outcome).1 (state.answer call outcome).2 := by
  cases call with
  | areaRead area offset length =>
      cases outcome with
      | succeeds => exact Or.inr ⟨_, rfl, Or.inr rfl, rfl⟩
      | fails => exact Or.inl ⟨rfl, rfl⟩
      | failsAfterwards => exact Or.inl ⟨rfl, rfl⟩
  | areaWrite area offset bytes =>
      cases outcome with
      | succeeds => exact Or.inl rfl
      | fails => exact Or.inr ⟨rfl, rfl⟩
      | failsAfterwards => exact Or.inl rfl
  | areaFill area offset value length =>
      cases outcome with
      | succeeds => exact Or.inl rfl
      | fails => exact Or.inr ⟨rfl, rfl⟩
      | failsAfterwards => exact Or.inl rfl
  | areaAlloc region size => cases outcome <;> rfl
  | areaAcquire area => rfl
  | areaFree area => rfl
  | areaReleaseFree area => rfl

/-- Bank 0 is active, and its only slot is ready with a key of ones. -/
def readyMemory : Memory := fun region position =>
  match region with
  | .flowSem 0 => if position = 0 then 3 else 0
  | .flowKey 0 => 1
  | _ => 0

/-- One call of the flow reader on that bank, answered by a list of outcomes. -/
def readyCall (outcomes : List Outcome) : Option (List FlowData × CallState) :=
  ({ slotCount := 1 } : SmartNicReader).readFlowData.replay CallState.answer outcomes
    { memory := readyMemory }

private theorem returns_readyCall {outcomes : List Outcome}
    (replayed : (readyCall outcomes).isSome) :
    isolatedCard.device.Returns ({ slotCount := 1 } : SmartNicReader).readFlowData
      { memory := readyMemory } ((readyCall outcomes).get replayed).1
      ((readyCall outcomes).get replayed).2 :=
  returns_of_advance CallState.answer_effect
    (Program.advance_of_replay (Option.some_get replayed).symm)

/-- With no failing call the record comes back. -/
theorem ready_records_delivered_iff_allSucceed :
    ∃ result after, isolatedCard.device.Returns
        ({ slotCount := 1 } : SmartNicReader).readFlowData { memory := readyMemory } result
        after ∧
      Delivered (flowStore readyMemory.activeBank) readyMemory 1 (result.map flowCarried)
        after.memory := by
  have replayed : (readyCall (List.replicate 24 .succeeds)).isSome := by decide +kernel
  have fetched : ∀ region ∈ (flowStore readyMemory.activeBank).payload,
      (region, 0 * recordSize) ∈ ((readyCall _).get replayed).2.fetched := by
    decide +kernel +revert
  have returns := returns_readyCall replayed
  refine ⟨_, _, returns,
    ((ready_records_delivered_iff readyMemory).1 { slotCount := 1 } _ _ returns).mpr ?_⟩
  intro slot bound ready
  obtain rfl : slot = 0 := Nat.lt_one_iff.mp bound
  exact Or.inl ⟨0, bound, ready, rfl, rfl, fetched⟩

/-- When the data of the slot cannot be read, the slot is skipped and the bank is wiped:
the record is neither returned nor left on the card. -/
theorem skipped_record_destroyed :
    ∃ result after, isolatedCard.device.Returns
        ({ slotCount := 1 } : SmartNicReader).readFlowData { memory := readyMemory } result
        after ∧
      ¬ Delivered (flowStore readyMemory.activeBank) readyMemory 1 (result.map flowCarried)
        after.memory := by
  have replayed : (readyCall
      (List.replicate 17 .succeeds ++ .fails :: List.replicate 6 .succeeds)).isSome := by
    decide +kernel
  have nothing : ((readyCall _).get replayed).1 = [] := by decide +kernel +revert
  have wiped : ¬ (flowStore readyMemory.activeBank).Ready
      ((readyCall _).get replayed).2.memory 0 := by decide +kernel +revert
  have ready : (flowStore readyMemory.activeBank).Ready readyMemory 0 := by decide +kernel
  refine ⟨_, _, returns_readyCall replayed, ?_⟩
  intro delivered
  rcases delivered 0 Nat.zero_lt_one ready with ⟨item, member, _⟩ | ⟨kept, _⟩
  · rw [nothing] at member
    cases member
  · exact wiped kept

end SflowMiddle.Card

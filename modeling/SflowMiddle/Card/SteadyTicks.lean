/-
Tick after tick on a card whose calls succeed. Between ticks the firmware fills free
slots of the active bank; a tick takes everything ready in the active bank and makes
the other one active. Over any such run no record is lost or returned twice, and two
ticks in a row leave nothing behind.
-/

import SflowMiddle.Card.ExactDrain
import SflowMiddle.Foundation.TransitionSystem

namespace SflowMiddle.Card

open SflowMiddle.Foundation
open Device
open SteadyCard

def readBoth (flows : SmartNicReader) (counters : CounterReader) :
    Program NfpCall NfpCall.Reply (List FlowData × List CounterData) :=
  flows.readFlowData >>= fun entries =>
    counters.readCounterData >>= fun counted => .done (entries, counted)

/-! ### The ready records of a bank -/

namespace Store

/-- What a drain of the bank would return. -/
def records (store : Store) (slotCount : Nat) (memory : Memory) : List Carried :=
  (store.readySlots slotCount memory).map fun slot => ⟨.ofNat slot, store.record memory slot⟩

variable {store : Store} {slotCount : Nat} {before after : Memory}

private theorem mem_readySlots {memory : Memory} {slot : Nat} :
    slot ∈ store.readySlots slotCount memory ↔ slot < slotCount ∧ store.Ready memory slot := by
  unfold readySlots
  rw [List.mem_filter, List.mem_range, decide_eq_true_eq]

private theorem nodup_readySlots (store : Store) (slotCount : Nat) (memory : Memory) :
    (store.readySlots slotCount memory).Nodup :=
  List.nodup_range.filter _

private theorem records_congr (same : ∀ region ∈ store.regions, after region = before region) :
    store.records slotCount after = store.records slotCount before := by
  have ready := readySlots_congr (same _ List.mem_cons_self) slotCount
  have record : ∀ slot, store.record after slot = store.record before slot :=
    fun slot => record_congr fun region member => Memory.read_congr fun position _ _ =>
      congrFun (same region (List.mem_cons_of_mem _ member)) position
  unfold records
  rw [ready]
  simp only [record]

private theorem records_of_cleared (size : store.semaphores.entrySize = 4)
    (cleared : ∀ position, position < slotCount * store.semaphores.entrySize →
      after store.semaphores position = 0) : store.records slotCount after = [] := by
  have none : store.readySlots slotCount after = [] := by
    refine List.filter_eq_nil_iff.mpr ?_
    intro slot member
    have bound := List.mem_range.mp member
    have zero : after.read store.semaphores (4 * slot) 4 = List.replicate 4 0 := by
      refine List.eq_replicate_iff.mpr ⟨Memory.length_read _ _ _ _, ?_⟩
      intro byte present
      obtain ⟨index, within, rfl⟩ := List.mem_map.mp present
      have small := List.mem_range.mp within
      exact cleared _ (by rw [size]; omega)
    rw [decide_eq_true_eq]
    unfold Ready
    rw [word_zero_of_read zero]
    decide
  unfold records
  rw [none]
  rfl

end Store

def readyRecords (stores : Bank → Store) (slotCount : Nat) (memory : Memory) : List Carried :=
  (stores .primary).records slotCount memory ++ (stores .dup).records slotCount memory

theorem readyRecords_perm (stores : Bank → Store) (slotCount : Nat) (memory : Memory)
    (bank : Bank) : (readyRecords stores slotCount memory).Perm
      ((stores bank).records slotCount memory ++
        (stores (otherBank bank)).records slotCount memory) := by
  have cases : bank = .primary ∨ bank = .dup := by
    revert bank
    decide
  rcases cases with rfl | rfl
  · exact .refl _
  · exact List.perm_append_comm

/-! ### What a tick takes -/

/-- The ready records of one bank are returned, and it alone is emptied. -/
structure BankTaken (stores : Bank → Store) (slotCount : Nat) (bank : Bank)
    (before after : Memory) (carried : List Carried) : Prop where
  returned : carried = (stores bank).records slotCount before
  cleared : (stores bank).records slotCount after = []
  kept : (stores (otherBank bank)).records slotCount after =
    (stores (otherBank bank)).records slotCount before

theorem BankTaken.conserves {stores : Bank → Store} {slotCount : Nat} {bank : Bank}
    {before after : Memory} {carried : List Carried}
    (taken : BankTaken stores slotCount bank before after carried) :
    (carried ++ readyRecords stores slotCount after).Perm
      (readyRecords stores slotCount before) := by
  have later := readyRecords_perm stores slotCount after bank
  rw [taken.cleared, taken.kept, List.nil_append] at later
  have earlier := readyRecords_perm stores slotCount before bank
  rw [taken.returned]
  exact (later.append_left _).trans earlier.symm

private theorem BankTaken.congr {stores : Bank → Store} {slotCount : Nat} {bank : Bank}
    {before after earlier later : Memory} {carried : List Carried}
    (taken : BankTaken stores slotCount bank before after carried)
    (unmoved : ∀ bank, ∀ region ∈ (stores bank).regions, before region = earlier region)
    (left : ∀ bank, ∀ region ∈ (stores bank).regions, later region = after region) :
    BankTaken stores slotCount bank earlier later carried where
  returned := taken.returned.trans (Store.records_congr (unmoved bank))
  cleared := (Store.records_congr (left bank)).trans taken.cleared
  kept := (Store.records_congr (left _)).trans
    (taken.kept.trans (Store.records_congr (unmoved _)))

private theorem BankDrained.taken {stores : Bank → Store} {slotCount : Nat} {bank : Bank}
    {moved : List Region} {before after : Memory} {carried : List Carried}
    (drained : BankDrained (stores bank) slotCount moved before after carried)
    (size : (stores bank).semaphores.entrySize = 4)
    (apart : ∀ region ∈ (stores (otherBank bank)).regions,
      region ∉ (stores bank).regions ∧ region ∉ moved) :
    BankTaken stores slotCount bank before after carried where
  returned := drained.returned
  cleared := Store.records_of_cleared size (drained.cleared _ List.mem_cons_self)
  kept := Store.records_congr fun region member =>
    drained.others region (apart region member).1 (apart region member).2

private theorem flowStore_apart (bank : Bank) {region : Region}
    (member : region ∈ (flowStore (otherBank bank)).regions) :
    region ∉ (flowStore bank).regions := by
  simp only [flowStore, Store.regions, List.mem_cons, List.not_mem_nil, or_false] at member ⊢
  rcases member with rfl | rfl | rfl <;> simp

private theorem counterStore_apart (bank : Bank) {region : Region}
    (member : region ∈ (counterStore (otherBank bank)).regions) :
    region ∉ (counterStore bank).regions := by
  simp only [counterStore, Store.regions, List.mem_cons, List.not_mem_nil, or_false] at member ⊢
  rcases member with rfl | rfl <;> simp

/-- The in-use counters of both banks read zero again and again. -/
def KeepsSettling (card : SteadyCard) : Prop :=
  ∀ bank start, ∃ reads, card.inUseAt (start + reads) bank = 0

private theorem KeepsSettling.settles {card : SteadyCard} (settling : KeepsSettling card)
    (bank : Bank) :
    card.Settles bank := by
  obtain ⟨reads, zero⟩ := settling bank 0
  exact ⟨_, zero⟩

private theorem KeepsSettling.left {before after : SteadyCard} (settling : KeepsSettling before)
    (left : CountersLeft before after) : KeepsSettling after := by
  obtain ⟨passed, _, later⟩ := left
  intro bank start
  obtain ⟨reads, zero⟩ := settling bank (passed + 1 + start)
  refine ⟨reads, ?_⟩
  have counters : (after.afterReads (start + reads)).memory .processingMe =
      (before.afterReads (passed + 1 + start + reads)).memory .processingMe := by
    rw [counters_afterReads, counters_afterReads, later, Nat.add_assoc (passed + 1)]
  have word := @Memory.word_congr _ _ .processingMe (4 * bank.val)
    (fun position => congrFun counters position)
  exact word.trans zero

/-- Both calls of a tick return, with everything that was ready in the active bank; that bank
is emptied, and the other one is active. -/
structure TickTaken (flows : SmartNicReader) (counters : CounterReader)
    (before after : SteadyCard) (entries : List FlowData) (counted : List CounterData) : Prop where
  flows : BankTaken flowStore flows.slotCount before.memory.activeBank before.memory after.memory
    (entries.map flowCarried)
  counters : BankTaken counterStore counters.slotCount before.memory.activeBank before.memory
    after.memory (counted.map counterCarried)
  switched : after.memory.activeBank = otherBank before.memory.activeBank
  settling : KeepsSettling after

private theorem activeBank_of_switched {memory : Memory} {bank : Bank}
    (switched : memory.word .curState 0 = (otherBank bank).val) :
    memory.activeBank = otherBank bank := by
  have back : ∀ bank : Bank, bankOf (otherBank bank).val = otherBank bank := by decide
  unfold Memory.activeBank
  rw [switched]
  exact back bank

/-- On a card whose calls succeed a tick returns, and takes one bank. -/
theorem tick_takes {flows : SmartNicReader} {counters : CounterReader}
    (opened : flows.cpp = true ∧ counters.cpp = true)
    (slots : 0 < flows.slotCount ∧ 0 < counters.slotCount) {card : SteadyCard}
    (settling : KeepsSettling card) :
    ∃ entries counted after,
      device.ReturnsOnly (readBoth flows counters) card (entries, counted) after ∧
        TickTaken flows counters card after entries counted := by
  obtain ⟨entries, middle, flowsReturn, flowsDrained⟩ :=
    readFlowData_exact opened.1 slots.1 (settling.settles card.memory.activeBank)
  have settlingMiddle := settling.left flowsDrained.counters
  obtain ⟨counted, after, countersReturn, countersDrained⟩ :=
    readCounterData_exact opened.2 slots.2 (otherBank_of_switched flowsDrained.switched)
      (settlingMiddle.settles card.memory.activeBank)
  have both : device.Returns (readBoth flows counters) card (entries, counted) after :=
    flowsReturn.returns.bind (countersReturn.returns.bind (.done _ _))
  -- Neither drain moves a region of the other reader.
  have flowsKept : ∀ bank, ∀ region ∈ (flowStore bank).regions,
      after.memory region = middle.memory region := by
    intro bank region member
    apply countersDrained.drained.others <;>
      simp only [flowStore, counterStore, Store.regions, List.mem_cons, List.not_mem_nil,
        or_false] at member ⊢ <;>
      rcases member with rfl | rfl | rfl <;> simp
  have countersKept : ∀ bank, ∀ region ∈ (counterStore bank).regions,
      middle.memory region = card.memory region := by
    intro bank region member
    apply flowsDrained.drained.others <;>
      simp only [flowStore, counterStore, Store.regions, List.mem_cons, List.not_mem_nil,
        or_false] at member ⊢ <;>
      rcases member with rfl | rfl <;> simp
  have flowsTaken : BankTaken flowStore flows.slotCount card.memory.activeBank card.memory
      middle.memory (entries.map flowCarried) := by
    refine flowsDrained.drained.taken rfl ?_
    intro region member
    refine ⟨flowStore_apart _ member, ?_⟩
    simp only [flowStore, Store.regions, List.mem_cons, List.not_mem_nil, or_false] at member
    rcases member with rfl | rfl | rfl <;> simp
  have countersTaken : BankTaken counterStore counters.slotCount card.memory.activeBank
      middle.memory after.memory (counted.map counterCarried) := by
    refine countersDrained.drained.taken rfl ?_
    intro region member
    refine ⟨counterStore_apart _ member, ?_⟩
    simp only [counterStore, Store.regions, List.mem_cons, List.not_mem_nil, or_false] at member
    rcases member with rfl | rfl <;> simp
  have stateKept : after.memory .curState = middle.memory .curState :=
    countersDrained.drained.others _ (by simp [counterStore, Store.regions]) (by simp)
  have switched : after.memory.word .curState 0 = (otherBank card.memory.activeBank).val :=
    (Memory.word_congr fun position => congrFun stateKept position).trans flowsDrained.switched
  exact ⟨entries, counted, after, both.only device_deterministic,
    flowsTaken.congr (fun _ _ _ => rfl) flowsKept,
    countersTaken.congr countersKept (fun _ _ _ => rfl),
    activeBank_of_switched switched, settlingMiddle.left countersDrained.counters⟩

/-! ### What the firmware adds between ticks -/

/-- Free slots of one bank are filled and made ready, each once. What was ready there stays as
it is, and so does the other bank. -/
structure BankFilled (stores : Bank → Store) (slotCount : Nat) (bank : Bank)
    (before after : Memory) (slots : List Nat) : Prop where
  once : slots.Nodup
  within : ∀ slot ∈ slots, slot < slotCount
  free : ∀ slot ∈ slots,
    before.word (stores bank).semaphores (4 * slot) = kSemUnlockValue.toNat
  filled : ∀ slot ∈ slots, (stores bank).Ready after slot
  unfilled : ∀ slot, slot ∉ slots →
    ((stores bank).Ready after slot ↔ (stores bank).Ready before slot)
  unwritten : ∀ slot, (stores bank).Ready before slot →
    (stores bank).record after slot = (stores bank).record before slot
  elsewhere : ∀ region ∈ (stores (otherBank bank)).regions, after region = before region

namespace BankFilled

variable {stores : Bank → Store} {slotCount : Nat} {bank : Bank} {before after : Memory}
  {slots : List Nat}

private theorem not_ready (filled : BankFilled stores slotCount bank before after slots)
    {slot : Nat}
    (member : slot ∈ slots) : ¬(stores bank).Ready before slot := by
  intro ready
  have different : kSemUnlockValue.toNat ≠ kSemDataReady := by decide
  exact different ((filled.free slot member).symm.trans ready)

private theorem readySlots_perm (filled : BankFilled stores slotCount bank before after slots) :
    ((stores bank).readySlots slotCount after).Perm
      ((stores bank).readySlots slotCount before ++ slots) := by
  have apart : ((stores bank).readySlots slotCount before).Disjoint slots := by
    intro slot ready member
    exact filled.not_ready member (Store.mem_readySlots.mp ready).2
  refine (List.perm_ext_iff_of_nodup (Store.nodup_readySlots _ _ _)
    ((Store.nodup_readySlots _ _ _).append filled.once apart)).mpr ?_
  intro slot
  rw [List.mem_append, Store.mem_readySlots, Store.mem_readySlots]
  by_cases member : slot ∈ slots
  · simp only [member, or_true, iff_true]
    exact ⟨filled.within slot member, filled.filled slot member⟩
  · simp only [member, or_false, filled.unfilled slot member]

private theorem readyRecords_perm (filled : BankFilled stores slotCount bank before after slots) :
    (readyRecords stores slotCount after).Perm (readyRecords stores slotCount before ++
      slots.map fun slot => ⟨.ofNat slot, (stores bank).record after slot⟩) := by
  have unwritten : ((stores bank).readySlots slotCount before).map (fun slot =>
      (⟨.ofNat slot, (stores bank).record after slot⟩ : Carried)) =
        (stores bank).records slotCount before := by
    refine List.map_congr_left ?_
    intro slot member
    rw [filled.unwritten slot (Store.mem_readySlots.mp member).2]
  have added := filled.readySlots_perm.map fun slot =>
    (⟨.ofNat slot, (stores bank).record after slot⟩ : Carried)
  rw [List.map_append, unwritten] at added
  have later := SflowMiddle.Card.readyRecords_perm stores slotCount after bank
  have earlier := SflowMiddle.Card.readyRecords_perm stores slotCount before bank
  rw [Store.records_congr filled.elsewhere] at later
  refine later.trans ((added.append_right _).trans ?_)
  rw [List.append_assoc]
  refine (List.perm_append_comm.append_left _).trans ?_
  rw [← List.append_assoc]
  exact earlier.symm.append_right _

end BankFilled

/-- What the firmware does between two ticks, as the readers find it. -/
structure FirmwareFills (flows : SmartNicReader) (counters : CounterReader)
    (before after : SteadyCard) (flowSlots counterSlots : List Nat) : Prop where
  flows : BankFilled flowStore flows.slotCount before.memory.activeBank before.memory after.memory
    flowSlots
  counters : BankFilled counterStore counters.slotCount before.memory.activeBank before.memory
    after.memory counterSlots
  active : after.memory.activeBank = before.memory.activeBank
  settling : KeepsSettling after

/-! ### Runs of ticks -/

inductive SteadyAction where
  | tick (entries : List FlowData) (counted : List CounterData)
  | fill (flowRecords counterRecords : List Carried)

def SteadyStep (flows : SmartNicReader) (counters : CounterReader) :
    SteadyCard → SteadyAction → SteadyCard → Prop
  | before, .tick entries counted, after =>
      device.Returns (readBoth flows counters) before (entries, counted) after
  | before, .fill flowRecords counterRecords, after =>
      ∃ flowSlots counterSlots, FirmwareFills flows counters before after flowSlots counterSlots ∧
        flowRecords = flowSlots.map (fun slot =>
          ⟨.ofNat slot, (flowStore before.memory.activeBank).record after.memory slot⟩) ∧
        counterRecords = counterSlots.map (fun slot =>
          ⟨.ofNat slot, (counterStore before.memory.activeBank).record after.memory slot⟩)

/-- Any bytes may be in the banks, and any bank active, when the readers start. -/
def steadySystem (flows : SmartNicReader) (counters : CounterReader) :
    TransitionSystem SteadyCard SteadyAction where
  initial := KeepsSettling
  step := SteadyStep flows counters

namespace SteadyAction

def flowsReturned : SteadyAction → List Carried
  | tick entries _ => entries.map flowCarried
  | fill _ _ => []

def countersReturned : SteadyAction → List Carried
  | tick _ counted => counted.map counterCarried
  | fill _ _ => []

def flowsFilled : SteadyAction → List Carried
  | tick _ _ => []
  | fill flowRecords _ => flowRecords

def countersFilled : SteadyAction → List Carried
  | tick _ _ => []
  | fill _ counterRecords => counterRecords

end SteadyAction

section Runs

variable {flows : SmartNicReader} {counters : CounterReader}

theorem tickTaken_of_step (opened : flows.cpp = true ∧ counters.cpp = true)
    (slots : 0 < flows.slotCount ∧ 0 < counters.slotCount) {before after : SteadyCard}
    {entries : List FlowData} {counted : List CounterData} (settling : KeepsSettling before)
    (step : (steadySystem flows counters).step before (.tick entries counted) after) :
    TickTaken flows counters before after entries counted := by
  obtain ⟨others, othersCounted, last, returns, taken⟩ := tick_takes opened slots settling
  obtain ⟨values, rfl⟩ := returns.only _ _ step
  cases values
  exact taken

/-- Nothing is lost, and nothing is returned that was not ready. -/
def Accounted (stores : Bank → Store) (slotCount : Nat) (before after : Memory)
    (returned filled : List Carried) : Prop :=
  (returned ++ readyRecords stores slotCount after).Perm
    (readyRecords stores slotCount before ++ filled)

/-- The retired bank holds nothing that is ready. -/
def RetiredEmpty (flows : SmartNicReader) (counters : CounterReader) (memory : Memory) : Prop :=
  (flowStore (otherBank memory.activeBank)).records flows.slotCount memory = [] ∧
    (counterStore (otherBank memory.activeBank)).records counters.slotCount memory = []

private theorem TickTaken.retiredEmpty {before after : SteadyCard} {entries : List FlowData}
    {counted : List CounterData} (taken : TickTaken flows counters before after entries counted) :
    RetiredEmpty flows counters after.memory := by
  have back : ∀ bank : Bank, otherBank (otherBank bank) = bank := by decide
  unfold RetiredEmpty
  rw [taken.switched, back]
  exact ⟨taken.flows.cleared, taken.counters.cleared⟩

private theorem TickTaken.nothing_left {before after : SteadyCard} {entries : List FlowData}
    {counted : List CounterData} (taken : TickTaken flows counters before after entries counted)
    (empty : RetiredEmpty flows counters before.memory) :
    readyRecords flowStore flows.slotCount after.memory = [] ∧
      readyRecords counterStore counters.slotCount after.memory = [] := by
  have none : ∀ stores slotCount, (stores (otherBank before.memory.activeBank)).records slotCount
      after.memory = [] → (stores before.memory.activeBank).records slotCount after.memory = [] →
      readyRecords stores slotCount after.memory = [] := by
    intro stores slotCount other active
    have split := readyRecords_perm stores slotCount after.memory before.memory.activeBank
    rw [active, other] at split
    exact split.eq_nil
  exact ⟨none _ _ (taken.flows.kept.trans empty.1) taken.flows.cleared,
    none _ _ (taken.counters.kept.trans empty.2) taken.counters.cleared⟩

private theorem FirmwareFills.retiredEmpty {before after : SteadyCard}
    {flowSlots counterSlots : List Nat}
    (fills : FirmwareFills flows counters before after flowSlots counterSlots)
    (empty : RetiredEmpty flows counters before.memory) :
    RetiredEmpty flows counters after.memory := by
  unfold RetiredEmpty
  rw [fills.active, Store.records_congr fills.flows.elsewhere,
    Store.records_congr fills.counters.elsewhere]
  exact empty

theorem settling_step (opened : flows.cpp = true ∧ counters.cpp = true)
    (slots : 0 < flows.slotCount ∧ 0 < counters.slotCount) (before : SteadyCard)
    (action : SteadyAction) (after : SteadyCard)
    (step : (steadySystem flows counters).step before action after)
    (settling : KeepsSettling before) : KeepsSettling after := by
  cases action with
  | tick entries counted => exact (tickTaken_of_step opened slots settling step).settling
  | fill flowRecords counterRecords =>
      obtain ⟨flowSlots, counterSlots, fills, _⟩ := step
      exact fills.settling

private theorem retiredEmpty_step (opened : flows.cpp = true ∧ counters.cpp = true)
    (slots : 0 < flows.slotCount ∧ 0 < counters.slotCount) {before after : SteadyCard}
    {action : SteadyAction} (step : (steadySystem flows counters).step before action after)
    (settling : KeepsSettling before) (empty : RetiredEmpty flows counters before.memory) :
    RetiredEmpty flows counters after.memory := by
  cases action with
  | tick entries counted => exact (tickTaken_of_step opened slots settling step).retiredEmpty
  | fill flowRecords counterRecords =>
      obtain ⟨flowSlots, counterSlots, fills, _⟩ := step
      exact fills.retiredEmpty empty

theorem flows_accounted_step (opened : flows.cpp = true ∧ counters.cpp = true)
    (slots : 0 < flows.slotCount ∧ 0 < counters.slotCount) (before : SteadyCard)
    (action : SteadyAction) (after : SteadyCard)
    (step : (steadySystem flows counters).step before action after)
    (settling : KeepsSettling before) :
    Accounted flowStore flows.slotCount before.memory after.memory action.flowsReturned
      action.flowsFilled := by
  cases action with
  | tick entries counted =>
      have taken := tickTaken_of_step opened slots settling step
      simpa [Accounted, SteadyAction.flowsReturned, SteadyAction.flowsFilled] using
        taken.flows.conserves
  | fill flowRecords counterRecords =>
      obtain ⟨flowSlots, counterSlots, fills, rfl, rfl⟩ := step
      simpa [Accounted, SteadyAction.flowsReturned, SteadyAction.flowsFilled] using
        fills.flows.readyRecords_perm

theorem counters_accounted_step (opened : flows.cpp = true ∧ counters.cpp = true)
    (slots : 0 < flows.slotCount ∧ 0 < counters.slotCount) (before : SteadyCard)
    (action : SteadyAction) (after : SteadyCard)
    (step : (steadySystem flows counters).step before action after)
    (settling : KeepsSettling before) :
    Accounted counterStore counters.slotCount before.memory after.memory action.countersReturned
      action.countersFilled := by
  cases action with
  | tick entries counted =>
      have taken := tickTaken_of_step opened slots settling step
      simpa [Accounted, SteadyAction.countersReturned, SteadyAction.countersFilled] using
        taken.counters.conserves
  | fill flowRecords counterRecords =>
      obtain ⟨flowSlots, counterSlots, fills, rfl, rfl⟩ := step
      simpa [Accounted, SteadyAction.countersReturned, SteadyAction.countersFilled] using
        fills.counters.readyRecords_perm

/-- In any run of ticks, with anything the firmware makes ready in between, what was returned
and what is still ready are what was ready at first and what was made ready since: no record is
lost, none is returned twice, none is made up. -/
theorem every_record_delivered_or_ready (opened : flows.cpp = true ∧ counters.cpp = true)
    (slots : 0 < flows.slotCount ∧ 0 < counters.slotCount) {first last : SteadyCard}
    {actions : List SteadyAction} (settling : KeepsSettling first)
    (run : (steadySystem flows counters).Run first actions last) :
    Accounted flowStore flows.slotCount first.memory last.memory
        (actions.flatMap SteadyAction.flowsReturned) (actions.flatMap SteadyAction.flowsFilled) ∧
      Accounted counterStore counters.slotCount first.memory last.memory
        (actions.flatMap SteadyAction.countersReturned)
        (actions.flatMap SteadyAction.countersFilled) :=
  ⟨run.conserved (settling_step opened slots) (flows_accounted_step opened slots) settling,
    run.conserved (settling_step opened slots) (counters_accounted_step opened slots) settling⟩

end Runs

theorem busyOnce_keepsSettling : KeepsSettling busyOnce := by
  intro bank start
  refine ⟨1, ?_⟩
  unfold inUseAt Memory.inUse
  refine word_zero_of_read (List.eq_replicate_iff.mpr ⟨Memory.length_read _ _ _ _, ?_⟩)
  intro byte member
  obtain ⟨index, _, rfl⟩ := List.mem_map.mp member
  rw [counters_afterReads]
  exact busyOnce_counters start _

def busyTwice : SteadyCard :=
  busyOnce.withMemory (busyOnce.memory.write (.flowSem .primary) 0 (encode 4 kSemDataReady))

private theorem busyTwice_filled : FirmwareFills ⟨true, 2⟩ ⟨true, 1⟩ busyOnce busyTwice [0] [] where
  flows :=
    { once := by decide
      within := by decide
      free := by decide
      filled := by decide
      unfilled := by
        intro slot other
        have apart : slot ≠ 0 := fun same => other (List.mem_singleton.mpr same)
        refine Store.ready_write fun _ => Or.inr ?_
        rw [length_encode]
        omega
      unwritten := by
        intro slot _
        exact Store.record_write fun payload => absurd payload (by decide)
      elsewhere := by
        intro region member
        funext position
        refine Memory.write_of_ne ?_ _ _ _
        rintro rfl
        exact absurd member (by decide) }
  counters :=
    { once := List.nodup_nil
      within := by simp
      free := by simp
      filled := by simp
      unfilled := by
        intro slot _
        exact Store.ready_write fun same => (by cases same)
      unwritten := by
        intro slot _
        exact Store.record_write fun payload => absurd payload (by decide)
      elsewhere := by
        intro region member
        funext position
        refine Memory.write_of_ne ?_ _ _ _
        rintro rfl
        exact absurd member (by decide) }
  active := by decide
  settling := busyOnce_keepsSettling

/-- A tick takes the slot that was ready and the one made ready since. -/
theorem every_record_delivered_or_ready_busyTwice :
    ∃ filled entries counted last, (steadySystem ⟨true, 2⟩ ⟨true, 1⟩).Run busyOnce
        [.fill filled [], .tick entries counted] last ∧
      (entries.map flowCarried ++ readyRecords flowStore 2 last.memory).length = 2 := by
  obtain ⟨entries, counted, last, returns, _⟩ := @tick_takes ⟨true, 2⟩ ⟨true, 1⟩ ⟨rfl, rfl⟩
    (by decide) busyTwice busyTwice_filled.settling
  have filling : (steadySystem ⟨true, 2⟩ ⟨true, 1⟩).step busyOnce (.fill [⟨.ofNat 0,
      (flowStore busyOnce.memory.activeBank).record busyTwice.memory 0⟩] []) busyTwice :=
    ⟨[0], [], busyTwice_filled, rfl, rfl⟩
  have ticking : (steadySystem ⟨true, 2⟩ ⟨true, 1⟩).step busyTwice (.tick entries counted) last :=
    returns.returns
  have run := TransitionSystem.Run.move filling (.move ticking (.stay _))
  have accounted := every_record_delivered_or_ready ⟨rfl, rfl⟩ (by decide)
    busyOnce_keepsSettling run
  have count : (readyRecords flowStore 2 busyOnce.memory).length = 1 := by decide
  refine ⟨_, entries, counted, last, run, ?_⟩
  simpa [SteadyAction.flowsReturned, SteadyAction.flowsFilled, count] using accounted.1.length_eq

section Runs

variable {flows : SmartNicReader} {counters : CounterReader}

/-- A tick after an earlier tick leaves nothing behind: by then everything that was ready at
first, and everything made ready before, has been returned exactly once. -/
theorem delivered_by_second_tick (opened : flows.cpp = true ∧ counters.cpp = true)
    (slots : 0 < flows.slotCount ∧ 0 < counters.slotCount) {first last : SteadyCard}
    {actions earlier between : List SteadyAction} {entries others : List FlowData}
    {counted otherCounted : List CounterData} (settling : KeepsSettling first)
    (ticks : actions = earlier ++ .tick entries counted :: (between ++ [.tick others otherCounted]))
    (run : (steadySystem flows counters).Run first actions last) :
    (actions.flatMap SteadyAction.flowsReturned).Perm
        (readyRecords flowStore flows.slotCount first.memory ++
          actions.flatMap SteadyAction.flowsFilled) ∧
      (actions.flatMap SteadyAction.countersReturned).Perm
        (readyRecords counterStore counters.slotCount first.memory ++
          actions.flatMap SteadyAction.countersFilled) := by
  have flowsAll := run.conserved (settling_step opened slots) (flows_accounted_step opened slots)
    settling
  have countersAll := run.conserved (settling_step opened slots)
    (counters_accounted_step opened slots) settling
  rw [ticks] at run
  obtain ⟨before, begun, rest⟩ := run.of_append
  have settlingBefore := begun.invariant KeepsSettling (settling_step opened slots) settling
  cases rest with
  | move step rest =>
      have taken := tickTaken_of_step opened slots settlingBefore step
      obtain ⟨ticking, passed, ended⟩ := rest.of_append
      -- What the first of the two ticks emptied is still empty before the second.
      obtain ⟨settlingTicking, empty⟩ := passed.invariant
        (fun card => KeepsSettling card ∧ RetiredEmpty flows counters card.memory)
        (fun before action after step held => ⟨settling_step opened slots _ _ _ step held.1,
          retiredEmpty_step opened slots step held.1 held.2⟩)
        ⟨taken.settling, taken.retiredEmpty⟩
      cases ended with
      | move lastStep stay =>
          cases stay
          have lastTaken := tickTaken_of_step opened slots settlingTicking lastStep
          obtain ⟨noFlows, noCounters⟩ := lastTaken.nothing_left empty
          rw [noFlows, List.append_nil] at flowsAll
          rw [noCounters, List.append_nil] at countersAll
          exact ⟨flowsAll, countersAll⟩

end Runs

/-- Two ticks return the one slot of each kind, once. -/
theorem delivered_by_second_tick_busyOnce :
    ∃ entries counted others otherCounted last, (steadySystem ⟨true, 2⟩ ⟨true, 1⟩).Run busyOnce
        [.tick entries counted, .tick others otherCounted] last ∧
      (entries.map flowCarried ++ others.map flowCarried).length = 1 ∧
      (counted.map counterCarried ++ otherCounted.map counterCarried).length = 1 := by
  obtain ⟨entries, counted, middle, returns, taken⟩ := @tick_takes ⟨true, 2⟩ ⟨true, 1⟩ ⟨rfl, rfl⟩
    (by decide) busyOnce busyOnce_keepsSettling
  obtain ⟨others, otherCounted, last, returnsLater, _⟩ := @tick_takes ⟨true, 2⟩ ⟨true, 1⟩
    ⟨rfl, rfl⟩ (by decide) middle taken.settling
  have run : (steadySystem ⟨true, 2⟩ ⟨true, 1⟩).Run busyOnce
      [.tick entries counted, .tick others otherCounted] last :=
    .move returns.returns (.move returnsLater.returns (.stay _))
  have delivered := @delivered_by_second_tick ⟨true, 2⟩ ⟨true, 1⟩ ⟨rfl, rfl⟩ (by decide) _ _ _ []
    [] _ _ _ _ busyOnce_keepsSettling rfl run
  have flowCount : (readyRecords flowStore 2 busyOnce.memory).length = 1 := by decide
  have counterCount : (readyRecords counterStore 1 busyOnce.memory).length = 1 := by decide
  refine ⟨entries, counted, others, otherCounted, last, run, ?_, ?_⟩
  · simpa [SteadyAction.flowsReturned, SteadyAction.flowsFilled, flowCount] using
      delivered.1.length_eq
  · simpa [SteadyAction.countersReturned, SteadyAction.countersFilled, counterCount] using
      delivered.2.length_eq

end SflowMiddle.Card

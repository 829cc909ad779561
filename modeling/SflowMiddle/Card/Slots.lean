/-
A bank as an array of slots: a semaphore word and the records beside it. The flow
bank keeps a key and a data record for a slot, the counter bank one record; what
is said about either is said once here, with the records as a list of byte strings.
-/

import SflowMiddle.Card.Readers

namespace SflowMiddle.Card

open SflowMiddle.Foundation

structure Store where
  semaphores : Region
  payload : List Region

def flowStore (bank : Bank) : Store := ⟨.flowSem bank, [.flowKey bank, .flowData bank]⟩

def counterStore (bank : Bank) : Store := ⟨.counterSem bank, [.counterData bank]⟩

/-- Bytes of one slot in a region. -/
def Region.entrySize : Region → Nat
  | .flowSem _ => 4
  | .counterSem _ => 4
  | .curState => 4
  | .processingMe => 4
  | _ => recordSize

/-- What the rest of the development uses of the two stores. -/
structure Store.WellFormed (store : Store) : Prop where
  semaphoreSize : store.semaphores.entrySize = 4
  recordSizes : ∀ region ∈ store.payload, region.entrySize = recordSize
  apart : store.semaphores ∉ store.payload
  nonempty : store.payload ≠ []

theorem flowStore_wellFormed (bank : Bank) : (flowStore bank).WellFormed where
  semaphoreSize := rfl
  recordSizes := by
    intro region member
    simp only [flowStore, List.mem_cons, List.not_mem_nil, or_false] at member
    rcases member with rfl | rfl <;> rfl
  apart := by simp [flowStore]
  nonempty := List.cons_ne_nil _ _

theorem counterStore_wellFormed (bank : Bank) : (counterStore bank).WellFormed where
  semaphoreSize := rfl
  recordSizes := by
    intro region member
    simp only [counterStore, List.mem_singleton] at member
    rw [member]
    rfl
  apart := by simp [counterStore]
  nonempty := List.cons_ne_nil _ _

namespace Store

def regions (store : Store) : List Region := store.semaphores :: store.payload

def Ready (store : Store) (memory : Memory) (slot : Nat) : Prop :=
  memory.word store.semaphores (4 * slot) = kSemDataReady

instance (store : Store) (memory : Memory) (slot : Nat) : Decidable (store.Ready memory slot) :=
  inferInstanceAs (Decidable (_ = _))

def record (store : Store) (memory : Memory) (slot : Nat) : List (List UInt8) :=
  store.payload.map fun region => memory.read region (slot * recordSize) recordSize

theorem record_congr {store : Store} {before after : Memory} {slot : Nat}
    (same : ∀ region ∈ store.payload,
      after.read region (slot * recordSize) recordSize =
        before.read region (slot * recordSize) recordSize) :
    store.record after slot = store.record before slot :=
  List.map_congr_left same

theorem read_of_record_eq {store : Store} {before after : Memory} {slot : Nat}
    (same : store.record after slot = store.record before slot) :
    ∀ region ∈ store.payload,
      after.read region (slot * recordSize) recordSize =
        before.read region (slot * recordSize) recordSize :=
  List.map_inj_left.mp same

theorem ready_write {store : Store} {memory : Memory} {region : Region} {offset slot : Nat}
    {bytes : List UInt8}
    (beside : region = store.semaphores →
      4 * slot + 4 ≤ offset ∨ offset + bytes.length ≤ 4 * slot) :
    store.Ready (memory.write region offset bytes) slot ↔ store.Ready memory slot := by
  have same : (memory.write region offset bytes).word store.semaphores (4 * slot) =
      memory.word store.semaphores (4 * slot) := by
    unfold Memory.word
    by_cases equal : store.semaphores = region
    · subst equal
      rw [Memory.read_write_disjoint (beside rfl)]
    · rw [Memory.read_write_of_ne equal]
  unfold Ready
  rw [same]

theorem record_write {store : Store} {memory : Memory} {region : Region} {offset slot : Nat}
    {bytes : List UInt8}
    (beside : region ∈ store.payload →
      slot * recordSize + recordSize ≤ offset ∨ offset + bytes.length ≤ slot * recordSize) :
    store.record (memory.write region offset bytes) slot = store.record memory slot := by
  apply record_congr
  intro payload member
  by_cases equal : payload = region
  · subst equal
    exact Memory.read_write_disjoint (beside member)
  · exact Memory.read_write_of_ne equal _ _ _ _

end Store

theorem haveData_read (memory : Memory) (region : Region) (slotCount : Nat) :
    haveData slotCount (memory.read region 0 (slotCount * 4)) =
      (List.range slotCount).filter fun slot =>
        memory.word region (4 * slot) = kSemDataReady := by
  apply List.filter_congr
  intro slot member
  have bound := List.mem_range.mp member
  rw [Memory.field_read _ _ _ _ _ (by omega)]
  rfl

theorem mem_haveData (memory : Memory) (region : Region) (slotCount slot : Nat) :
    slot ∈ haveData slotCount (memory.read region 0 (slotCount * 4)) ↔
      slot < slotCount ∧ memory.word region (4 * slot) = kSemDataReady := by
  rw [haveData_read, List.mem_filter, List.mem_range, decide_eq_true_eq]

theorem nodup_haveData (slotCount : Nat) (semaphores : List UInt8) :
    (haveData slotCount semaphores).Nodup :=
  List.nodup_range.filter _

/-! ### Records on their way out -/

/-- A returned entry, as the slot index and the bytes it carries. -/
structure Carried where
  index : UInt32
  record : List (List UInt8)

def flowCarried (entry : FlowData) : Carried :=
  ⟨entry.index, [entry.key.toBytes, entry.data.toBytes]⟩

def counterCarried (entry : CounterData) : Carried :=
  ⟨entry.index, [entry.data.toBytes]⟩

theorem flowCarried_entryOf (slot : Nat) {key data : List UInt8}
    (keySize : key.length = recordSize) (dataSize : data.length = recordSize) :
    flowCarried (SmartNicReader.entryOf slot key data) = ⟨.ofNat slot, [key, data]⟩ := by
  unfold flowCarried SmartNicReader.entryOf
  rw [StoredFlowKey.toBytes_ofBytes keySize, StoredFlowData.toBytes_ofBytes dataSize]

theorem counterCarried_entryOf (slot : Nat) {data : List UInt8}
    (dataSize : data.length = recordSize) :
    counterCarried (CounterReader.entryOf slot data) = ⟨.ofNat slot, [data]⟩ := by
  unfold counterCarried CounterReader.entryOf
  rw [StoredCounter.toBytes_ofBytes dataSize]

/-! ### Zero fills over a whole region -/

theorem word_zero_of_read {memory : Memory} {region : Region} {offset : Nat}
    (zero : memory.read region offset 4 = List.replicate 4 0) : memory.word region offset = 0 := by
  unfold Memory.word
  rw [zero]
  rfl

end SflowMiddle.Card

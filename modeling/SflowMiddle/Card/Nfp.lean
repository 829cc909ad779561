/-
The card as libnfp shows it: the firmware symbols the readers use, each a region
of bytes, and the area calls on them. A transfer either moves all the bytes asked
for or counts as failed, since the readers compare the count it returns with the
length. A failed read changes nothing; a failed write or fill may have happened.
-/

import SflowMiddle.Foundation.DeviceProgram
import SflowMiddle.Foundation.LittleEndian
import Mathlib.Data.Fin.Basic
import Mathlib.Data.List.GetD

namespace SflowMiddle.Card

open SflowMiddle.Foundation

abbrev Bank := Fin 2

def Bank.primary : Bank := 0

def Bank.dup : Bank := 1

def otherBank (bank : Bank) : Bank := 1 - bank

@[simp]
theorem otherBank_ne (bank : Bank) : otherBank bank ≠ bank := by
  revert bank
  decide

theorem eq_of_ne_of_ne {first second active : Bank} (firstRetired : active ≠ first)
    (secondRetired : active ≠ second) : first = second := by
  revert first second active
  decide

inductive Region where
  | curState
  | processingMe
  | flowSem (bank : Bank)
  | flowKey (bank : Bank)
  | flowData (bank : Bank)
  | counterSem (bank : Bank)
  | counterData (bank : Bank)
  deriving DecidableEq, Repr

def Region.bank? : Region → Option Bank
  | .curState => none
  | .processingMe => none
  | .flowSem bank => some bank
  | .flowKey bank => some bank
  | .flowData bank => some bank
  | .counterSem bank => some bank
  | .counterData bank => some bank

/-! ### Memory -/

abbrev Memory := Region → Nat → UInt8

namespace Memory

def read (memory : Memory) (region : Region) (offset length : Nat) : List UInt8 :=
  (List.range length).map fun index => memory region (offset + index)

def write (memory : Memory) (region : Region) (offset : Nat) (bytes : List UInt8) : Memory :=
  fun other position =>
    if other = region ∧ offset ≤ position ∧ position < offset + bytes.length then
      bytes.getD (position - offset) 0
    else memory other position

/-- The fill repeats the four bytes of a 32-bit value. -/
def fill (memory : Memory) (region : Region) (offset : Nat) (value : UInt32) (length : Nat) :
    Memory :=
  memory.write region offset
    ((List.range length).map fun index => (encode 4 value.toNat).getD (index % 4) 0)

@[simp]
theorem length_read (memory : Memory) (region : Region) (offset length : Nat) :
    (memory.read region offset length).length = length := by
  simp [read]

theorem read_congr {before after : Memory} {region : Region} {offset length : Nat}
    (same : ∀ position, offset ≤ position → position < offset + length →
      after region position = before region position) :
    after.read region offset length = before.read region offset length := by
  unfold read
  apply List.map_congr_left
  intro index member
  have bound := List.mem_range.mp member
  exact same _ (by omega) (by omega)

theorem write_of_ne {memory : Memory} {region other : Region} (different : other ≠ region)
    (offset : Nat) (bytes : List UInt8) (position : Nat) :
    memory.write region offset bytes other position = memory other position :=
  if_neg fun inside => different inside.1

theorem read_write_of_ne {memory : Memory} {region other : Region} (different : other ≠ region)
    (writtenAt : Nat) (bytes : List UInt8) (offset length : Nat) :
    (memory.write region writtenAt bytes).read other offset length =
      memory.read other offset length :=
  read_congr fun position _ _ => write_of_ne different writtenAt bytes position

theorem read_fill_of_ne {memory : Memory} {region other : Region} (different : other ≠ region)
    (filledAt : Nat) (value : UInt32) (filled offset length : Nat) :
    (memory.fill region filledAt value filled).read other offset length =
      memory.read other offset length :=
  read_write_of_ne different filledAt _ offset length

theorem read_write_disjoint {memory : Memory} {region : Region} {writtenAt : Nat}
    {bytes : List UInt8} {offset length : Nat}
    (disjoint : offset + length ≤ writtenAt ∨ writtenAt + bytes.length ≤ offset) :
    (memory.write region writtenAt bytes).read region offset length =
      memory.read region offset length := by
  apply read_congr
  intro position low high
  exact if_neg fun inside => by omega

private theorem read_write_same (memory : Memory) (region : Region) (offset : Nat)
    (bytes : List UInt8) :
    (memory.write region offset bytes).read region offset bytes.length = bytes := by
  apply List.ext_getElem
  · simp
  · intro index left right
    simp [read, write, right]

private theorem read_drop_take (memory : Memory) (region : Region) (offset length skip width : Nat)
    (within : skip + width ≤ length) :
    ((memory.read region offset length).drop skip).take width =
      memory.read region (offset + skip) width := by
  apply List.ext_getElem
  · simp
    omega
  · intro index left right
    simp [read, Nat.add_assoc]

theorem field_read (memory : Memory) (region : Region) (length skip width : Nat)
    (within : skip + width ≤ length) :
    field (memory.read region 0 length) skip width = decode (memory.read region skip width) := by
  unfold field
  rw [read_drop_take _ _ _ _ _ _ within, Nat.zero_add]

theorem fill_eq_write (memory : Memory) (region : Region) (offset : Nat) (value : UInt32)
    (length : Nat) : ∃ bytes : List UInt8, bytes.length = length ∧
      memory.fill region offset value length = memory.write region offset bytes :=
  ⟨_, by simp, rfl⟩

theorem fill_zero_apply (memory : Memory) (region : Region) (filled : Nat) (other : Region)
    (position : Nat) :
    memory.fill region 0 0 filled other position =
      if other = region ∧ position < filled then 0 else memory other position := by
  have zero : ∀ place < 4, (encode 4 (0 : UInt32).toNat).getD place 0 = 0 := by decide
  simp only [fill, write, List.length_map, List.length_range, Nat.zero_add, Nat.zero_le,
    true_and, Nat.sub_zero]
  by_cases inside : other = region ∧ position < filled
  · rw [if_pos inside, if_pos inside, List.getD_eq_getElem _ _ (by simpa using inside.2)]
    simp only [List.getElem_map, List.getElem_range]
    exact zero _ (Nat.mod_lt _ (by norm_num))
  · rw [if_neg inside, if_neg inside]

theorem read_fill_zero (memory : Memory) (region : Region) {filled offset length : Nat}
    (within : offset + length ≤ filled) :
    (memory.fill region 0 0 filled).read region offset length = List.replicate length 0 := by
  apply List.ext_getElem
  · simp
  · intro index left right
    have low : index < length := by simpa using left
    have inside : offset + index < filled := by omega
    simp only [read, List.getElem_map, List.getElem_range, List.getElem_replicate]
    rw [fill_zero_apply, if_pos ⟨rfl, inside⟩]

end Memory

/-! ### Area calls -/

structure Area where
  region : Region
  size : Nat
  handle : Nat
  deriving DecidableEq, Repr

inductive NfpCall where
  | areaAlloc (region : Region) (size : Nat)
  | areaAcquire (area : Area)
  | areaRead (area : Area) (offset length : Nat)
  | areaWrite (area : Area) (offset : Nat) (bytes : List UInt8)
  | areaFill (area : Area) (offset : Nat) (value : UInt32) (length : Nat)
  | areaFree (area : Area)
  | areaReleaseFree (area : Area)

/-- A null handle, a negative status or a short count is `none` or `false`. -/
abbrev NfpCall.Reply : NfpCall → Type
  | .areaAlloc _ _ => Option Nat
  | .areaAcquire _ => Bool
  | .areaRead _ _ _ => Option (List UInt8)
  | .areaWrite _ _ _ => Bool
  | .areaFill _ _ _ _ => Bool
  | .areaFree _ => Unit
  | .areaReleaseFree _ => Unit

/-- What a call may answer and leave in memory. -/
def NfpCall.Leaves (before : Memory) : (call : NfpCall) → call.Reply → Memory → Prop
  | .areaRead area offset length, reply, after =>
      after = before ∧ (reply = none ∨ reply = some (before.read area.region offset length))
  | .areaWrite area offset bytes, reply, after =>
      after = before.write area.region offset bytes ∨ (reply = false ∧ after = before)
  | .areaFill area offset value length, reply, after =>
      after = before.fill area.region offset value length ∨ (reply = false ∧ after = before)
  | _, _, after => after = before

/-- Calls that manage areas without touching the card's memory. -/
def NfpCall.Housekeeping : NfpCall → Prop
  | .areaAlloc _ _ => True
  | .areaAcquire _ => True
  | .areaFree _ => True
  | .areaReleaseFree _ => True
  | _ => False

/-- The bank whose semaphores, records or counters a call reads or fills. -/
def NfpCall.bank? : NfpCall → Option Bank
  | .areaRead area _ _ => area.region.bank?
  | .areaWrite area _ _ => area.region.bank?
  | .areaFill area _ _ _ => area.region.bank?
  | _ => none

theorem NfpCall.Leaves.of_housekeeping {call : NfpCall} (housekeeping : call.Housekeeping)
    {before after : Memory} {reply : call.Reply} (leaves : call.Leaves before reply after) :
    after = before := by
  cases call with
  | areaRead | areaWrite | areaFill => cases housekeeping
  | _ => exact leaves

theorem NfpCall.bank?_of_housekeeping {call : NfpCall} (housekeeping : call.Housekeeping) :
    call.bank? = none := by
  cases call with
  | areaRead | areaWrite | areaFill => cases housekeeping
  | _ => rfl

/-- How one call goes: in full, or failing without or with its effect. -/
inductive Outcome where
  | succeeds
  | fails
  | failsAfterwards
  deriving DecidableEq, Repr

def NfpCall.answer (memory : Memory) : (call : NfpCall) → Outcome → call.Reply × Memory
  | .areaAlloc _ _, .succeeds => (some 0, memory)
  | .areaAlloc _ _, _ => (none, memory)
  | .areaAcquire _, outcome => (decide (outcome = .succeeds), memory)
  | .areaRead area offset length, .succeeds =>
      (some (memory.read area.region offset length), memory)
  | .areaRead _ _ _, _ => (none, memory)
  | .areaWrite area offset bytes, outcome =>
      (decide (outcome = .succeeds),
        if outcome = .fails then memory else memory.write area.region offset bytes)
  | .areaFill area offset value length, outcome =>
      (decide (outcome = .succeeds),
        if outcome = .fails then memory else memory.fill area.region offset value length)
  | .areaFree _, _ => ((), memory)
  | .areaReleaseFree _, _ => ((), memory)

theorem NfpCall.answer_leaves (memory : Memory) (call : NfpCall) (outcome : Outcome) :
    call.Leaves memory (call.answer memory outcome).1 (call.answer memory outcome).2 := by
  cases call with
  | areaRead area offset length =>
      cases outcome with
      | succeeds => exact ⟨rfl, Or.inr rfl⟩
      | fails => exact ⟨rfl, Or.inl rfl⟩
      | failsAfterwards => exact ⟨rfl, Or.inl rfl⟩
  | areaWrite area offset bytes =>
      cases outcome with
      | succeeds => exact Or.inl rfl
      | fails => exact Or.inr ⟨rfl, rfl⟩
      | failsAfterwards => exact Or.inl rfl
  | areaFill area offset value length =>
      cases outcome with
      | succeeds => exact Or.inl rfl
      | fails => exact Or.inr ⟨rfl, rfl⟩
      | failsAfterwards => exact Or.inl rfl
  | areaAlloc region size => cases outcome <;> rfl
  | areaAcquire area => rfl
  | areaFree area => rfl
  | areaReleaseFree area => rfl

/-! ### Words -/

/-- The 32-bit word at an offset, as the host and the firmware both read it. -/
def Memory.word (memory : Memory) (region : Region) (offset : Nat) : Nat :=
  decode (memory.read region offset 4)

/-- The bank a value of the state word selects. -/
def bankOf (value : Nat) : Bank := Fin.ofNat 2 value

def Memory.activeBank (memory : Memory) : Bank := bankOf (memory.word .curState 0)

def Memory.inUse (memory : Memory) (bank : Bank) : Nat :=
  memory.word .processingMe (4 * bank.val)

theorem Memory.word_write_same (memory : Memory) (region : Region) (offset : Nat) {value : Nat}
    (bound : value < 2 ^ 32) :
    (memory.write region offset (encode 4 value)).word region offset = value := by
  have read := memory.read_write_same region offset (encode 4 value)
  rw [length_encode] at read
  unfold Memory.word
  rw [read, decode_encode (by norm_num at bound ⊢; exact bound)]

theorem Memory.word_congr {before after : Memory} {region : Region} {offset : Nat}
    (same : ∀ position, after region position = before region position) :
    after.word region offset = before.word region offset := by
  unfold Memory.word
  rw [Memory.read_congr fun position _ _ => same position]

end SflowMiddle.Card

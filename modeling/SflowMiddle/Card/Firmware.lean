/-
The card with the firmware running on it. A context enters the active bank and
counts itself in, writes only slots of that bank, and counts itself out; only the
host writes the state word. The in-use counters are counted against the positions
of the contexts, with whatever offset they started with.
-/

import SflowMiddle.Card.Outline

namespace SflowMiddle.Card

open SflowMiddle.Foundation
open Device

/-- `flowBank` and `counterBank` remember, within one tick, the bank whose semaphores
each reader got as far as reading. -/
structure CardState where
  memory : Memory
  contexts : List (Option Bank)
  flowBank : Option Bank := none
  counterBank : Option Bank := none

/-- A context reads which bank is active and counts itself in. -/
def CardState.enter (card : CardState) (context : Nat) : CardState :=
  { card with
    contexts := card.contexts.set context (some card.memory.activeBank)
    memory := card.memory.write .processingMe (4 * card.memory.activeBank.val)
      (encode 4 ((card.memory.inUse card.memory.activeBank + 1) % 2 ^ 32)) }

def CardState.leave (card : CardState) (context : Nat) (bank : Bank) : CardState :=
  { card with
    contexts := card.contexts.set context none
    memory := card.memory.write .processingMe (4 * bank.val)
      (encode 4 ((card.memory.inUse bank + (2 ^ 32 - 1)) % 2 ^ 32)) }

def CardState.write (card : CardState) (region : Region) (offset : Nat) (bytes : List UInt8) :
    CardState :=
  { card with memory := card.memory.write region offset bytes }

inductive FirmwareStep : CardState → CardState → Prop where
  | enter {card : CardState} (context : Nat) (outside : card.contexts[context]? = some none) :
      FirmwareStep card (card.enter context)
  | write {card : CardState} (context : Nat) {bank : Bank} {region : Region} (offset : Nat)
      (bytes : List UInt8) (inside : card.contexts[context]? = some (some bank))
      (within : region.bank? = some bank) :
      FirmwareStep card (card.write region offset bytes)
  | leave {card : CardState} (context : Nat) {bank : Bank}
      (inside : card.contexts[context]? = some (some bank)) :
      FirmwareStep card (card.leave context bank)

def CardState.noted (card : CardState) : NfpCall → CardState
  | .areaRead ⟨.flowSem bank, _, _⟩ _ _ => { card with flowBank := some bank }
  | .areaRead ⟨.counterSem bank, _, _⟩ _ _ => { card with counterBank := some bank }
  | _ => card

def CardState.Outside (card : CardState) (bank : Bank) : Prop :=
  some bank ∉ card.contexts

def CardState.SameBank (card : CardState) : Prop :=
  ∀ flowBank counterBank, card.flowBank = some flowBank →
    card.counterBank = some counterBank → flowBank = counterBank

/-- What a call of the host does to the card, with failing calls as libnfp documents them. -/
def HostEffect (before : CardState) (call : NfpCall) (reply : call.Reply) (after : CardState) :
    Prop :=
  ∃ memory, call.Leaves before.memory reply memory ∧
    after = { before.noted call with memory := memory }

def Exclusive (card : CardState) (call : Option NfpCall) : Prop :=
  (∀ issued bank, call = some issued → issued.bank? = some bank → card.Outside bank) ∧
    card.SameBank

/-! ### State word and in-use counters -/

theorem activeBank_write_of_ne {memory : Memory} {region : Region} (different : region ≠ .curState)
    (offset : Nat) (bytes : List UInt8) :
    (memory.write region offset bytes).activeBank = memory.activeBank := by
  unfold Memory.activeBank Memory.word
  rw [Memory.read_write_of_ne different.symm]

theorem inUse_write_of_ne {memory : Memory} {region : Region} (different : region ≠ .processingMe)
    (offset : Nat) (bytes : List UInt8) (bank : Bank) :
    (memory.write region offset bytes).inUse bank = memory.inUse bank := by
  unfold Memory.inUse Memory.word
  rw [Memory.read_write_of_ne different.symm]

private theorem inUse_write_same (memory : Memory) (bank : Bank) {value : Nat}
    (bound : value < 2 ^ 32) :
    (memory.write .processingMe (4 * bank.val) (encode 4 value)).inUse bank = value :=
  Memory.word_write_same memory .processingMe (4 * bank.val) bound

private theorem inUse_write_other (memory : Memory) {bank other : Bank} (different : other ≠ bank)
    (value : Nat) :
    (memory.write .processingMe (4 * bank.val) (encode 4 value)).inUse other =
      memory.inUse other := by
  unfold Memory.inUse Memory.word
  have apart : other.val ≠ bank.val := fun same => different (Fin.ext same)
  rw [Memory.read_write_disjoint]
  rw [length_encode]
  omega

theorem bank?_ne_curState {region : Region} {bank : Bank} (within : region.bank? = some bank) :
    region ≠ .curState ∧ region ≠ .processingMe := by
  constructor <;> rintro rfl <;> cases within

theorem activeBank_flip (memory : Memory) (bank : Bank) :
    (memory.write .curState 0 (encode 4 (otherBank bank).val)).activeBank = otherBank bank := by
  have bound : (otherBank bank).val < 2 ^ 32 := by
    have small := (otherBank bank).isLt
    omega
  unfold Memory.activeBank
  rw [Memory.word_write_same memory .curState 0 bound]
  exact Fin.ext (Nat.mod_eq_of_lt (otherBank bank).isLt)

/-! ### Counting the contexts -/

/-- Each counter is the number of contexts inside plus a fixed offset, with room for
all of them; a bank a reader has noted in this tick is not the active one. -/
structure Consistent (offset : Bank → Nat) (card : CardState) : Prop where
  counted : ∀ bank, card.memory.inUse bank = card.contexts.count (some bank) + offset bank
  room : ∀ bank, offset bank + card.contexts.length < 2 ^ 32
  flowRetired : ∀ bank, card.flowBank = some bank → card.memory.activeBank ≠ bank
  counterRetired : ∀ bank, card.counterBank = some bank → card.memory.activeBank ≠ bank

theorem Consistent.sameBank {offset : Bank → Nat} {card : CardState}
    (consistent : Consistent offset card) : card.SameBank := by
  intro flowBank counterBank flowNoted counterNoted
  exact eq_of_ne_of_ne (consistent.flowRetired flowBank flowNoted)
    (consistent.counterRetired counterBank counterNoted)

theorem Consistent.outside_of_inUse_zero {offset : Bank → Nat} {card : CardState}
    (consistent : Consistent offset card) {bank : Bank} (zero : card.memory.inUse bank = 0) :
    card.Outside bank := by
  have counted := consistent.counted bank
  rw [zero] at counted
  exact List.count_eq_zero.mp (by omega)

theorem FirmwareStep.activeBank {before after : CardState} (step : FirmwareStep before after) :
    after.memory.activeBank = before.memory.activeBank := by
  cases step with
  | enter context outside => exact activeBank_write_of_ne (by decide) _ _
  | write context offset bytes inside within =>
      exact activeBank_write_of_ne (bank?_ne_curState within).1 _ _
  | leave context inside => exact activeBank_write_of_ne (by decide) _ _

theorem FirmwareStep.noted {before after : CardState} (step : FirmwareStep before after) :
    after.flowBank = before.flowBank ∧ after.counterBank = before.counterBank := by
  cases step <;> exact ⟨rfl, rfl⟩

/-- A context only ever enters the active bank. -/
theorem FirmwareStep.outside {before after : CardState} (step : FirmwareStep before after)
    {bank : Bank} (retired : before.memory.activeBank ≠ bank) (outside : before.Outside bank) :
    after.Outside bank := by
  cases step with
  | enter context isOutside =>
      intro member
      rcases List.mem_or_eq_of_mem_set member with inside | same
      · exact outside inside
      · exact retired (Option.some.inj same).symm
  | write context offset bytes inside within => exact outside
  | leave context inside =>
      intro member
      rcases List.mem_or_eq_of_mem_set member with still | same
      · exact outside still
      · cases same

private theorem count_set_of_getElem? {contexts : List (Option Bank)} {context : Nat}
    {before : Option Bank} (found : contexts[context]? = some before) (after : Option Bank)
    (bank : Bank) :
    (contexts.set context after).count (some bank) + (if before = some bank then 1 else 0) =
      contexts.count (some bank) + (if after = some bank then 1 else 0) := by
  obtain ⟨bound, same⟩ := List.getElem?_eq_some_iff.mp found
  have counted := List.count_set (a := after) (b := some bank) bound
  rw [same] at counted
  by_cases wasInside : before = some bank
  · have positive : 0 < contexts.count (some bank) :=
      List.count_pos_iff.mpr (by rw [← wasInside, ← same]; exact List.getElem_mem bound)
    simp only [wasInside, beq_self_eq_true, if_true, beq_iff_eq] at counted ⊢
    omega
  · simp only [wasInside, beq_iff_eq, if_false] at counted ⊢
    omega

private theorem Consistent.counted_enter {offset : Bank → Nat} {card : CardState}
    (consistent : Consistent offset card) {context : Nat}
    (outside : card.contexts[context]? = some none) (bank : Bank) :
    (card.enter context).memory.inUse bank =
      (card.enter context).contexts.count (some bank) + offset bank := by
  have counts := count_set_of_getElem? outside (some card.memory.activeBank) bank
  have counted := consistent.counted bank
  have room := consistent.room bank
  unfold CardState.enter
  dsimp only
  by_cases same : bank = card.memory.activeBank
  · subst same
    have below : card.contexts.count (some card.memory.activeBank) < card.contexts.length := by
      apply List.count_lt_length_iff.mpr
      exact ⟨none, List.mem_of_getElem? outside, by simp⟩
    have fits : card.memory.inUse card.memory.activeBank + 1 < 2 ^ 32 := by omega
    rw [Nat.mod_eq_of_lt fits, inUse_write_same _ _ fits]
    simp only [if_true] at counts
    simp at counts
    omega
  · rw [inUse_write_other _ same]
    have other : ¬ card.memory.activeBank = bank := fun equal => same equal.symm
    simp [other] at counts
    omega

private theorem Consistent.counted_leave {offset : Bank → Nat} {card : CardState}
    (consistent : Consistent offset card) {context : Nat} {left : Bank}
    (inside : card.contexts[context]? = some (some left)) (bank : Bank) :
    (card.leave context left).memory.inUse bank =
      (card.leave context left).contexts.count (some bank) + offset bank := by
  have counts := count_set_of_getElem? inside none bank
  have counted := consistent.counted bank
  have room := consistent.room bank
  unfold CardState.leave
  dsimp only
  by_cases same : bank = left
  · subst same
    have positive : 0 < card.contexts.count (some bank) :=
      List.count_pos_iff.mpr (List.mem_of_getElem? inside)
    have most : card.contexts.count (some bank) ≤ card.contexts.length := List.count_le_length
    have decremented : (card.memory.inUse bank + (2 ^ 32 - 1)) % 2 ^ 32 =
        card.memory.inUse bank - 1 := by omega
    rw [decremented, inUse_write_same _ _ (by omega)]
    simp at counts
    omega
  · rw [inUse_write_other _ same]
    have other : ¬ left = bank := fun equal => same equal.symm
    simp [other] at counts
    omega

theorem consistent_firmware {offset : Bank → Nat} {before after : CardState}
    (step : FirmwareStep before after) (consistent : Consistent offset before) :
    Consistent offset after := by
  have active := step.activeBank
  obtain ⟨flowSame, counterSame⟩ := step.noted
  have flowRetired : ∀ bank, after.flowBank = some bank → after.memory.activeBank ≠ bank := by
    rw [active, flowSame]
    exact consistent.flowRetired
  have counterRetired : ∀ bank, after.counterBank = some bank →
      after.memory.activeBank ≠ bank := by
    rw [active, counterSame]
    exact consistent.counterRetired
  have room : ∀ bank, offset bank + after.contexts.length < 2 ^ 32 := by
    have length : after.contexts.length = before.contexts.length := by
      cases step with
      | enter context outside => exact List.length_set
      | write context position bytes inside within => rfl
      | leave context inside => exact List.length_set
    rw [length]
    exact consistent.room
  cases step with
  | enter context outside =>
      exact ⟨consistent.counted_enter outside, room, flowRetired, counterRetired⟩
  | write context position bytes inside within =>
      refine ⟨?_, room, flowRetired, counterRetired⟩
      intro bank
      exact (inUse_write_of_ne (bank?_ne_curState within).2 _ _ bank).trans
        (consistent.counted bank)
  | leave context inside =>
      exact ⟨consistent.counted_leave inside, room, flowRetired, counterRetired⟩

end SflowMiddle.Card

/-
The ledger while a reader drains a bank. Between calls every ready slot is fresh.
In the loop the slots still to be read are; once the records are being cleared only
the slots outside the drained part of the bank are known to be, until the fill of
the semaphores frees the drained slots or, failing, finds them fresh.
-/

import SflowMiddle.Card.Ledger

namespace SflowMiddle.Card

open SflowMiddle.Foundation
open Ledger

/-- The part of the card a call of a reader drains. -/
def Place.DrainedBy (place : Place) (reader : ReaderPhase) (bank : Bank) (slotCount : Nat) :
    Prop :=
  place.reader = reader ∧ place.bank = bank ∧ place.slot < slotCount

structure Balanced (outgoing : List Delivery) (ledger : Ledger) : Prop where
  books : Books outgoing ledger
  fresh : ∀ place, ledger.Fresh place

section Drain

variable (reader : ReaderPhase) (bank : Bank) (slotCount : Nat)

structure Draining (slots : List Nat) (outgoing : List Delivery) (ledger : Ledger) : Prop where
  books : Books outgoing ledger
  holds : ∀ place, ledger.Holds ledger.sources place
  origins : ∀ source ∈ ledger.collected, ∃ slot < slotCount, slot ∉ slots ∧
    ledger.occupant ⟨reader, bank, slot⟩ = source
  ready : ∀ slot ∈ slots, slot < slotCount ∧ (reader.store bank).Ready ledger.memory slot
  distinct : slots.Nodup

structure Drained (outgoing : List Delivery) (ledger : Ledger) : Prop where
  books : Books outgoing ledger
  holds : ∀ place : Place, ¬ place.DrainedBy reader bank slotCount →
    ledger.Holds ledger.sources place
  origins : ∀ source ∈ ledger.collected, ∃ slot < slotCount,
    ledger.occupant ⟨reader, bank, slot⟩ = source

variable {reader bank slotCount}

/-! ### From point to point -/

private theorem Balanced.collected_eq_nil {ledger : Ledger} (balanced : Balanced [] ledger) :
    ledger.collected = [] :=
  List.forall₂_nil_left_iff.mp balanced.books.outgoing

private theorem Balanced.draining {ledger : Ledger} (balanced : Balanced [] ledger) :
    Draining reader bank slotCount
      (haveData slotCount (ledger.memory.read (reader.store bank).semaphores 0 (slotCount * 4)))
      [] ledger where
  books := balanced.books
  holds := by
    intro place ready
    obtain ⟨number, found, within, fresh⟩ := balanced.fresh place ready
    exact ⟨number, found, within, fun member => fresh (List.mem_append_left _ member)⟩
  origins := by
    rw [balanced.collected_eq_nil]
    intro source member
    cases member
  ready := fun slot member => (mem_haveData _ _ _ slot).mp member
  distinct := nodup_haveData _ _

theorem Draining.balanced {slots : List Nat} {ledger : Ledger}
    (draining : Draining reader bank slotCount slots [] ledger) : Balanced [] ledger where
  books := draining.books
  fresh := by
    have nothing : ledger.collected = [] :=
      List.forall₂_nil_left_iff.mp draining.books.outgoing
    intro place
    unfold Fresh
    rw [nothing, List.append_nil]
    exact draining.holds place

theorem Draining.skip {slot : Nat} {slots : List Nat} {outgoing : List Delivery}
    {ledger : Ledger}
    (draining : Draining reader bank slotCount (slot :: slots) outgoing ledger) :
    Draining reader bank slotCount slots outgoing ledger where
  books := draining.books
  holds := draining.holds
  origins := by
    intro source member
    obtain ⟨origin, bound, read, same⟩ := draining.origins source member
    exact ⟨origin, bound, fun later => read (List.mem_cons_of_mem slot later), same⟩
  ready := fun other member => draining.ready other (List.mem_cons_of_mem slot member)
  distinct := (List.nodup_cons.mp draining.distinct).2

/-- The slot read next is credited to a publication nothing else was credited to. -/
private theorem Draining.take {slot : Nat} {slots : List Nat} {outgoing : List Delivery}
    {before after : Ledger}
    (draining : Draining reader bank slotCount (slot :: slots) outgoing before)
    (credited : after =
      { before with
        card := after.card
        collected := before.collected ++ [before.occupant ⟨reader, bank, slot⟩] })
    (unchanged : after.memory = before.memory) :
    Draining reader bank slotCount slots
      (outgoing ++ [⟨reader, ⟨.ofNat slot, (reader.store bank).record before.memory slot⟩⟩])
      after := by
  obtain ⟨bound, ready⟩ := draining.ready slot List.mem_cons_self
  obtain ⟨number, found, within, unreturned⟩ := draining.holds ⟨reader, bank, slot⟩ ready
  have uncollected : some number ∉ before.collected := by
    intro member
    obtain ⟨origin, _, read, same⟩ := draining.origins _ member
    have places := draining.books.place_eq same found
    cases places
    exact read List.mem_cons_self
  have matching : Matches before.published
      ⟨reader, ⟨.ofNat slot, (reader.store bank).record before.memory slot⟩⟩
      (before.occupant ⟨reader, bank, slot⟩) :=
    ⟨number, _, found, within, rfl, rfl⟩
  obtain ⟨books, holds, origins, readySlots, distinct⟩ := draining.skip
  obtain ⟨card, rfl⟩ : ∃ card, after =
      { before with
        card := card
        collected := before.collected ++ [before.occupant ⟨reader, bank, slot⟩] } :=
    ⟨_, credited⟩
  change card.memory = before.card.memory at unchanged
  refine ⟨⟨books.returned, ?_, ?_, books.placed⟩, ?_, ?_, ?_, distinct⟩
  · exact List.rel_append books.outgoing (.cons matching .nil)
  · change (before.sources ++ (before.collected ++ [_])).Nodup
    rw [found, ← List.append_assoc]
    refine List.nodup_append.mpr ⟨books.distinct, List.nodup_singleton _, ?_⟩
    rintro source member _ last rfl
    rcases List.mem_append.mp member with returned | collected
    · exact unreturned (List.mem_singleton.mp last ▸ returned)
    · exact uncollected (List.mem_singleton.mp last ▸ collected)
  · intro place
    unfold Holds Ledger.memory
    dsimp only
    rw [unchanged]
    exact holds place
  · intro source member
    rcases List.mem_append.mp member with earlier | last
    · exact origins source earlier
    · exact ⟨slot, bound, (List.nodup_cons.mp draining.distinct).1,
        (List.mem_singleton.mp last).symm⟩
  · intro other member
    unfold Ledger.memory
    dsimp only
    rw [unchanged]
    exact readySlots other member

theorem Draining.drained {outgoing : List Delivery} {ledger : Ledger}
    (draining : Draining reader bank slotCount [] outgoing ledger) :
    Drained reader bank slotCount outgoing ledger where
  books := draining.books
  holds := fun place _ => draining.holds place
  origins := by
    intro source member
    obtain ⟨slot, bound, _, same⟩ := draining.origins source member
    exact ⟨slot, bound, same⟩

private theorem Drained.fresh {outgoing : List Delivery} {ledger : Ledger}
    (drained : Drained reader bank slotCount outgoing ledger) {place : Place}
    (outside : ¬ place.DrainedBy reader bank slotCount) : ledger.Fresh place := by
  intro ready
  obtain ⟨number, found, within, unreturned⟩ := drained.holds place outside ready
  refine ⟨number, found, within, ?_⟩
  intro member
  rcases List.mem_append.mp member with returned | collected
  · exact unreturned returned
  · obtain ⟨slot, bound, same⟩ := drained.origins _ collected
    have places := drained.books.place_eq found same
    rw [places] at outside
    exact outside ⟨rfl, rfl, bound⟩

end Drain

/-! ### The host's calls -/

private theorem memory_noted (card : CardState) (call : NfpCall) :
    (card.noted call).memory = card.memory := by
  unfold CardState.noted
  split <;> rfl

namespace LedgerEffect

variable {before after : Ledger}

theorem read {area : Area} {offset length : Nat} {reply : Option (List UInt8)}
    (effect : LedgerEffect before (.areaRead area offset length) reply after) :
    after.memory = before.memory ∧
      (reply = none ∨ reply = some (before.memory.read area.region offset length)) := by
  obtain ⟨same, answered⟩ := hostEffect_read effect.host
  refine ⟨?_, answered⟩
  unfold Ledger.memory
  rw [same, memory_noted]

private theorem unmoved {call : NfpCall} {reply : call.Reply}
    (effect : LedgerEffect before call reply after) (uncredited : before.credit call reply = [])
    (banks : ∀ region bank, region.bank? = some bank →
      after.memory region = before.memory region) : Unmoved before after := by
  refine ⟨?_, banks⟩
  have books := effect.books
  rw [uncredited, List.append_nil] at books
  exact books

theorem unmoved_read {area : Area} {offset length : Nat} {reply : Option (List UInt8)}
    (effect : LedgerEffect before (.areaRead area offset length) reply after)
    (uncredited : before.credit (.areaRead area offset length) reply = []) :
    Unmoved before after :=
  effect.unmoved uncredited fun _ _ _ => by rw [effect.read.1]

theorem unmoved_write {area : Area} {offset : Nat} {bytes : List UInt8} {reply : Bool}
    (effect : LedgerEffect before (.areaWrite area offset bytes) reply after)
    (outside : area.region.bank? = none) : Unmoved before after := by
  apply effect.unmoved rfl
  intro region bank within
  obtain ⟨memory, written | ⟨_, same⟩, card⟩ := effect.host
  · unfold Ledger.memory
    rw [card, written]
    funext position
    apply Memory.write_of_ne
    rintro rfl
    rw [outside] at within
    cases within
  · unfold Ledger.memory
    rw [card, same]

private theorem fill {area : Area} {offset length : Nat} {value : UInt32} {reply : Bool}
    (effect : LedgerEffect before (.areaFill area offset value length) reply after) :
    (reply = true ∧ after = { before with card := after.card } ∧
        after.memory = before.memory.fill area.region offset value length) ∨
      (reply = false ∧ Unmoved before after) := by
  cases reply with
  | false => exact Or.inr ⟨rfl, effect.unmoved rfl fun _ _ _ => by rw [effect.failed rfl]⟩
  | true =>
      obtain ⟨memory, filled | ⟨impossible, _⟩, card⟩ := effect.host
      · refine Or.inl ⟨rfl, ?_, ?_⟩
        · have books := effect.books
          change after = { before with
            card := after.card
            collected := before.collected ++ [] } at books
          rw [List.append_nil] at books
          exact books
        · unfold Ledger.memory
          rw [card, filled]
      · cases impossible

end LedgerEffect

/-! ### Steps that keep a point -/

section Kept

variable {reader : ReaderPhase} {bank : Bank} {slotCount : Nat} {slots : List Nat}
  {outgoing : List Delivery} {before after : Ledger}

theorem Balanced.unmoved (balanced : Balanced outgoing before) (unmoved : Unmoved before after) :
    Balanced outgoing after where
  books := unmoved.books balanced.books
  fresh := by
    intro place
    have kept := unmoved.holds (balanced.fresh place)
    rw [unmoved.ledger] at kept ⊢
    exact kept

theorem Draining.unmoved (draining : Draining reader bank slotCount slots outgoing before)
    (unmoved : Unmoved before after) : Draining reader bank slotCount slots outgoing after := by
  obtain ⟨books, holds, origins, ready, distinct⟩ := draining
  refine ⟨unmoved.books books, ?_, ?_, ?_, distinct⟩
  · intro place
    have kept := unmoved.holds (holds place)
    rw [unmoved.ledger] at kept ⊢
    exact kept
  · rw [unmoved.ledger]
    exact origins
  · intro slot member
    exact ⟨(ready slot member).1, (unmoved.ready ⟨reader, bank, slot⟩).mpr (ready slot member).2⟩

private theorem Drained.unmoved (drained : Drained reader bank slotCount outgoing before)
    (unmoved : Unmoved before after) : Drained reader bank slotCount outgoing after := by
  refine ⟨unmoved.books drained.books, ?_, ?_⟩
  · intro place untouched
    have kept := unmoved.holds (drained.holds place untouched)
    rw [unmoved.ledger] at kept ⊢
    exact kept
  · rw [unmoved.ledger]
    exact drained.origins

theorem Balanced.publisher (balanced : Balanced outgoing before)
    (step : PublisherStep before after) : Balanced outgoing after where
  books := step.books balanced.books
  fresh := by
    intro place
    obtain ⟨sources, collected⟩ := step.taken
    unfold Fresh
    rw [sources, collected]
    exact step.holds (fun _ => balanced.books.lt_length) (balanced.fresh place)

theorem Draining.publisher (draining : Draining reader bank slotCount slots outgoing before)
    (step : PublisherStep before after) (outside : before.card.Outside bank) :
    Draining reader bank slotCount slots outgoing after := by
  obtain ⟨sources, collected⟩ := step.taken
  obtain ⟨memory, occupant⟩ := step.frame outside
  refine ⟨step.books draining.books, ?_, ?_, ?_, draining.distinct⟩
  · intro place
    rw [sources]
    exact step.holds (fun _ member => draining.books.lt_length (List.mem_append_left _ member))
      (draining.holds place)
  · intro source member
    rw [collected] at member
    obtain ⟨slot, bound, read, same⟩ := draining.origins source member
    exact ⟨slot, bound, read, (occupant _ rfl).trans same⟩
  · intro slot member
    obtain ⟨bound, ready⟩ := draining.ready slot member
    refine ⟨bound, (Memory.word_congr fun position => ?_).trans ready⟩
    exact congrFun (memory _ (Place.bank?_semaphores ⟨reader, bank, slot⟩)) position

theorem Drained.publisher (drained : Drained reader bank slotCount outgoing before)
    (step : PublisherStep before after) (outside : before.card.Outside bank) :
    Drained reader bank slotCount outgoing after := by
  obtain ⟨sources, collected⟩ := step.taken
  obtain ⟨_, occupant⟩ := step.frame outside
  refine ⟨step.books drained.books, ?_, ?_⟩
  · intro place untouched
    rw [sources]
    exact step.holds (fun _ member => drained.books.lt_length (List.mem_append_left _ member))
      (drained.holds place untouched)
  · intro source member
    rw [collected] at member
    obtain ⟨slot, bound, same⟩ := drained.origins source member
    exact ⟨slot, bound, (occupant _ rfl).trans same⟩

/-! ### The reads of the loop -/

variable (reader bank) in
theorem Balanced.readSemaphores (balanced : Balanced [] before) {area : Area}
    (semaphores : area.region = (reader.store bank).semaphores)
    {reply : Option (List UInt8)}
    (effect : LedgerEffect before (.areaRead area 0 (slotCount * 4)) reply after)
    (uncredited : before.credit (.areaRead area 0 (slotCount * 4)) reply = []) :
    (reply = none ∧ Balanced [] after) ∨
      ∃ bytes, reply = some bytes ∧
        Draining reader bank slotCount (haveData slotCount bytes) [] after := by
  have unmoved := effect.unmoved_read uncredited
  obtain ⟨_, failed | answered⟩ := effect.read
  · exact Or.inl ⟨failed, balanced.unmoved unmoved⟩
  · rw [semaphores] at answered
    exact Or.inr ⟨_, answered, balanced.draining.unmoved unmoved⟩

theorem Draining.readLast {slot : Nat}
    (draining : Draining reader bank slotCount (slot :: slots) outgoing before) {area : Area}
    {reply : Option (List UInt8)}
    (effect : LedgerEffect before
      (.areaRead area (slot * recordSize) recordSize) reply after)
    (credit : before.credit (.areaRead area (slot * recordSize) recordSize) reply =
      if reply.isSome then [before.occupant ⟨reader, bank, slot * recordSize / recordSize⟩]
      else []) :
    (reply = none ∧ Draining reader bank slotCount slots outgoing after) ∨
      (reply = some (before.memory.read area.region (slot * recordSize) recordSize) ∧
        Draining reader bank slotCount slots
          (outgoing ++
            [⟨reader, ⟨.ofNat slot, (reader.store bank).record before.memory slot⟩⟩])
          after) := by
  obtain ⟨memory, rfl | rfl⟩ := effect.read
  · exact Or.inl ⟨rfl, draining.skip.unmoved (effect.unmoved_read credit)⟩
  · have credited := effect.books
    rw [credit, Option.isSome_some, if_pos rfl, Nat.mul_div_cancel slot (by decide)] at credited
    exact Or.inr ⟨rfl, draining.take credited memory⟩

/-! ### The fills at the end of a call -/

private theorem Ledger.Holds.written {taken : List (Option Nat)} {place : Place}
    (holds : before.Holds taken place) (moved : after = { before with card := after.card })
    {region : Region} {bytes : List UInt8}
    (written : after.memory = before.memory.write region 0 bytes)
    (ready : region = place.store.semaphores → bytes.length ≤ 4 * place.slot)
    (record : region ∈ place.store.payload → bytes.length ≤ place.slot * recordSize) :
    after.Holds taken place := by
  have occupant : after.occupant place = before.occupant place := by rw [moved]
  have published : after.published = before.published ++ [] := by rw [moved, List.append_nil]
  refine holds.frame occupant published ?_ ?_
  · rw [written]
    exact (Store.ready_write fun same => Or.inr (by rw [Nat.zero_add]; exact ready same)).mp
  · intro _
    rw [written]
    exact Store.record_write fun member => Or.inr (by rw [Nat.zero_add]; exact record member)

private theorem slotCount_le_of_not_drainedBy {place : Place}
    (untouched : ¬ place.DrainedBy reader bank slotCount)
    (same : place.reader = reader ∧ place.bank = bank) : slotCount ≤ place.slot :=
  Nat.le_of_not_lt fun bound => untouched ⟨same.1, same.2, bound⟩

theorem Drained.clear (drained : Drained reader bank slotCount outgoing before) {area : Area}
    (payload : area.region ∈ (reader.store bank).payload) {value : UInt32} {reply : Bool}
    (effect : LedgerEffect before (.areaFill area 0 value (slotCount * recordSize)) reply after) :
    Drained reader bank slotCount outgoing after := by
  rcases effect.fill with ⟨_, moved, filled⟩ | ⟨_, unmoved⟩
  · obtain ⟨bytes, size, written⟩ :=
      Memory.fill_eq_write before.memory area.region 0 value (slotCount * recordSize)
    refine ⟨?_, ?_, ?_⟩
    · rw [moved]
      exact ⟨drained.books.returned, drained.books.outgoing, drained.books.distinct,
        drained.books.placed⟩
    · intro place untouched
      have sources : after.sources = before.sources := by rw [moved]
      rw [sources]
      refine (drained.holds place untouched).written moved (filled.trans written) ?_ ?_
      · intro semaphores
        exact absurd (semaphores ▸ payload)
          (Place.semaphores_notMem_payload place ⟨reader, bank, 0⟩)
      · intro member
        rw [size]
        exact Nat.mul_le_mul_right recordSize (slotCount_le_of_not_drainedBy untouched
          (@Place.same_of_payload place ⟨reader, bank, 0⟩ _ member payload))
    · rw [moved]
      exact drained.origins
  · exact drained.unmoved unmoved

/-- Once the semaphores are filled, or left with fresh records, all is fresh again. -/
theorem Drained.unlock (drained : Drained reader bank slotCount outgoing before) {area : Area}
    (semaphores : area.region = (reader.store bank).semaphores) {reply : Bool}
    (effect : LedgerEffect before (.areaFill area 0 kSemUnlockValue (slotCount * 4)) reply after)
    (spares : reply = false → ∀ slot, before.Fresh ⟨reader, bank, slot⟩) :
    Balanced outgoing after := by
  rcases effect.fill with ⟨_, moved, filled⟩ | ⟨failed, unmoved⟩
  · refine ⟨?_, ?_⟩
    · rw [moved]
      exact ⟨drained.books.returned, drained.books.outgoing, drained.books.distinct,
        drained.books.placed⟩
    · intro place
      by_cases inside : place.DrainedBy reader bank slotCount
      · obtain ⟨rfl, rfl, bound⟩ := inside
        intro ready
        have zero := word_zero_of_read (Memory.read_fill_zero before.memory area.region
          (show 4 * place.slot + 4 ≤ slotCount * 4 by omega))
        unfold Store.Ready at ready
        rw [filled] at ready
        change (before.memory.fill area.region 0 0 (slotCount * 4)).word
          (place.reader.store place.bank).semaphores (4 * place.slot) = kSemDataReady at ready
        rw [← semaphores, zero] at ready
        cases ready
      · obtain ⟨bytes, size, written⟩ :=
          Memory.fill_eq_write before.memory area.region 0 kSemUnlockValue (slotCount * 4)
        have taken : after.sources ++ after.collected = before.sources ++ before.collected := by
          rw [moved]
        unfold Fresh
        rw [taken]
        refine (drained.fresh inside).written moved (filled.trans written) ?_ ?_
        · intro same
          have beyond := slotCount_le_of_not_drainedBy inside
            (@Place.same_of_semaphores place ⟨reader, bank, 0⟩ (same.symm.trans semaphores))
          omega
        · intro member
          rw [semaphores] at member
          exact absurd member (Place.semaphores_notMem_payload ⟨reader, bank, 0⟩ place)
  · have balanced : Balanced outgoing before := by
      refine ⟨drained.books, ?_⟩
      intro place
      by_cases inside : place.DrainedBy reader bank slotCount
      · obtain ⟨rfl, rfl, _⟩ := inside
        exact spares failed place.slot
      · exact drained.fresh inside
    exact balanced.unmoved unmoved

end Kept

end SflowMiddle.Card

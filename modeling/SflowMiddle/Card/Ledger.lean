/-
A ledger of what the firmware published and what the host took off the card. Every
publication has a number; each slot remembers the number of its last one, and a
read of the last record of a slot is credited to it. The card itself runs as
before; the firmware fills a slot of its bank while the semaphore is free and only
then sets the semaphore.
-/

import SflowMiddle.Card.Exclusivity
import SflowMiddle.Card.Slots

namespace SflowMiddle.Card

open SflowMiddle.Foundation
open Device

structure Place where
  reader : ReaderPhase
  bank : Bank
  slot : Nat
  deriving DecidableEq

def ReaderPhase.store : ReaderPhase → Bank → Store
  | .flow => flowStore
  | .counter => counterStore

def Place.store (place : Place) : Store := place.reader.store place.bank

structure Publication where
  place : Place
  record : List (List UInt8)

/-- An entry of a returned vector. -/
structure Delivery where
  reader : ReaderPhase
  item : Carried

/-- `collected` are the numbers read by the call under way, `sources` those behind the
entries of `returned`; a read of a slot nothing was published in has no number. -/
structure Ledger where
  card : CardState
  published : List Publication := []
  occupant : Place → Option Nat := fun _ => none
  collected : List (Option Nat) := []
  returned : List Delivery := []
  sources : List (Option Nat) := []

namespace Ledger

def memory (ledger : Ledger) : Memory := ledger.card.memory

/-- The entry carries the payload of the publication it is credited to. -/
def Matches (published : List Publication) (delivery : Delivery) (source : Option Nat) : Prop :=
  ∃ number publication, source = some number ∧ published[number]? = some publication ∧
    publication.place.reader = delivery.reader ∧
      delivery.item = ⟨.ofNat publication.place.slot, publication.record⟩

/-- Every returned entry is a published record, and no record is returned twice. -/
structure DeliveredOnce (ledger : Ledger) : Prop where
  published : List.Forall₂ (Matches ledger.published) ledger.returned ledger.sources
  once : ledger.sources.Nodup

/-- A ready slot holds the record last published in it, and that one is not taken. -/
def Holds (ledger : Ledger) (taken : List (Option Nat)) (place : Place) : Prop :=
  place.store.Ready ledger.memory place.slot →
    ∃ number, ledger.occupant place = some number ∧
      ledger.published[number]? =
        some ⟨place, place.store.record ledger.memory place.slot⟩ ∧
      some number ∉ taken

/-- The record of the slot, if it is ready, was neither returned nor collected. -/
def Fresh (ledger : Ledger) (place : Place) : Prop :=
  ledger.Holds (ledger.sources ++ ledger.collected) place

end Ledger

/-! ### The firmware -/

namespace Ledger

def withCard (ledger : Ledger) (card : CardState) : Ledger := { ledger with card := card }

/-- The record a slot holds is published under the next number. -/
def publish (ledger : Ledger) (place : Place) : Ledger :=
  { ledger with
    card := ledger.card.write place.store.semaphores (4 * place.slot) (encode 4 kSemDataReady)
    published := ledger.published ++ [⟨place, place.store.record ledger.memory place.slot⟩]
    occupant := Function.update ledger.occupant place (some ledger.published.length) }

end Ledger

inductive PublisherStep : Ledger → Ledger → Prop where
  | enter {ledger : Ledger} (context : Nat)
      (outside : ledger.card.contexts[context]? = some none) :
      PublisherStep ledger (ledger.withCard (ledger.card.enter context))
  | fill {ledger : Ledger} (context : Nat) {place : Place} {region : Region} (offset : Nat)
      (bytes : List UInt8) (inside : ledger.card.contexts[context]? = some (some place.bank))
      (free : ledger.memory.word place.store.semaphores (4 * place.slot) = 0)
      (payload : region ∈ place.store.payload) (low : place.slot * recordSize ≤ offset)
      (high : offset + bytes.length ≤ place.slot * recordSize + recordSize) :
      PublisherStep ledger (ledger.withCard (ledger.card.write region offset bytes))
  | publish {ledger : Ledger} (context : Nat) {place : Place}
      (inside : ledger.card.contexts[context]? = some (some place.bank))
      (free : ledger.memory.word place.store.semaphores (4 * place.slot) = 0) :
      PublisherStep ledger (ledger.publish place)
  | leave {ledger : Ledger} (context : Nat) {bank : Bank}
      (inside : ledger.card.contexts[context]? = some (some bank)) :
      PublisherStep ledger (ledger.withCard (ledger.card.leave context bank))

/-! ### The host -/

/-- The publication a call takes off the card, if it reads the last record of a slot. -/
def Ledger.credit (ledger : Ledger) : (call : NfpCall) → call.Reply → List (Option Nat)
  | .areaRead ⟨.flowData bank, _, _⟩ offset _, some _ =>
      [ledger.occupant ⟨.flow, bank, offset / recordSize⟩]
  | .areaRead ⟨.counterData bank, _, _⟩ offset _, some _ =>
      [ledger.occupant ⟨.counter, bank, offset / recordSize⟩]
  | _, _ => []

def FailedFill : (call : NfpCall) → call.Reply → Prop
  | .areaFill _ _ _ _, reply => reply = false
  | _, _ => False

/-- A failed fill leaves its range unchanged. -/
structure LedgerEffect (before : Ledger) (call : NfpCall) (reply : call.Reply)
    (after : Ledger) : Prop where
  host : HostEffect before.card call reply after.card
  failed : FailedFill call reply → after.memory = before.memory
  books : after =
    { before with
      card := after.card
      collected := before.collected ++ before.credit call reply }

/-- The semaphores of a bank stay as they are only while every ready slot is fresh. -/
def SparesRecords (ledger : Ledger) : (call : NfpCall) → call.Reply → Prop
  | .areaFill ⟨.flowSem bank, _, _⟩ _ _ _, reply =>
      reply = false → ∀ slot, ledger.Fresh ⟨.flow, bank, slot⟩
  | .areaFill ⟨.counterSem bank, _, _⟩ _ _ _, reply =>
      reply = false → ∀ slot, ledger.Fresh ⟨.counter, bank, slot⟩
  | _, _ => True

/-! ### Places in memory -/

namespace Place

theorem bank?_semaphores (place : Place) : place.store.semaphores.bank? = some place.bank := by
  rcases place with ⟨_ | _, bank, slot⟩ <;> rfl

private theorem bank?_payload {place : Place} {region : Region}
    (member : region ∈ place.store.payload) :
    region.bank? = some place.bank := by
  rcases place with ⟨_ | _, bank, slot⟩
  · simp only [store, ReaderPhase.store, flowStore, List.mem_cons, List.not_mem_nil,
      or_false] at member
    rcases member with rfl | rfl <;> rfl
  · rw [List.mem_singleton.mp member]
    rfl

theorem semaphores_notMem_payload (first second : Place) :
    first.store.semaphores ∉ second.store.payload := by
  rcases first with ⟨_ | _, bank, slot⟩ <;> rcases second with ⟨_ | _, other, place⟩ <;>
    simp [store, ReaderPhase.store, flowStore, counterStore]

theorem same_of_semaphores {first second : Place}
    (same : first.store.semaphores = second.store.semaphores) :
    first.reader = second.reader ∧ first.bank = second.bank := by
  rcases first with ⟨_ | _, bank, slot⟩ <;> rcases second with ⟨_ | _, other, place⟩ <;>
    cases same <;> exact ⟨rfl, rfl⟩

theorem same_of_payload {first second : Place} {region : Region}
    (left : region ∈ first.store.payload) (right : region ∈ second.store.payload) :
    first.reader = second.reader ∧ first.bank = second.bank := by
  rcases first with ⟨_ | _, bank, slot⟩ <;> rcases second with ⟨_ | _, other, place⟩ <;>
    simp only [store, ReaderPhase.store, flowStore, counterStore, List.mem_cons,
      List.not_mem_nil, or_false] at left right <;> aesop

private theorem ready_publish {memory : Memory} {place other : Place} (different : other ≠ place)
    {bytes : List UInt8} (size : bytes.length = 4) :
    other.store.Ready (memory.write place.store.semaphores (4 * place.slot) bytes) other.slot ↔
      other.store.Ready memory other.slot := by
  apply Store.ready_write
  intro same
  obtain ⟨reader, bank⟩ := same_of_semaphores same
  have apart : other.slot ≠ place.slot := by
    intro slot
    apply different
    rcases other with ⟨_, _, _⟩
    rcases place with ⟨_, _, _⟩
    simp_all
  omega

private theorem record_fill {memory : Memory} {place other : Place} (different : other ≠ place)
    {region : Region} (payload : region ∈ place.store.payload) {offset : Nat}
    {bytes : List UInt8} (low : place.slot * recordSize ≤ offset)
    (high : offset + bytes.length ≤ place.slot * recordSize + recordSize) :
    other.store.record (memory.write region offset bytes) other.slot =
      other.store.record memory other.slot := by
  apply Store.record_write
  intro member
  obtain ⟨reader, bank⟩ := same_of_payload member payload
  have apart : other.slot ≠ place.slot := by
    intro slot
    apply different
    rcases other with ⟨_, _, _⟩
    rcases place with ⟨_, _, _⟩
    simp_all
  unfold recordSize at low high ⊢
  omega

end Place

namespace Ledger

/-! ### The books -/

/-- The entries on their way out are credited to the publications collected, every
number belongs to a publication, and none is taken twice. -/
structure Books (outgoing : List Delivery) (ledger : Ledger) : Prop where
  returned : List.Forall₂ (Matches ledger.published) ledger.returned ledger.sources
  outgoing : List.Forall₂ (Matches ledger.published) outgoing ledger.collected
  distinct : (ledger.sources ++ ledger.collected).Nodup
  placed : ∀ place number, ledger.occupant place = some number →
    ∃ publication, ledger.published[number]? = some publication ∧ publication.place = place

private theorem lt_of_matches {published : List Publication} {deliveries : List Delivery}
    {sources : List (Option Nat)}
    (matching : List.Forall₂ (Matches published) deliveries sources) {number : Nat}
    (member : some number ∈ sources) : number < published.length := by
  induction matching with
  | nil => cases member
  | cons head _ ih =>
      rcases List.mem_cons.mp member with same | later
      · obtain ⟨found, publication, isFound, within, _⟩ := head
        rw [isFound] at same
        cases same
        exact (List.getElem?_eq_some_iff.mp within).1
      · exact ih later

theorem Books.lt_length {outgoing : List Delivery} {ledger : Ledger}
    (books : Books outgoing ledger) {number : Nat}
    (member : some number ∈ ledger.sources ++ ledger.collected) :
    number < ledger.published.length := by
  rcases List.mem_append.mp member with returned | collected
  · exact lt_of_matches books.returned returned
  · exact lt_of_matches books.outgoing collected

theorem Books.place_eq {outgoing : List Delivery} {ledger : Ledger}
    (books : Books outgoing ledger) {first second : Place} {number : Nat}
    (left : ledger.occupant first = some number)
    (right : ledger.occupant second = some number) : first = second := by
  obtain ⟨publication, found, rfl⟩ := books.placed first number left
  obtain ⟨other, foundOther, rfl⟩ := books.placed second number right
  rw [found] at foundOther
  cases foundOther
  rfl

private theorem Matches.append {published : List Publication} {delivery : Delivery}
    {source : Option Nat} (matching : Matches published delivery source)
    (later : List Publication) : Matches (published ++ later) delivery source := by
  obtain ⟨number, publication, same, found, rest⟩ := matching
  refine ⟨number, publication, same, ?_, rest⟩
  rw [List.getElem?_append_left (List.getElem?_eq_some_iff.mp found).1]
  exact found

private theorem matches_append {published : List Publication} {deliveries : List Delivery}
    {sources : List (Option Nat)}
    (matching : List.Forall₂ (Matches published) deliveries sources)
    (later : List Publication) :
    List.Forall₂ (Matches (published ++ later)) deliveries sources :=
  matching.imp fun _ _ each => each.append later

theorem Holds.frame {before after : Ledger} {taken : List (Option Nat)} {place : Place}
    (holds : before.Holds taken place) (occupant : after.occupant place = before.occupant place)
    {later : List Publication} (published : after.published = before.published ++ later)
    (ready : place.store.Ready after.memory place.slot →
      place.store.Ready before.memory place.slot)
    (record : place.store.Ready after.memory place.slot →
      place.store.record after.memory place.slot = place.store.record before.memory place.slot) :
    after.Holds taken place := by
  intro isReady
  obtain ⟨number, found, within, fresh⟩ := holds (ready isReady)
  refine ⟨number, occupant.trans found, ?_, fresh⟩
  rw [published, record isReady, List.getElem?_append_left (List.getElem?_eq_some_iff.mp within).1]
  exact within

/-! ### Steps that leave both banks alone -/

/-- Only the card moved, and outside the banks. -/
structure Unmoved (before after : Ledger) : Prop where
  ledger : after = { before with card := after.card }
  banks : ∀ region bank, region.bank? = some bank → after.memory region = before.memory region

private theorem unmoved_inUse (ledger : Ledger) {card : CardState} {offset : Nat}
    {bytes : List UInt8}
    (counted : card.memory = ledger.memory.write .processingMe offset bytes) :
    Unmoved ledger (ledger.withCard card) where
  ledger := rfl
  banks := by
    intro region bank within
    funext position
    change card.memory region position = _
    rw [counted]
    exact Memory.write_of_ne (bank?_ne_curState within).2 _ _ position

theorem Unmoved.ready {before after : Ledger} (unmoved : Unmoved before after) (place : Place) :
    place.store.Ready after.memory place.slot ↔ place.store.Ready before.memory place.slot := by
  unfold Store.Ready
  rw [Memory.word_congr fun position =>
    congrFun (unmoved.banks _ _ place.bank?_semaphores) position]

private theorem Unmoved.record {before after : Ledger} (unmoved : Unmoved before after)
    (place : Place) :
    place.store.record after.memory place.slot = place.store.record before.memory place.slot :=
  Store.record_congr fun _ member => Memory.read_congr fun position _ _ =>
    congrFun (unmoved.banks _ _ (Place.bank?_payload member)) position

theorem Unmoved.books {before after : Ledger} (unmoved : Unmoved before after)
    {outgoing : List Delivery} (books : Books outgoing before) : Books outgoing after := by
  rw [unmoved.ledger]
  exact ⟨books.returned, books.outgoing, books.distinct, books.placed⟩

theorem Unmoved.holds {before after : Ledger} (unmoved : Unmoved before after)
    {taken : List (Option Nat)} {place : Place} (holds : before.Holds taken place) :
    after.Holds taken place := by
  refine @Holds.frame _ _ _ _ holds ?_ [] ?_ (unmoved.ready place).mp
    (fun _ => unmoved.record place)
  · rw [unmoved.ledger]
  · rw [unmoved.ledger, List.append_nil]

end Ledger

/-! ### What the firmware keeps -/

namespace PublisherStep

open Ledger

theorem firmware {before after : Ledger} (step : PublisherStep before after) :
    FirmwareStep before.card after.card := by
  cases step with
  | enter context outside => exact .enter context outside
  | fill context offset bytes inside free payload low high =>
      exact .write context offset bytes inside (Place.bank?_payload payload)
  | leave context inside => exact .leave context inside
  | @publish context place inside free =>
      exact .write context _ _ inside place.bank?_semaphores

theorem taken {before after : Ledger} (step : PublisherStep before after) :
    after.sources = before.sources ∧ after.collected = before.collected := by
  cases step <;> exact ⟨rfl, rfl⟩

theorem books {before after : Ledger} (step : PublisherStep before after)
    {outgoing : List Delivery} (books : Books outgoing before) : Books outgoing after := by
  obtain ⟨returned, outgoing, distinct, placed⟩ := books
  cases step with
  | enter context outside => exact ⟨returned, outgoing, distinct, placed⟩
  | fill context offset bytes inside free payload low high =>
      exact ⟨returned, outgoing, distinct, placed⟩
  | leave context inside => exact ⟨returned, outgoing, distinct, placed⟩
  | @publish context place inside free =>
      refine ⟨matches_append returned _, matches_append outgoing _, distinct, ?_⟩
      intro other number found
      change Function.update before.occupant place _ other = some number at found
      by_cases same : other = place
      · subst same
        rw [Function.update_self] at found
        cases found
        exact ⟨_, List.getElem?_concat_length, rfl⟩
      · rw [Function.update_of_ne same] at found
        obtain ⟨publication, within, rfl⟩ := placed other number found
        refine ⟨publication, ?_, rfl⟩
        change (before.published ++ [_])[number]? = some publication
        rw [List.getElem?_append_left (List.getElem?_eq_some_iff.mp within).1]
        exact within

/-- Ready slots keep their records, and a slot that gets ready holds a new one. -/
theorem holds {before after : Ledger} (step : PublisherStep before after)
    {taken : List (Option Nat)} (made : ∀ number, some number ∈ taken →
      number < before.published.length) {place : Place} (holds : before.Holds taken place) :
    after.Holds taken place := by
  cases step with
  | enter context outside => exact (unmoved_inUse before rfl).holds holds
  | leave context inside => exact (unmoved_inUse before rfl).holds holds
  | @fill context filled region offset bytes inside free payload low high =>
      have outside : region ≠ place.store.semaphores :=
        fun same => Place.semaphores_notMem_payload place filled (same ▸ payload)
      have ready := @Store.ready_write place.store before.memory region offset place.slot bytes
        (fun same => absurd same outside)
      by_cases same : place = filled
      · subst same
        intro isReady
        have contradiction := ready.mp isReady
        unfold Store.Ready at contradiction
        rw [free] at contradiction
        cases contradiction
      · exact @Holds.frame _ _ _ _ holds rfl [] (List.append_nil _).symm ready.mp
          (fun _ => Place.record_fill same payload low high)
  | @publish context published inside free =>
      have record := @Store.record_write place.store before.memory published.store.semaphores
        (4 * published.slot) place.slot (encode 4 kSemDataReady)
        (fun member => absurd member (Place.semaphores_notMem_payload published place))
      by_cases same : place = published
      · subst same
        intro isReady
        refine ⟨before.published.length, Function.update_self _ _ _, ?_, ?_⟩
        · change (before.published ++ [_])[before.published.length]? =
            some ⟨place, place.store.record (before.memory.write _ _ _) place.slot⟩
          rw [record, List.getElem?_concat_length]
        · exact fun member => Nat.lt_irrefl _ (made _ member)
      · exact Holds.frame holds (Function.update_of_ne same _ _) rfl
          (Place.ready_publish same (length_encode _ _)).mp (fun _ => record)

theorem frame {before after : Ledger} (step : PublisherStep before after) {bank : Bank}
    (outside : before.card.Outside bank) :
    (∀ region, region.bank? = some bank → after.memory region = before.memory region) ∧
      ∀ place : Place, place.bank = bank → after.occupant place = before.occupant place := by
  have elsewhere : ∀ {context : Nat} {other : Bank},
      before.card.contexts[context]? = some (some other) → other ≠ bank := by
    rintro context other inside rfl
    exact outside (List.mem_of_getElem? inside)
  cases step with
  | enter context outside =>
      exact ⟨fun region => (unmoved_inUse before rfl).banks region bank, fun _ _ => rfl⟩
  | leave context inside =>
      exact ⟨fun region => (unmoved_inUse before rfl).banks region bank, fun _ _ => rfl⟩
  | @fill context filled region offset bytes inside free payload low high =>
      refine ⟨?_, fun _ _ => rfl⟩
      intro other within
      funext position
      apply Memory.write_of_ne
      rintro rfl
      rw [Place.bank?_payload payload] at within
      exact elsewhere inside (Option.some.inj within)
  | @publish context published inside free =>
      refine ⟨?_, ?_⟩
      · intro other within
        funext position
        apply Memory.write_of_ne
        rintro rfl
        rw [published.bank?_semaphores] at within
        exact elsewhere inside (Option.some.inj within)
      · rintro place rfl
        apply Function.update_of_ne
        rintro rfl
        exact elsewhere inside rfl

end PublisherStep

end SflowMiddle.Card

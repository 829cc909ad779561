/-
I/O ticks with the ledger. Each outline is the one of bank exclusivity with the point
of the ledger beside it: no context is inside a bank while it is drained, so the
ledger of that bank moves with the host's calls alone. Every record comes back at
most once as long as no failing fill of the semaphores leaves a record behind that
is already on its way out, or whose bytes are gone.
-/

import SflowMiddle.Card.Draining

namespace SflowMiddle.Card

open SflowMiddle.Foundation
open Device
open Ledger

def flowDelivery (entry : FlowData) : Delivery := ⟨.flow, flowCarried entry⟩

def counterDelivery (entry : CounterData) : Delivery := ⟨.counter, counterCarried entry⟩

/-- The card and the ledger, with only the calls that spare the records left ready. -/
def sparingCard : CardDevice Ledger where
  device :=
    { effect := fun before call reply after =>
        SparesRecords before call reply ∧ LedgerEffect before call reply after
      interferes := PublisherStep
      safe := fun ledger _ => ledger.DeliveredOnce }
  housekeeping_silent := by
    rintro before call reply after housekeeping ⟨_, effect⟩
    have same := sharedCard.housekeeping_silent housekeeping effect.host
    have books := effect.books
    rw [same] at books
    cases call with
    | areaRead | areaWrite | areaFill => cases housekeeping
    | _ =>
        rw [books]
        change { before with collected := before.collected ++ [] } = before
        rw [List.append_nil]
  housekeeping_safe := fun _ once => once

variable {offset : Bank → Nat}

/-! ### Points of the card and the ledger together -/

/-- What a point of the ledger has to bring along. -/
def Booked (ledger : Ledger → Prop) : Prop :=
  ∀ state, ledger state → ∃ outgoing, Books outgoing state

private theorem Booked.once {ledger : Ledger → Prop} (booked : Booked ledger) {state : Ledger}
    (holds : ledger state) : state.DeliveredOnce := by
  obtain ⟨outgoing, books⟩ := booked state holds
  exact ⟨books.returned, (List.nodup_append.mp books.distinct).1⟩

private theorem balanced_booked (outgoing : List Delivery) : Booked (Balanced outgoing) :=
  fun _ balanced => ⟨outgoing, balanced.books⟩

private theorem draining_booked (reader : ReaderPhase) (bank : Bank) (slotCount : Nat)
    (slots : List Nat) (outgoing : List Delivery) :
    Booked (Draining reader bank slotCount slots outgoing) :=
  fun _ draining => ⟨outgoing, draining.books⟩

private theorem drained_booked (reader : ReaderPhase) (bank : Bank) (slotCount : Nat)
    (outgoing : List Delivery) : Booked (Drained reader bank slotCount outgoing) :=
  fun _ drained => ⟨outgoing, drained.books⟩

private theorem holding_both {card : CardState → Prop} {ledger : Ledger → Prop}
    (holding : sharedCard.device.Holding card) (booked : Booked ledger)
    (kept : ∀ before after, PublisherStep before after → card before.card → ledger before →
      ledger after) :
    sparingCard.device.Holding fun state => card state.card ∧ ledger state where
  stable := by
    rintro before after step ⟨cardHolds, ledgerHolds⟩
    exact ⟨holding.stable _ _ step.firmware cardHolds, kept _ _ step cardHolds ledgerHolds⟩
  safe := fun _ holds => booked.once holds.2

private theorem moves_both {card : CardState → Prop} {ledger : Ledger → Prop} {call : NfpCall}
    {cardAfter : call.Reply → CardState → Prop} {after : call.Reply → Ledger → Prop}
    (moves : sharedCard.device.Moves card call cardAfter) (booked : Booked ledger)
    (kept : ∀ reply before result, ledger before → SparesRecords before call reply →
      LedgerEffect before call reply result → cardAfter reply result.card →
      after reply result) :
    sparingCard.device.Moves (fun state => card state.card ∧ ledger state) call after where
  safe := fun _ holds => booked.once holds.2
  moves := by
    rintro reply before result ⟨cardHolds, ledgerHolds⟩ ⟨spares, effect⟩
    exact kept reply before result ledgerHolds spares effect
      (moves.moves reply _ _ cardHolds effect.host)

private theorem balanced_holding {card : CardState → Prop}
    (holding : sharedCard.device.Holding card)
    (outgoing : List Delivery) :
    sparingCard.device.Holding fun state => card state.card ∧ Balanced outgoing state :=
  holding_both holding (balanced_booked outgoing) fun _ _ step _ balanced =>
    balanced.publisher step

private theorem draining_holding (reader : ReaderPhase) (bank : Bank) (slotCount : Nat)
    (slots : List Nat) (outgoing : List Delivery) :
    sparingCard.device.Holding fun state => Quiet offset bank state.card ∧
      Draining reader bank slotCount slots outgoing state :=
  holding_both (quiet_holding bank) (draining_booked reader bank slotCount slots outgoing)
    fun _ _ step quiet draining => draining.publisher step quiet.outside

private theorem drained_holding (reader : ReaderPhase) (bank : Bank) (slotCount : Nat)
    (outgoing : List Delivery) :
    sparingCard.device.Holding fun state => Quiet offset bank state.card ∧
      Drained reader bank slotCount outgoing state :=
  holding_both (quiet_holding bank) (drained_booked reader bank slotCount outgoing)
    fun _ _ step quiet drained => drained.publisher step quiet.outside

private theorem once_readInUse (bank : Bank) (handle : Nat) :
    sparingCard.device.Moves
      (fun state => Retired offset bank state.card ∧ Balanced [] state)
      (.areaRead ⟨.processingMe, 8, handle⟩ (4 * bank.val) 4)
      (fun reply => if stillInUse reply then
          fun state => Retired offset bank state.card ∧ Balanced [] state
        else if reply.isSome then fun state => Quiet offset bank state.card ∧ Balanced [] state
        else fun state => Consistent offset state.card ∧ Balanced [] state) := by
  refine moves_both (moves_readInUse bank handle) (balanced_booked []) ?_
  intro reply before result balanced _ effect card
  have kept := balanced.unmoved (effect.unmoved_read rfl)
  split <;> rename_i waiting
  · rw [if_pos waiting] at card
    exact ⟨card, kept⟩
  · rw [if_neg waiting] at card
    split <;> rename_i answered
    · rw [if_pos answered] at card
      exact ⟨card, kept⟩
    · rw [if_neg answered] at card
      exact ⟨card, kept⟩

/-! ### The flow reader -/

def onceFlow (offset : Bank → Nat) (reader : SmartNicReader) :
    FlowOutline sparingCard reader where
  idle state := TickStart offset state.card ∧ Balanced [] state
  selected bank state := Selected offset bank state.card ∧ Balanced [] state
  retired bank state := Retired offset bank state.card ∧ Balanced [] state
  quiet bank state := Quiet offset bank state.card ∧ Balanced [] state
  collecting bank slots result state := Quiet offset bank state.card ∧
    Draining .flow bank reader.slotCount slots (result.map flowDelivery) state
  keyed bank slot key slots result state := Quiet offset bank state.card ∧
    Draining .flow bank reader.slotCount (slot :: slots) (result.map flowDelivery) state ∧
      key = state.memory.read (.flowKey bank) (slot * recordSize) recordSize
  keyCleared bank result state := Quiet offset bank state.card ∧
    Drained .flow bank reader.slotCount (result.map flowDelivery) state
  dataCleared bank result state := Quiet offset bank state.card ∧
    Drained .flow bank reader.slotCount (result.map flowDelivery) state
  returned result state := Consistent offset state.card ∧
    Balanced (result.map flowDelivery) state
  idle_holding := balanced_holding tickStart_holding []
  selected_holding bank := balanced_holding (selected_holding bank) []
  retired_holding bank := balanced_holding (retired_holding bank) []
  quiet_holding bank := balanced_holding (quiet_holding bank) []
  collecting_holding bank slots result := draining_holding _ bank _ slots _
  keyed_holding bank slot key slots result := by
    refine holding_both (quiet_holding bank) (fun _ keyed => ⟨_, keyed.1.books⟩) ?_
    rintro before after step quiet ⟨draining, same⟩
    refine ⟨draining.publisher step quiet.outside, same.trans ?_⟩
    obtain ⟨memory, _⟩ := step.frame quiet.outside
    exact (Memory.read_congr fun position _ _ => congrFun (memory _ rfl) position).symm
  keyCleared_holding bank result := drained_holding _ bank _ _
  dataCleared_holding bank result := drained_holding _ bank _ _
  returned_holding result := balanced_holding consistent_holding _
  idle_returned _ idle := ⟨idle.1.consistent, idle.2⟩
  retired_returned _ _ retired := ⟨retired.1.consistent, retired.2⟩
  quiet_returned _ _ quiet := ⟨quiet.1.consistent, quiet.2⟩
  collecting_returned _ _ _ collecting := ⟨collecting.1.consistent, collecting.2.balanced⟩
  readState handle := by
    refine moves_both ((exclusiveFlow offset reader).readState handle)
      (balanced_booked []) ?_
    intro reply before result balanced _ effect card
    cases reply <;> exact ⟨card, balanced.unmoved (effect.unmoved_read rfl)⟩
  writeState bank handle := by
    refine moves_both ((exclusiveFlow offset reader).writeState bank handle)
      (balanced_booked []) ?_
    intro reply before result balanced _ effect card
    cases reply <;> exact ⟨card, balanced.unmoved (effect.unmoved_write rfl)⟩
  readInUse := once_readInUse
  readSemaphores bank handle := by
    refine moves_both ((exclusiveFlow offset reader).readSemaphores bank handle)
      (balanced_booked []) ?_
    intro reply before result balanced _ effect card
    rcases balanced.readSemaphores .flow bank rfl effect (by cases reply <;> rfl) with
      ⟨rfl, kept⟩ | ⟨bytes, rfl, draining⟩
    · exact ⟨card, kept⟩
    · exact ⟨card, draining⟩
  readKey bank handle slot slots result := by
    refine moves_both ((exclusiveFlow offset reader).readKey bank handle slot slots result)
      (draining_booked _ _ _ _ _) ?_
    intro reply before after draining _ effect card
    have unmoved := effect.unmoved_read (by cases reply <;> rfl)
    rcases effect.read with ⟨memory, rfl | rfl⟩
    · exact ⟨card, draining.skip.unmoved unmoved⟩
    · exact ⟨card, draining.unmoved unmoved, by rw [memory]⟩
  readData bank handle slot key slots result := by
    refine moves_both
      ((exclusiveFlow offset reader).readData bank handle slot key slots result)
      (fun _ keyed => ⟨_, keyed.1.books⟩) ?_
    rintro reply before after ⟨draining, rfl⟩ _ effect card
    rcases draining.readLast effect (by cases reply <;> rfl) with ⟨rfl, kept⟩ | ⟨rfl, taken⟩
    · exact ⟨card, kept⟩
    · refine ⟨card, ?_⟩
      rw [List.map_append, List.map_singleton, flowDelivery, flowCarried_entryOf slot
        (Memory.length_read _ _ _ _) (Memory.length_read _ _ _ _)]
      exact taken
  clearKeys bank handle result := by
    refine moves_both ((exclusiveFlow offset reader).clearKeys bank handle result)
      (draining_booked _ _ _ _ _) ?_
    intro reply before after draining _ effect card
    exact ⟨card, draining.drained.clear List.mem_cons_self effect⟩
  clearData bank handle result := by
    refine moves_both ((exclusiveFlow offset reader).clearData bank handle result)
      (drained_booked _ _ _ _) ?_
    intro reply before after drained _ effect card
    exact ⟨card, drained.clear (List.mem_cons_of_mem _ List.mem_cons_self) effect⟩
  clearSemaphores bank handle result := by
    refine moves_both ((exclusiveFlow offset reader).clearSemaphores bank handle result)
      (drained_booked _ _ _ _) ?_
    intro reply before after drained spares effect card
    exact ⟨card, drained.unlock rfl effect spares⟩

/-! ### The counter reader -/

def onceCounter (offset : Bank → Nat) (reader : CounterReader) :
    CounterOutline sparingCard reader where
  idle state := Consistent offset state.card ∧ Balanced [] state
  retired bank state := Retired offset bank state.card ∧ Balanced [] state
  quiet bank state := Quiet offset bank state.card ∧ Balanced [] state
  collecting bank slots result state := Quiet offset bank state.card ∧
    Draining .counter bank reader.slotCount slots (result.map counterDelivery) state
  dataCleared bank result state := Quiet offset bank state.card ∧
    Drained .counter bank reader.slotCount (result.map counterDelivery) state
  returned result state := Consistent offset state.card ∧
    Balanced (result.map counterDelivery) state
  idle_holding := balanced_holding consistent_holding []
  retired_holding bank := balanced_holding (retired_holding bank) []
  quiet_holding bank := balanced_holding (quiet_holding bank) []
  collecting_holding bank slots result := draining_holding _ bank _ slots _
  dataCleared_holding bank result := drained_holding _ bank _ _
  returned_holding result := balanced_holding consistent_holding _
  idle_returned _ idle := idle
  retired_returned _ _ retired := ⟨retired.1.consistent, retired.2⟩
  quiet_returned _ _ quiet := ⟨quiet.1.consistent, quiet.2⟩
  collecting_returned _ _ _ collecting := ⟨collecting.1.consistent, collecting.2.balanced⟩
  readState handle := by
    refine moves_both ((exclusiveCounter offset reader).readState handle)
      (balanced_booked []) ?_
    intro reply before result balanced _ effect card
    cases reply <;> exact ⟨card, balanced.unmoved (effect.unmoved_read rfl)⟩
  readInUse := once_readInUse
  readSemaphores bank handle := by
    refine moves_both ((exclusiveCounter offset reader).readSemaphores bank handle)
      (balanced_booked []) ?_
    intro reply before result balanced _ effect card
    rcases balanced.readSemaphores .counter bank rfl effect (by cases reply <;> rfl) with
      ⟨rfl, kept⟩ | ⟨bytes, rfl, draining⟩
    · exact ⟨card, kept⟩
    · exact ⟨card, draining⟩
  readData bank handle slot slots result := by
    refine moves_both ((exclusiveCounter offset reader).readData bank handle slot slots result)
      (draining_booked _ _ _ _ _) ?_
    intro reply before after draining _ effect card
    rcases draining.readLast effect (by cases reply <;> rfl) with ⟨rfl, kept⟩ | ⟨rfl, taken⟩
    · exact ⟨card, kept⟩
    · refine ⟨card, ?_⟩
      rw [List.map_append, List.map_singleton, counterDelivery, counterCarried_entryOf slot
        (Memory.length_read _ _ _ _)]
      exact taken
  clearData bank handle result := by
    refine moves_both ((exclusiveCounter offset reader).clearData bank handle result)
      (draining_booked _ _ _ _ _) ?_
    intro reply before after draining _ effect card
    exact ⟨card, draining.drained.clear List.mem_cons_self effect⟩
  clearSemaphores bank handle result := by
    refine moves_both ((exclusiveCounter offset reader).clearSemaphores bank handle result)
      (drained_booked _ _ _ _) ?_
    intro reply before after drained spares effect card
    exact ⟨card, drained.unlock rfl effect spares⟩

/-! ### I/O ticks -/

def ReaderPhase.deliveries : (phase : ReaderPhase) → phase.Result → List Delivery
  | .flow => List.map flowDelivery
  | .counter => List.map counterDelivery

/-- The call has returned: its entries and what they are credited to go on record. -/
def Ledger.close (ledger : Ledger) (card : CardState) (outgoing : List Delivery) : Ledger :=
  { ledger with
    card := card
    returned := ledger.returned ++ outgoing
    sources := ledger.sources ++ ledger.collected
    collected := [] }

/-- The ticks of the card with the ledger beside it. -/
def ledgerService (flowReader : SmartNicReader) (counterReader : CounterReader) :
    Service Ledger NfpCall NfpCall.Reply ReaderPhase ReaderPhase.Result where
  device :=
    { effect := LedgerEffect
      interferes := PublisherStep
      safe := fun ledger _ => ledger.DeliveredOnce }
  body := (tickService flowReader counterReader).body
  finish phase value ledger :=
    ledger.close ((tickService flowReader counterReader).finish phase value ledger.card)
      (phase.deliveries value)
  following := (tickService flowReader counterReader).following

private theorem Balanced.close {outgoing : List Delivery} {ledger : Ledger}
    (balanced : Balanced outgoing ledger) {card : CardState}
    (unchanged : card.memory = ledger.memory) : Balanced [] (ledger.close card outgoing) := by
  obtain ⟨⟨returned, outgoing, distinct, placed⟩, fresh⟩ := balanced
  refine ⟨⟨List.rel_append returned outgoing, .nil, ?_, placed⟩, ?_⟩
  · change ((ledger.sources ++ ledger.collected) ++ []).Nodup
    rw [List.append_nil]
    exact distinct
  · intro place
    change Ledger.Holds _ ((ledger.sources ++ ledger.collected) ++ []) place
    rw [List.append_nil]
    unfold Holds
    change place.store.Ready card.memory place.slot → _
    rw [unchanged]
    intro ready
    change ∃ number, ledger.occupant place = some number ∧
      ledger.published[number]? = some ⟨place, place.store.record card.memory place.slot⟩ ∧
      some number ∉ ledger.sources ++ ledger.collected
    rw [unchanged]
    exact fresh place ready

def oncePoints (offset : Bank → Nat) (phase : ReaderPhase) (ledger : Ledger) : Prop :=
  tickPoints offset phase ledger.card ∧ Balanced [] ledger

private theorem oncePoints_bodies (offset : Bank → Nat) (flowReader : SmartNicReader)
    (counterReader : CounterReader) (phase : ReaderPhase) :
    sparingCard.device.Meets ((ledgerService flowReader counterReader).body phase)
      (oncePoints offset phase)
      (fun value ledger => oncePoints offset
        ((ledgerService flowReader counterReader).following phase)
        ((ledgerService flowReader counterReader).finish phase value ledger)) := by
  cases phase with
  | flow =>
      refine Meets.weaken ?_ (onceFlow offset flowReader).meets_readFlowData
      rintro result ledger ⟨consistent, balanced⟩
      exact ⟨consistent, balanced.close rfl⟩
  | counter =>
      refine Meets.weaken ?_ (onceCounter offset counterReader).meets_readCounterData
      rintro result ledger ⟨⟨counted, room, _, _⟩, balanced⟩
      refine ⟨⟨⟨counted, room, ?_, ?_⟩, rfl, rfl⟩, balanced.close rfl⟩ <;> rintro bank ⟨⟩

/-- A ledger before the first call: the slots that are ready hold the records last
published in them, and nothing was returned yet. -/
structure Opening (ledger : Ledger) : Prop where
  cover : CountersCover ledger.card
  placed : ∀ place number, ledger.occupant place = some number →
    ∃ publication, ledger.published[number]? = some publication ∧ publication.place = place
  stocked : ∀ place, ledger.Holds [] place
  collected : ledger.collected = []
  returned : ledger.returned = []
  sources : ledger.sources = []

private theorem Opening.balanced {ledger : Ledger} (opening : Opening ledger) : Balanced []
    ledger := by
  obtain ⟨_, placed, stocked, collected, returned, sources⟩ := opening
  refine ⟨⟨?_, ?_, ?_, placed⟩, ?_⟩
  · rw [returned, sources]
    exact .nil
  · rw [collected]
    exact .nil
  · rw [sources, collected]
    exact List.nodup_nil
  · intro place
    unfold Fresh
    rw [sources, collected]
    exact stocked place

/-- In every run in which a failing fill of the semaphores spares the records, every entry
returned is a record published in its slot and no record is returned twice. -/
theorem delivered_once (flowReader : SmartNicReader) (counterReader : CounterReader)
    (ledger : Ledger) (opening : Opening ledger)
    (state : ServiceState Ledger NfpCall NfpCall.Reply ReaderPhase ReaderPhase.Result)
    (reachable : (((ledgerService flowReader counterReader).system .flow
      (fun start => start = ledger)).restrict (Service.Permitted SparesRecords)).Reachable
      state) : state.world.DeliveredOnce := by
  refine Service.safe_of_reachable ?_
    (oncePoints_bodies
      (fun bank => ledger.card.memory.inUse bank - ledger.card.contexts.count (some bank))
      flowReader counterReader) (Service.reachable_narrow reachable)
  rintro start rfl
  exact ⟨opening.cover.tickStart, opening.balanced⟩

/-! ### Ticks with one published record -/

def Ledger.answer (ledger : Ledger) (call : NfpCall) (succeeds : Bool) : call.Reply × Ledger :=
  let answered := ledger.card.answer call (if succeeds then .succeeds else .fails)
  (answered.1,
    { ledger with
      card := answered.2
      collected := ledger.collected ++ ledger.credit call answered.1 })

private theorem Ledger.answer_effect (ledger : Ledger) (call : NfpCall) (succeeds : Bool) :
    LedgerEffect ledger call (ledger.answer call succeeds).1
      (ledger.answer call succeeds).2 where
  host := ledger.card.answer_effect call _
  failed := by
    cases call with
    | areaFill area offset value length =>
        intro failed
        cases succeeds with
        | false => rfl
        | true => cases failed
    | _ =>
        intro impossible
        cases impossible
  books := rfl

private theorem sparesRecords_of_succeeds (ledger : Ledger) (call : NfpCall) :
    SparesRecords ledger call (ledger.answer call true).1 := by
  unfold SparesRecords
  split
  · intro failed
    cases failed
  · intro failed
    cases failed
  · trivial

def idleLedger : Ledger where
  card := { memory := fun _ _ => 0, contexts := [none] }

private theorem idleLedger_opening : Opening idleLedger where
  cover := ⟨by decide, by decide, rfl, rfl⟩
  placed := by
    rintro place number ⟨⟩
  stocked := by
    intro place ready
    have zero : idleLedger.memory.word place.store.semaphores (4 * place.slot) = 0 := rfl
    rw [Store.Ready, zero] at ready
    cases ready
  collected := rfl
  returned := rfl
  sources := rfl

def publishedLedger : Ledger :=
  let entered := idleLedger.withCard (idleLedger.card.enter 0)
  let filled := entered.withCard (entered.card.write (.flowKey Bank.primary) 0 [1])
  let published := filled.publish ⟨.flow, Bank.primary, 0⟩
  published.withCard (published.card.leave 0 Bank.primary)

def smallService : Service Ledger NfpCall NfpCall.Reply ReaderPhase ReaderPhase.Result :=
  ledgerService { slotCount := 1 } { slotCount := 1 }

private theorem publishedLedger_reachable
    {permitted : ServiceState Ledger NfpCall NfpCall.Reply ReaderPhase ReaderPhase.Result →
      ServiceAction NfpCall NfpCall.Reply → Prop}
    (interferes : ∀ state, permitted state .interfere) :
    ((smallService.system .flow (fun start => start = idleLedger)).restrict
      permitted).Reachable (smallService.enter .flow publishedLedger) := by
  have moves : ∀ {before after : Ledger}, PublisherStep before after →
      ((smallService.system .flow (fun start => start = idleLedger)).restrict
        permitted).Reachable (smallService.enter .flow before) →
      ((smallService.system .flow (fun start => start = idleLedger)).restrict
        permitted).Reachable (smallService.enter .flow after) := by
    intro before after step reachable
    exact reachable.next ⟨interferes _, .interfere step⟩
  refine moves (.leave 0 rfl) (moves (.publish 0 rfl ?_) (moves
    (@PublisherStep.fill _ 0 ⟨.flow, Bank.primary, 0⟩ (.flowKey Bank.primary) 0 [1] rfl ?_ ?_ ?_ ?_)
    (moves (.enter 0 rfl) (.start ⟨_, rfl, rfl⟩))))
  all_goals decide +kernel

theorem delivered_once_publishedLedger :
    ∃ state : ServiceState Ledger NfpCall NfpCall.Reply ReaderPhase ReaderPhase.Result,
      state.world.returned.length = 1 ∧ state.world.DeliveredOnce := by
  have rehearsed : (smallService.rehearse (fun ledger call (_ : Unit) => ledger.answer call true)
      [List.replicate 24 ()] .flow publishedLedger).map (fun ledger => ledger.returned.length) =
        some 1 := by decide +kernel
  obtain ⟨ledger, ended, one⟩ := Option.map_eq_some_iff.mp rehearsed
  have published := @publishedLedger_reachable (Service.Permitted SparesRecords)
    fun _ => trivial
  obtain ⟨last, reachable⟩ := Service.reachable_of_rehearse
    (fun ledger call _ => ledger.answer_effect call true)
    (fun state call _ => sparesRecords_of_succeeds state.world call) (fun _ => trivial)
    ended published
  exact ⟨_, one, delivered_once { slotCount := 1 } { slotCount := 1 } idleLedger
    idleLedger_opening _ reachable⟩

/-- The first tick returns the record and its fill of the semaphores fails, with every other
call in order. Two ticks later the same slot is drained again. -/
theorem record_delivered_twice :
    ∃ state, (smallService.system .flow (fun start => start = idleLedger)).Reachable state ∧
      state.world.sources = [some 0, some 0] ∧ ¬ state.world.DeliveredOnce := by
  have rehearsed : (smallService.rehearse Ledger.answer
      [List.replicate 20 true ++ false :: List.replicate 3 true, List.replicate 17 true,
        List.replicate 22 true, List.replicate 17 true, List.replicate 24 true]
      .flow publishedLedger).map Ledger.sources = some [some 0, some 0] := by decide +kernel
  obtain ⟨ledger, ended, twice⟩ := Option.map_eq_some_iff.mp rehearsed
  obtain ⟨last, reachable⟩ := Service.reachable_of_rehearse Ledger.answer_effect
    (fun _ _ _ => trivial) (fun _ => trivial) ended
    (@publishedLedger_reachable (fun _ _ => True) fun _ => trivial)
  refine ⟨_, reachable.of_restrict, twice, ?_⟩
  intro delivered
  have once : ledger.sources.Nodup := delivered.once
  rw [twice] at once
  exact absurd once (by decide)

end SflowMiddle.Card

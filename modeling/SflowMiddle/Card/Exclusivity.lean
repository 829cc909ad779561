/-
Bank exclusivity. A reader touches a bank only after it saw that bank retired and
then its in-use counter at zero; no context can enter it any more, because only
the host writes the state word. The counter reader derives its bank from the same
word after the flow reader is done with it, so the two agree within a tick.
-/

import SflowMiddle.Card.Firmware

namespace SflowMiddle.Card

open SflowMiddle.Foundation
open Device

/-- The card under the host's calls and the firmware's contexts. -/
def sharedCard : CardDevice CardState where
  device :=
    { effect := HostEffect
      interferes := FirmwareStep
      safe := Exclusive }
  housekeeping_silent := by
    rintro before call reply after housekeeping ⟨memory, leaves, rfl⟩
    rw [leaves.of_housekeeping housekeeping]
    cases call with
    | areaRead | areaWrite | areaFill => cases housekeeping
    | _ => rfl
  housekeeping_safe := by
    rintro card call housekeeping ⟨_, same⟩
    refine ⟨?_, same⟩
    rintro issued bank ⟨rfl⟩ touches
    rw [NfpCall.bank?_of_housekeeping housekeeping] at touches
    cases touches

/-! ### The points of the outlines -/

/-- Between ticks neither reader has noted a bank. -/
structure TickStart (offset : Bank → Nat) (card : CardState) : Prop where
  consistent : Consistent offset card
  flowUnread : card.flowBank = none
  counterUnread : card.counterBank = none

structure Selected (offset : Bank → Nat) (bank : Bank) (card : CardState) : Prop where
  start : TickStart offset card
  active : card.memory.activeBank = bank

structure Retired (offset : Bank → Nat) (bank : Bank) (card : CardState) : Prop where
  consistent : Consistent offset card
  retired : card.memory.activeBank ≠ bank

structure Quiet (offset : Bank → Nat) (bank : Bank) (card : CardState) : Prop where
  consistent : Consistent offset card
  retired : card.memory.activeBank ≠ bank
  outside : card.Outside bank

variable {offset : Bank → Nat} {bank : Bank}

private theorem exclusive_none {card : CardState} (consistent : Consistent offset card) :
    Exclusive card none := by
  refine ⟨?_, consistent.sameBank⟩
  rintro issued bank ⟨⟩

private theorem exclusive_of_bankless {card : CardState} (consistent : Consistent offset card)
    {call : NfpCall} (bankless : call.bank? = none) : Exclusive card (some call) := by
  refine ⟨?_, consistent.sameBank⟩
  rintro issued bank ⟨rfl⟩ touches
  rw [bankless] at touches
  cases touches

private theorem Quiet.exclusive {card : CardState} (quiet : Quiet offset bank card) {call : NfpCall}
    (touches : call.bank? = some bank) : Exclusive card (some call) := by
  refine ⟨?_, quiet.consistent.sameBank⟩
  rintro issued other ⟨rfl⟩ touched
  rw [touches] at touched
  cases touched
  exact quiet.outside

theorem consistent_holding : sharedCard.device.Holding (Consistent offset) where
  stable := fun _ _ step consistent => consistent_firmware step consistent
  safe := fun _ consistent => exclusive_none consistent

theorem tickStart_holding : sharedCard.device.Holding (TickStart offset) where
  stable := by
    rintro before after step ⟨consistent, flowUnread, counterUnread⟩
    obtain ⟨flowSame, counterSame⟩ := step.noted
    exact ⟨consistent_firmware step consistent, flowSame.trans flowUnread,
      counterSame.trans counterUnread⟩
  safe := fun _ start => exclusive_none start.consistent

theorem selected_holding (bank : Bank) : sharedCard.device.Holding (Selected offset bank) where
  stable := by
    rintro before after step ⟨start, active⟩
    exact ⟨tickStart_holding.stable _ _ step start, step.activeBank.trans active⟩
  safe := fun _ selected => exclusive_none selected.start.consistent

theorem retired_holding (bank : Bank) : sharedCard.device.Holding (Retired offset bank) where
  stable := by
    rintro before after step ⟨consistent, retired⟩
    exact ⟨consistent_firmware step consistent, by rw [step.activeBank]; exact retired⟩
  safe := fun _ retired => exclusive_none retired.consistent

theorem quiet_holding (bank : Bank) : sharedCard.device.Holding (Quiet offset bank) where
  stable := by
    rintro before after step ⟨consistent, retired, outside⟩
    exact ⟨consistent_firmware step consistent, by rw [step.activeBank]; exact retired,
      step.outside retired outside⟩
  safe := fun _ quiet => exclusive_none quiet.consistent

/-! ### What the host's calls do at these points -/

theorem hostEffect_read {before after : CardState} {area : Area} {position length : Nat}
    {reply : Option (List UInt8)}
    (effect : HostEffect before (.areaRead area position length) reply after) :
    after = before.noted (.areaRead area position length) ∧
      (reply = none ∨ reply = some (before.memory.read area.region position length)) := by
  obtain ⟨memory, ⟨same, read⟩, rfl⟩ := effect
  subst same
  refine ⟨?_, read⟩
  unfold CardState.noted
  split <;> rfl

private theorem Quiet.noted {card : CardState} (quiet : Quiet offset bank card) {call : NfpCall}
    (touches : call.bank? = some bank) : Quiet offset bank (card.noted call) := by
  obtain ⟨⟨counted, room, flowRetired, counterRetired⟩, retired, outside⟩ := quiet
  unfold CardState.noted
  split
  · cases touches
    refine ⟨⟨counted, room, ?_, counterRetired⟩, retired, outside⟩
    rintro noted ⟨rfl⟩
    exact retired
  · cases touches
    refine ⟨⟨counted, room, flowRetired, ?_⟩, retired, outside⟩
    rintro noted ⟨rfl⟩
    exact retired
  · exact ⟨⟨counted, room, flowRetired, counterRetired⟩, retired, outside⟩

private theorem Quiet.write {card : CardState} (quiet : Quiet offset bank card) {region : Region}
    (within : region.bank? = some bank) (position : Nat) (bytes : List UInt8) :
    Quiet offset bank { card with memory := card.memory.write region position bytes } := by
  obtain ⟨⟨counted, room, flowRetired, counterRetired⟩, retired, outside⟩ := quiet
  obtain ⟨notState, notInUse⟩ := bank?_ne_curState within
  have active := @activeBank_write_of_ne card.memory region notState position bytes
  refine ⟨⟨?_, room, ?_, ?_⟩, ?_, outside⟩
  · intro other
    exact (inUse_write_of_ne notInUse position bytes other).trans (counted other)
  · intro other noted
    exact (active ▸ flowRetired other noted)
  · intro other noted
    exact (active ▸ counterRetired other noted)
  · exact (active ▸ retired)

private theorem quiet_moves_read {area : Area} (touches : area.region.bank? = some bank)
    (position length : Nat) {after : Option (List UInt8) → CardState → Prop}
    (implies : ∀ reply card, Quiet offset bank card → after reply card) :
    sharedCard.device.Moves (Quiet offset bank) (.areaRead area position length) after where
  safe := fun _ quiet => quiet.exclusive touches
  moves := by
    intro reply before result quiet effect
    obtain ⟨rfl, _⟩ := hostEffect_read effect
    exact implies reply _ (quiet.noted touches)

private theorem quiet_moves_fill {area : Area} (touches : area.region.bank? = some bank)
    (position : Nat) (value : UInt32) (length : Nat) {after : CardState → Prop}
    (implies : ∀ card, Quiet offset bank card → after card) :
    sharedCard.device.Moves (Quiet offset bank) (.areaFill area position value length)
      (fun _ => after) where
  safe := fun _ quiet => quiet.exclusive touches
  moves := by
    rintro reply before result quiet ⟨memory, filled | ⟨_, same⟩, rfl⟩
    · subst filled
      exact implies _ (quiet.write touches position _)
    · subst same
      exact implies _ quiet

theorem moves_readInUse (bank : Bank) (handle : Nat) :
    sharedCard.device.Moves (Retired offset bank)
      (.areaRead ⟨.processingMe, 8, handle⟩ (4 * bank.val) 4)
      (fun reply => if stillInUse reply then Retired offset bank
        else if reply.isSome then Quiet offset bank else Consistent offset) where
  safe := fun _ retired => exclusive_of_bankless retired.consistent rfl
  moves := by
    intro reply before result retired effect
    obtain ⟨same, answered⟩ := hostEffect_read effect
    have unchanged : result = before := same
    rw [unchanged]
    rcases answered with rfl | rfl
    · exact retired.consistent
    · split
      · exact retired
      · rename_i zero
        have unused : before.memory.inUse bank = 0 := by
          simpa [stillInUse, Memory.inUse, Memory.word] using zero
        exact ⟨retired.consistent, retired.retired,
          retired.consistent.outside_of_inUse_zero unused⟩

private theorem moves_readState {point : CardState → Prop}
    (consistent : ∀ card, point card → Consistent offset card) (handle : Nat)
    {after : Option (List UInt8) → CardState → Prop}
    (failed : ∀ card, point card → after none card)
    (implies : ∀ card, point card → after (some (card.memory.read .curState 0 4)) card) :
    sharedCard.device.Moves point (.areaRead ⟨.curState, 4, handle⟩ 0 4) after where
  safe := fun _ holds => exclusive_of_bankless (consistent _ holds) rfl
  moves := by
    intro reply before result holds effect
    obtain ⟨same, answered⟩ := hostEffect_read effect
    have unchanged : result = before := same
    rw [unchanged]
    rcases answered with rfl | rfl
    · exact failed _ holds
    · exact implies _ holds

private theorem moves_writeState (bank : Bank) (handle : Nat) :
    sharedCard.device.Moves (Selected offset bank)
      (.areaWrite ⟨.curState, 4, handle⟩ 0 (encode 4 (otherBank bank).val))
      (fun written => if written then Retired offset bank else Consistent offset) where
  safe := fun _ selected => exclusive_of_bankless selected.start.consistent rfl
  moves := by
    rintro reply before result ⟨⟨⟨counted, room, _, _⟩, flowUnread, counterUnread⟩, active⟩
      ⟨memory, written | ⟨failed, same⟩, rfl⟩
    · subst written
      have flipped : Consistent offset
          { before with
            memory := before.memory.write .curState 0 (encode 4 (otherBank bank).val) } := by
        refine ⟨?_, room, ?_, ?_⟩
        · intro other
          exact (inUse_write_of_ne (by decide) _ _ other).trans (counted other)
        · intro other noted
          exact absurd (flowUnread.symm.trans noted) (by simp)
        · intro other noted
          exact absurd (counterUnread.symm.trans noted) (by simp)
      split
      · refine ⟨flipped, ?_⟩
        change (before.memory.write .curState 0 (encode 4 (otherBank bank).val)).activeBank ≠ bank
        rw [activeBank_flip]
        exact otherBank_ne bank
      · exact flipped
    · subst failed same
      refine ⟨counted, room, ?_, ?_⟩
      · intro other noted
        exact absurd (flowUnread.symm.trans noted) (by simp)
      · intro other noted
        exact absurd (counterUnread.symm.trans noted) (by simp)

/-! ### The outlines -/

def exclusiveFlow (offset : Bank → Nat) (reader : SmartNicReader) :
    FlowOutline sharedCard reader where
  idle := TickStart offset
  selected := Selected offset
  retired := Retired offset
  quiet := Quiet offset
  collecting bank _ _ := Quiet offset bank
  keyed bank _ _ _ _ := Quiet offset bank
  keyCleared bank _ := Quiet offset bank
  dataCleared bank _ := Quiet offset bank
  returned _ := Consistent offset
  idle_holding := tickStart_holding
  selected_holding := selected_holding
  retired_holding := retired_holding
  quiet_holding := quiet_holding
  collecting_holding bank _ _ := quiet_holding bank
  keyed_holding bank _ _ _ _ := quiet_holding bank
  keyCleared_holding bank _ := quiet_holding bank
  dataCleared_holding bank _ := quiet_holding bank
  returned_holding _ := consistent_holding
  idle_returned _ start := start.consistent
  retired_returned _ _ retired := retired.consistent
  quiet_returned _ _ quiet := quiet.consistent
  collecting_returned _ _ _ quiet := quiet.consistent
  readState handle :=
    moves_readState (fun _ start => start.consistent) handle (fun _ start => start.consistent)
      (fun _ start => ⟨start, rfl⟩)
  writeState := moves_writeState
  readInUse := moves_readInUse
  readSemaphores bank handle := by
    refine @quiet_moves_read offset bank _ rfl _ _ _ ?_
    intro reply card quiet
    cases reply with
    | none => exact quiet.consistent
    | some bytes => exact quiet
  readKey bank handle slot slots result := by
    refine @quiet_moves_read offset bank _ rfl _ _ _ ?_
    intro reply card quiet
    cases reply <;> exact quiet
  readData bank handle slot key slots result := by
    refine @quiet_moves_read offset bank _ rfl _ _ _ ?_
    intro reply card quiet
    cases reply <;> exact quiet
  clearKeys _ _ _ := quiet_moves_fill rfl _ _ _ (fun _ quiet => quiet)
  clearData _ _ _ := quiet_moves_fill rfl _ _ _ (fun _ quiet => quiet)
  clearSemaphores _ _ _ := quiet_moves_fill rfl _ _ _ (fun _ quiet => quiet.consistent)

def exclusiveCounter (offset : Bank → Nat) (reader : CounterReader) :
    CounterOutline sharedCard reader where
  idle := Consistent offset
  retired := Retired offset
  quiet := Quiet offset
  collecting bank _ _ := Quiet offset bank
  dataCleared bank _ := Quiet offset bank
  returned _ := Consistent offset
  idle_holding := consistent_holding
  retired_holding := retired_holding
  quiet_holding := quiet_holding
  collecting_holding bank _ _ := quiet_holding bank
  dataCleared_holding bank _ := quiet_holding bank
  returned_holding _ := consistent_holding
  idle_returned _ consistent := consistent
  retired_returned _ _ retired := retired.consistent
  quiet_returned _ _ quiet := quiet.consistent
  collecting_returned _ _ _ quiet := quiet.consistent
  readState handle :=
    moves_readState (fun _ consistent => consistent) handle (fun _ consistent => consistent)
      (fun _ consistent => ⟨consistent, (otherBank_ne _).symm⟩)
  readInUse := moves_readInUse
  readSemaphores bank handle := by
    refine @quiet_moves_read offset bank _ rfl _ _ _ ?_
    intro reply card quiet
    cases reply with
    | none => exact quiet.consistent
    | some bytes => exact quiet
  readData bank handle slot slots result := by
    refine @quiet_moves_read offset bank _ rfl _ _ _ ?_
    intro reply card quiet
    cases reply <;> exact quiet
  clearData _ _ _ := quiet_moves_fill rfl _ _ _ (fun _ quiet => quiet)
  clearSemaphores _ _ _ := quiet_moves_fill rfl _ _ _ (fun _ quiet => quiet.consistent)

/-! ### I/O ticks -/

inductive ReaderPhase where
  | flow
  | counter
  deriving DecidableEq

abbrev ReaderPhase.Result : ReaderPhase → Type
  | .flow => List FlowData
  | .counter => List CounterData

/-- smartNicIoThread on the card: readFlowData, then readCounterData, for ever. -/
def tickService (flowReader : SmartNicReader) (counterReader : CounterReader) :
    Service CardState NfpCall NfpCall.Reply ReaderPhase ReaderPhase.Result where
  device := sharedCard.device
  body
    | .flow => flowReader.readFlowData
    | .counter => counterReader.readCounterData
  finish
    | .flow => fun _ card => card
    | .counter => fun _ card => { card with flowBank := none, counterBank := none }
  following
    | .flow => .counter
    | .counter => .flow

/-- Any card whose in-use counters cover the contexts inside and have room for the rest. -/
structure CountersCover (card : CardState) : Prop where
  covered : ∀ bank, card.contexts.count (some bank) ≤ card.memory.inUse bank
  room : ∀ bank, card.memory.inUse bank - card.contexts.count (some bank) +
    card.contexts.length < 2 ^ 32
  flowUnread : card.flowBank = none
  counterUnread : card.counterBank = none

def tickPoints (offset : Bank → Nat) : ReaderPhase → CardState → Prop
  | .flow => TickStart offset
  | .counter => Consistent offset

private theorem tickPoints_bodies (offset : Bank → Nat) (flowReader : SmartNicReader)
    (counterReader : CounterReader) (phase : ReaderPhase) :
    (tickService flowReader counterReader).device.Meets
      ((tickService flowReader counterReader).body phase) (tickPoints offset phase)
      (fun value card => tickPoints offset
        ((tickService flowReader counterReader).following phase)
        ((tickService flowReader counterReader).finish phase value card)) := by
  cases phase with
  | flow => exact (exclusiveFlow offset flowReader).meets_readFlowData
  | counter =>
      refine Meets.weaken ?_ (exclusiveCounter offset counterReader).meets_readCounterData
      rintro _ card ⟨counted, room, _, _⟩
      refine ⟨⟨counted, room, ?_, ?_⟩, rfl, rfl⟩ <;> rintro bank ⟨⟩

theorem CountersCover.tickStart {card : CardState} (cover : CountersCover card) :
    TickStart (fun bank => card.memory.inUse bank - card.contexts.count (some bank)) card := by
  obtain ⟨covered, room, flowUnread, counterUnread⟩ := cover
  refine ⟨⟨?_, room, ?_, ?_⟩, flowUnread, counterUnread⟩
  · intro bank
    have below := covered bank
    omega
  · intro bank noted
    exact absurd (flowUnread.symm.trans noted) (by simp)
  · intro bank noted
    exact absurd (counterUnread.symm.trans noted) (by simp)

/-- No context is inside a bank whose semaphores, records or counters the host is about to
read or fill, and the two readers of a tick address the same bank. -/
theorem bank_exclusive (flowReader : SmartNicReader) (counterReader : CounterReader)
    (card : CardState) (cover : CountersCover card)
    (state : ServiceState CardState NfpCall NfpCall.Reply ReaderPhase ReaderPhase.Result)
    (reachable : ((tickService flowReader counterReader).system .flow
      (fun start => start = card)).Reachable state) :
    (∀ call bank, state.program.issues = some call → call.bank? = some bank →
        state.world.Outside bank) ∧
      (∀ flowBank counterBank, state.world.flowBank = some flowBank →
        state.world.counterBank = some counterBank → flowBank = counterBank) := by
  have safe : Exclusive state.world state.program.issues := by
    refine Service.safe_of_reachable ?_
      (tickPoints_bodies (fun bank => card.memory.inUse bank - card.contexts.count (some bank))
        flowReader counterReader) reachable
    rintro start rfl
    exact cover.tickStart
  exact safe

def busyCard : CardState where
  memory := fun region position => if region = .processingMe ∧ position = 4 then 1 else 0
  contexts := [some Bank.dup, none]

private theorem busyCard_countersCover : CountersCover busyCard where
  covered := by decide
  room := by decide
  flowUnread := rfl
  counterUnread := rfl

def CardState.answer (card : CardState) (call : NfpCall) (outcome : Outcome) :
    call.Reply × CardState :=
  ((call.answer card.memory outcome).1,
    { card.noted call with memory := (call.answer card.memory outcome).2 })

theorem CardState.answer_effect (card : CardState) (call : NfpCall) (outcome : Outcome) :
    HostEffect card call (card.answer call outcome).1 (card.answer call outcome).2 :=
  ⟨_, call.answer_leaves card.memory outcome, rfl⟩

def busyAdvance : NfpProgram (List FlowData) × CardState :=
  ({ slotCount := 4 } : SmartNicReader).readFlowData.advance CardState.answer
    (List.replicate 11 .succeeds) busyCard

/-- There the flow reader is about to read the semaphores of the primary bank, while the
context is still inside the other one. -/
theorem bank_exclusive_busyCard :
    busyAdvance.1.issues.bind NfpCall.bank? = some Bank.primary ∧
      some Bank.dup ∈ busyAdvance.2.contexts ∧ busyAdvance.2.Outside Bank.primary := by
  have issued : busyAdvance.1.issues.bind NfpCall.bank? = some Bank.primary := by
    decide +kernel
  obtain ⟨call, issues, touches⟩ := Option.bind_eq_some_iff.mp issued
  have reachable := @Service.reachable_of_advance _ _ _ _ _
    (tickService { slotCount := 4 } { slotCount := 2 }) .flow (fun start => start = busyCard)
    (fun _ _ => True) _ _ CardState.answer_effect (fun _ _ _ => trivial)
    (List.replicate 11 .succeeds) .flow _ _ (.start ⟨busyCard, rfl, rfl⟩)
  have exclusive := bank_exclusive { slotCount := 4 } { slotCount := 2 } busyCard
    busyCard_countersCover _ reachable.of_restrict
  exact ⟨issued, by decide +kernel, exclusive.1 call _ issues touches⟩

end SflowMiddle.Card

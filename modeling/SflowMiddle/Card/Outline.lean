/-
Proof outlines of the two readers. An outline names what holds at each point of a
reader and says that every call goes from one point to the next, whatever it
answers; the area bookkeeping in between keeps the point it is at. Each property
of the readers is an outline over the state that property is about.
-/

import SflowMiddle.Card.Readers

namespace SflowMiddle.Card

open SflowMiddle.Foundation
open Device

variable {World : Type}

/-- A device whose area bookkeeping is silent and always safe. -/
structure CardDevice (World : Type) where
  device : Device World NfpCall NfpCall.Reply
  housekeeping_silent : ∀ {world : World} {call : NfpCall} {reply : call.Reply}
    {result : World}, call.Housekeeping → device.effect world call reply result → result = world
  housekeeping_safe : ∀ {world : World} {call : NfpCall}, call.Housekeeping →
    device.safe world none → device.safe world (some call)

variable {card : CardDevice World} {α : Type}

private theorem moves_housekeeping {point : World → Prop} (holding : card.device.Holding point)
    {call : NfpCall} (housekeeping : call.Housekeeping) :
    card.device.Moves point call (fun _ => point) where
  safe := fun world holds => card.housekeeping_safe housekeeping (holding.safe world holds)
  moves := by
    intro reply world result holds effect
    rw [card.housekeeping_silent housekeeping effect]
    exact holds

private theorem meets_call {call : NfpCall} {next : call.Reply → NfpProgram α}
    {before : World → Prop}
    {middle : call.Reply → World → Prop} {after : α → World → Prop}
    (holding : card.device.Holding before) (moves : card.device.Moves before call middle)
    (rest : ∀ reply, card.device.Meets (next reply) (middle reply) after) :
    card.device.Meets ((Program.call call .done : NfpProgram call.Reply) >>= next) before after :=
  Meets.call holding moves rest

private theorem meets_releaseFree {area : Area} {next : Unit → NfpProgram α} {point : World → Prop}
    {after : α → World → Prop} (holding : card.device.Holding point)
    (rest : card.device.Meets (next ()) point after) :
    card.device.Meets (areaReleaseFree area >>= next) point after :=
  meets_call holding (moves_housekeeping holding trivial) (fun _ => rest)

private theorem meets_openArea {region : Region} {size : Nat} {next : Option Area → NfpProgram α}
    {point : World → Prop} {after : α → World → Prop} (holding : card.device.Holding point)
    (failed : card.device.Meets (next none) point after)
    (opened : ∀ handle, card.device.Meets (next (some ⟨region, size, handle⟩)) point after) :
    card.device.Meets (openArea region size >>= next) point after := by
  refine Meets.call holding (moves_housekeeping holding trivial) ?_
  intro handle
  cases handle with
  | none => exact failed
  | some handle =>
      refine Meets.call holding (moves_housekeeping holding trivial) ?_
      intro acquired
      cases acquired with
      | false => exact Meets.call holding (moves_housekeeping holding trivial) (fun _ => failed)
      | true => exact opened handle

private theorem meets_awaitQuiescence {bank : Bank} {next : Bool → NfpProgram α}
    {retired quiet failed : World → Prop} {after : α → World → Prop}
    (retiredHolding : card.device.Holding retired) (quietHolding : card.device.Holding quiet)
    (failedHolding : card.device.Holding failed)
    (polls : ∀ handle, card.device.Moves retired
      (.areaRead ⟨.processingMe, 8, handle⟩ (4 * bank.val) 4)
      (fun reply => if stillInUse reply then retired else if reply.isSome then quiet else failed))
    (unopened : card.device.Meets (next false) retired after)
    (waited : card.device.Meets (next true) quiet after)
    (lost : card.device.Meets (next false) failed after) :
    card.device.Meets (awaitQuiescence bank >>= next) retired after := by
  unfold awaitQuiescence
  rw [Program.bind_assoc]
  refine meets_openArea retiredHolding unopened ?_
  intro handle
  refine Meets.poll retiredHolding (polls handle) ?_
  intro reply left
  cases reply with
  | none => exact meets_releaseFree failedHolding lost
  | some bytes => exact meets_releaseFree quietHolding waited

/-! ### The flow reader -/

structure FlowOutline (card : CardDevice World) (reader : SmartNicReader) where
  idle : World → Prop
  selected : Bank → World → Prop
  retired : Bank → World → Prop
  quiet : Bank → World → Prop
  collecting : Bank → List Nat → List FlowData → World → Prop
  keyed : Bank → Nat → List UInt8 → List Nat → List FlowData → World → Prop
  keyCleared : Bank → List FlowData → World → Prop
  dataCleared : Bank → List FlowData → World → Prop
  returned : List FlowData → World → Prop
  idle_holding : card.device.Holding idle
  selected_holding : ∀ bank, card.device.Holding (selected bank)
  retired_holding : ∀ bank, card.device.Holding (retired bank)
  quiet_holding : ∀ bank, card.device.Holding (quiet bank)
  collecting_holding : ∀ bank slots result, card.device.Holding (collecting bank slots result)
  keyed_holding : ∀ bank slot key slots result,
    card.device.Holding (keyed bank slot key slots result)
  keyCleared_holding : ∀ bank result, card.device.Holding (keyCleared bank result)
  dataCleared_holding : ∀ bank result, card.device.Holding (dataCleared bank result)
  returned_holding : ∀ result, card.device.Holding (returned result)
  idle_returned : ∀ world, idle world → returned [] world
  retired_returned : ∀ bank world, retired bank world → returned [] world
  quiet_returned : ∀ bank world, quiet bank world → returned [] world
  collecting_returned : ∀ bank slots world, collecting bank slots [] world → returned [] world
  readState : ∀ handle, card.device.Moves idle (.areaRead ⟨.curState, 4, handle⟩ 0 4)
    (fun reply => match reply with
      | none => returned []
      | some bytes => selected (bankOf (decode bytes)))
  writeState : ∀ bank handle, card.device.Moves (selected bank)
    (.areaWrite ⟨.curState, 4, handle⟩ 0 (encode 4 (otherBank bank).val))
    (fun written => if written then retired bank else returned [])
  readInUse : ∀ bank handle, card.device.Moves (retired bank)
    (.areaRead ⟨.processingMe, 8, handle⟩ (4 * bank.val) 4)
    (fun reply => if stillInUse reply then retired bank
      else if reply.isSome then quiet bank else returned [])
  readSemaphores : ∀ bank handle, card.device.Moves (quiet bank)
    (.areaRead ⟨.flowSem bank, reader.semSize, handle⟩ 0 reader.semSize)
    (fun reply => match reply with
      | none => returned []
      | some bytes => collecting bank (haveData reader.slotCount bytes) [])
  readKey : ∀ bank handle slot slots result, card.device.Moves
    (collecting bank (slot :: slots) result)
    (.areaRead ⟨.flowKey bank, reader.keySize, handle⟩ (slot * recordSize) recordSize)
    (fun reply => match reply with
      | none => collecting bank slots result
      | some key => keyed bank slot key slots result)
  readData : ∀ bank handle slot key slots result, card.device.Moves
    (keyed bank slot key slots result)
    (.areaRead ⟨.flowData bank, reader.dataSize, handle⟩ (slot * recordSize) recordSize)
    (fun reply => match reply with
      | none => collecting bank slots result
      | some data =>
          collecting bank slots (result ++ [SmartNicReader.entryOf slot key data]))
  clearKeys : ∀ bank handle result, card.device.Moves (collecting bank [] result)
    (.areaFill ⟨.flowKey bank, reader.keySize, handle⟩ 0 kDataClearValue reader.keySize)
    (fun _ => keyCleared bank result)
  clearData : ∀ bank handle result, card.device.Moves (keyCleared bank result)
    (.areaFill ⟨.flowData bank, reader.dataSize, handle⟩ 0 kDataClearValue reader.dataSize)
    (fun _ => dataCleared bank result)
  clearSemaphores : ∀ bank handle result, card.device.Moves (dataCleared bank result)
    (.areaFill ⟨.flowSem bank, reader.semSize, handle⟩ 0 kSemUnlockValue reader.semSize)
    (fun _ => returned result)

namespace FlowOutline

variable {reader : SmartNicReader} (outline : FlowOutline card reader)

private theorem meets_collect {bank : Bank} {keyHandle dataHandle : Nat} {slots : List Nat}
    {next : List FlowData → NfpProgram α} {after : α → World → Prop}
    (rest : ∀ result, card.device.Meets (next result) (outline.collecting bank [] result) after)
    (result : List FlowData) :
    card.device.Meets
      (SmartNicReader.collect ⟨.flowKey bank, reader.keySize, keyHandle⟩
        ⟨.flowData bank, reader.dataSize, dataHandle⟩ slots result >>= next)
      (outline.collecting bank slots result) after := by
  induction slots generalizing result with
  | nil => exact rest result
  | cons slot slots ih =>
      refine Meets.call (outline.collecting_holding bank _ result)
        (outline.readKey bank keyHandle slot slots result) ?_
      intro key
      cases key with
      | none => exact ih result
      | some key =>
          refine Meets.call (outline.keyed_holding bank slot key slots result)
            (outline.readData bank dataHandle slot key slots result) ?_
          intro data
          cases data with
          | none => exact ih result
          | some data => exact ih _

private theorem meets_drain (bank : Bank) :
    card.device.Meets (reader.drain bank) (outline.quiet bank) outline.returned := by
  refine meets_openArea (outline.quiet_holding bank)
    (Meets.done (outline.quiet_holding bank) (outline.quiet_returned bank)) ?_
  intro semHandle
  refine meets_call (outline.quiet_holding bank) (outline.readSemaphores bank semHandle) ?_
  intro semaphores
  cases semaphores with
  | none =>
      exact meets_releaseFree (outline.returned_holding [])
        (Meets.done (outline.returned_holding []) (fun _ holds => holds))
  | some semaphores =>
      have collecting := outline.collecting_holding bank (haveData reader.slotCount semaphores) []
      have abandon : card.device.Meets (pure [] : NfpProgram (List FlowData))
          (outline.collecting bank (haveData reader.slotCount semaphores) [])
          outline.returned :=
        Meets.done collecting (outline.collecting_returned bank _)
      refine meets_openArea collecting (meets_releaseFree collecting abandon) ?_
      intro keyHandle
      refine meets_openArea collecting
        (meets_releaseFree collecting (meets_releaseFree collecting abandon)) ?_
      intro dataHandle
      refine outline.meets_collect ?_ []
      intro result
      refine meets_call (outline.collecting_holding bank [] result)
        (outline.clearKeys bank keyHandle result) fun _ => ?_
      refine meets_call (outline.keyCleared_holding bank result)
        (outline.clearData bank dataHandle result) fun _ => ?_
      refine meets_call (outline.dataCleared_holding bank result)
        (outline.clearSemaphores bank semHandle result) fun _ => ?_
      have returned := outline.returned_holding result
      exact meets_releaseFree returned (meets_releaseFree returned (meets_releaseFree returned
        (Meets.done returned (fun _ holds => holds))))

theorem meets_readFlowData :
    card.device.Meets reader.readFlowData outline.idle outline.returned := by
  have nothing : card.device.Meets (pure [] : NfpProgram (List FlowData)) (outline.returned [])
      outline.returned :=
    Meets.done (outline.returned_holding []) (fun _ holds => holds)
  unfold SmartNicReader.readFlowData
  split
  · exact Meets.done outline.idle_holding outline.idle_returned
  · refine meets_openArea outline.idle_holding
      (Meets.done outline.idle_holding outline.idle_returned) ?_
    intro staHandle
    refine meets_call outline.idle_holding (outline.readState staHandle) ?_
    intro staValue
    cases staValue with
    | none => exact meets_releaseFree (outline.returned_holding []) nothing
    | some staValue =>
        refine meets_call (outline.selected_holding _) (outline.writeState _ staHandle) ?_
        intro written
        cases written with
        | false => exact meets_releaseFree (outline.returned_holding []) nothing
        | true =>
            refine meets_releaseFree (outline.retired_holding _) ?_
            exact meets_awaitQuiescence (outline.retired_holding _) (outline.quiet_holding _)
              (outline.returned_holding []) (outline.readInUse _)
              (Meets.done (outline.retired_holding _) (outline.retired_returned _))
              (outline.meets_drain _) nothing

end FlowOutline

/-! ### The counter reader -/

structure CounterOutline (card : CardDevice World) (reader : CounterReader) where
  idle : World → Prop
  retired : Bank → World → Prop
  quiet : Bank → World → Prop
  collecting : Bank → List Nat → List CounterData → World → Prop
  dataCleared : Bank → List CounterData → World → Prop
  returned : List CounterData → World → Prop
  idle_holding : card.device.Holding idle
  retired_holding : ∀ bank, card.device.Holding (retired bank)
  quiet_holding : ∀ bank, card.device.Holding (quiet bank)
  collecting_holding : ∀ bank slots result, card.device.Holding (collecting bank slots result)
  dataCleared_holding : ∀ bank result, card.device.Holding (dataCleared bank result)
  returned_holding : ∀ result, card.device.Holding (returned result)
  idle_returned : ∀ world, idle world → returned [] world
  retired_returned : ∀ bank world, retired bank world → returned [] world
  quiet_returned : ∀ bank world, quiet bank world → returned [] world
  collecting_returned : ∀ bank slots world, collecting bank slots [] world → returned [] world
  readState : ∀ handle, card.device.Moves idle (.areaRead ⟨.curState, 4, handle⟩ 0 4)
    (fun reply => match reply with
      | none => returned []
      | some bytes => retired (otherBank (bankOf (decode bytes))))
  readInUse : ∀ bank handle, card.device.Moves (retired bank)
    (.areaRead ⟨.processingMe, 8, handle⟩ (4 * bank.val) 4)
    (fun reply => if stillInUse reply then retired bank
      else if reply.isSome then quiet bank else returned [])
  readSemaphores : ∀ bank handle, card.device.Moves (quiet bank)
    (.areaRead ⟨.counterSem bank, reader.semSize, handle⟩ 0 reader.semSize)
    (fun reply => match reply with
      | none => returned []
      | some bytes => collecting bank (haveData reader.slotCount bytes) [])
  readData : ∀ bank handle slot slots result, card.device.Moves
    (collecting bank (slot :: slots) result)
    (.areaRead ⟨.counterData bank, reader.dataSize, handle⟩ (slot * recordSize) recordSize)
    (fun reply => match reply with
      | none => collecting bank slots result
      | some data => collecting bank slots (result ++ [CounterReader.entryOf slot data]))
  clearData : ∀ bank handle result, card.device.Moves (collecting bank [] result)
    (.areaFill ⟨.counterData bank, reader.dataSize, handle⟩ 0 kDataClearValue reader.dataSize)
    (fun _ => dataCleared bank result)
  clearSemaphores : ∀ bank handle result, card.device.Moves (dataCleared bank result)
    (.areaFill ⟨.counterSem bank, reader.semSize, handle⟩ 0 kSemUnlockValue reader.semSize)
    (fun _ => returned result)

namespace CounterOutline

variable {reader : CounterReader} (outline : CounterOutline card reader)

private theorem meets_collect {bank : Bank} {dataHandle : Nat} {slots : List Nat}
    {next : List CounterData → NfpProgram α} {after : α → World → Prop}
    (rest : ∀ result, card.device.Meets (next result) (outline.collecting bank [] result) after)
    (result : List CounterData) :
    card.device.Meets
      (CounterReader.collect ⟨.counterData bank, reader.dataSize, dataHandle⟩ slots result >>=
        next)
      (outline.collecting bank slots result) after := by
  induction slots generalizing result with
  | nil => exact rest result
  | cons slot slots ih =>
      refine Meets.call (outline.collecting_holding bank _ result)
        (outline.readData bank dataHandle slot slots result) ?_
      intro data
      cases data with
      | none => exact ih result
      | some data => exact ih _

private theorem meets_drain (bank : Bank) :
    card.device.Meets (reader.drain bank) (outline.quiet bank) outline.returned := by
  refine meets_openArea (outline.quiet_holding bank)
    (Meets.done (outline.quiet_holding bank) (outline.quiet_returned bank)) ?_
  intro semHandle
  refine meets_call (outline.quiet_holding bank) (outline.readSemaphores bank semHandle) ?_
  intro semaphores
  cases semaphores with
  | none =>
      exact meets_releaseFree (outline.returned_holding [])
        (Meets.done (outline.returned_holding []) (fun _ holds => holds))
  | some semaphores =>
      have collecting := outline.collecting_holding bank (haveData reader.slotCount semaphores) []
      refine meets_openArea collecting (meets_releaseFree collecting
        (Meets.done collecting (outline.collecting_returned bank _))) ?_
      intro dataHandle
      refine outline.meets_collect ?_ []
      intro result
      refine meets_call (outline.collecting_holding bank [] result)
        (outline.clearData bank dataHandle result) fun _ => ?_
      refine meets_call (outline.dataCleared_holding bank result)
        (outline.clearSemaphores bank semHandle result) fun _ => ?_
      have returned := outline.returned_holding result
      exact meets_releaseFree returned (meets_releaseFree returned
        (Meets.done returned (fun _ holds => holds)))

theorem meets_readCounterData :
    card.device.Meets reader.readCounterData outline.idle outline.returned := by
  have nothing : card.device.Meets (pure [] : NfpProgram (List CounterData))
      (outline.returned []) outline.returned :=
    Meets.done (outline.returned_holding []) (fun _ holds => holds)
  unfold CounterReader.readCounterData
  split
  · exact Meets.done outline.idle_holding outline.idle_returned
  · refine meets_openArea outline.idle_holding
      (Meets.done outline.idle_holding outline.idle_returned) ?_
    intro staHandle
    refine meets_call outline.idle_holding (outline.readState staHandle) ?_
    intro staValue
    cases staValue with
    | none => exact meets_releaseFree (outline.returned_holding []) nothing
    | some staBytes =>
        refine meets_releaseFree (outline.retired_holding _) ?_
        exact meets_awaitQuiescence (outline.retired_holding _) (outline.quiet_holding _)
          (outline.returned_holding []) (outline.readInUse _)
          (Meets.done (outline.retired_holding _) (outline.retired_returned _))
          (outline.meets_drain _) nothing

end CounterOutline

end SflowMiddle.Card

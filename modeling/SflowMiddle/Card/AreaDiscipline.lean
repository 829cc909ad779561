/-
The areas of the readers. Each opens up to three and leaves by many exits, before or
after an area could be acquired; whatever succeeds or fails, every area goes back by
the call its state asks for, and nothing is touched outside an area.
-/

import SflowMiddle.Card.Readers
import SflowMiddle.Clock.RawCalls

namespace SflowMiddle.Card

open SflowMiddle.Foundation
open Device

/-- What an area call does with its area: an area is of a region and has a size. -/
def NfpCall.use : (call : NfpCall) → HandleUse Nat (Region × Nat) call.Reply
  | .areaAlloc region size => .alloc (region, size) id
  | .areaAcquire area => .acquire area.handle (area.region, area.size) id
  | .areaRead area offset length =>
      .access area.handle (area.region, area.size) (offset + length ≤ area.size)
  | .areaWrite area offset bytes =>
      .access area.handle (area.region, area.size) (offset + bytes.length ≤ area.size)
  | .areaFill area offset _ length =>
      .access area.handle (area.region, area.size) (offset + length ≤ area.size)
  | .areaFree area => .free area.handle (area.region, area.size)
  | .areaReleaseFree area => .releaseFree area.handle (area.region, area.size)

def Area.lease (area : Area) : Lease Nat (Region × Nat) :=
  ⟨area.handle, (area.region, area.size), true⟩

section Calls

variable {start : HandleTable Nat (Region × Nat)} {held rest : List (Lease Nat (Region × Nat))}
  {α : Type} {after : α → HandleTable Nat (Region × Nat) → Prop} {area : Area}

private theorem openArea_meets {region : Region} {size : Nat} {next : Option Area → NfpProgram α}
    (failed : (handleDevice NfpCall.use).Meets (next none) (Owns start held) after)
    (opened : ∀ area : Area, area.region = region → area.size = size →
      (handleDevice NfpCall.use).Meets (next (some area)) (Owns start (area.lease :: held))
        after) :
    (handleDevice NfpCall.use).Meets (openArea region size >>= next) (Owns start held) after := by
  refine meets_alloc rfl ?_ ?_
  · rintro _ rfl
    exact failed
  · rintro _ handle rfl
    refine meets_acquire rfl ?_ ?_
    · rintro _ rfl
      exact meets_discard (.refl _) rfl fun _ => failed
    · rintro _ rfl
      exact opened ⟨region, size, handle⟩ rfl rfl

private theorem areaRead_meets {offset length : Nat} {next : Option (List UInt8) → NfpProgram α}
    (member : area.lease ∈ held) (inside : offset + length ≤ area.size)
    (continued : ∀ reply, (handleDevice NfpCall.use).Meets (next reply) (Owns start held) after) :
    (handleDevice NfpCall.use).Meets (areaRead area offset length >>= next) (Owns start held)
      after :=
  meets_access rfl member inside continued

private theorem areaWrite_meets {offset : Nat} {bytes : List UInt8} {next : Bool → NfpProgram α}
    (member : area.lease ∈ held) (inside : offset + bytes.length ≤ area.size)
    (continued : ∀ reply, (handleDevice NfpCall.use).Meets (next reply) (Owns start held) after) :
    (handleDevice NfpCall.use).Meets (areaWrite area offset bytes >>= next) (Owns start held)
      after :=
  meets_access rfl member inside continued

private theorem areaFill_meets {offset length : Nat} {value : UInt32} {next : Bool → NfpProgram α}
    (member : area.lease ∈ held) (inside : offset + length ≤ area.size)
    (continued : ∀ reply, (handleDevice NfpCall.use).Meets (next reply) (Owns start held) after) :
    (handleDevice NfpCall.use).Meets (areaFill area offset value length >>= next)
      (Owns start held) after :=
  meets_access rfl member inside continued

private theorem areaReleaseFree_meets {next : Unit → NfpProgram α}
    (order : held.Perm (area.lease :: rest))
    (continued : (handleDevice NfpCall.use).Meets (next ()) (Owns start rest) after) :
    (handleDevice NfpCall.use).Meets (areaReleaseFree area >>= next) (Owns start held) after :=
  meets_discard order rfl fun _ => continued

private theorem awaitQuiescence_meets {bank : Bank} {next : Bool → NfpProgram α}
    (continued : ∀ quiet, (handleDevice NfpCall.use).Meets (next quiet) (Owns start held) after) :
    (handleDevice NfpCall.use).Meets (awaitQuiescence bank >>= next) (Owns start held) after := by
  unfold awaitQuiescence
  rw [Program.bind_assoc]
  refine openArea_meets (continued false) ?_
  intro area region size
  have inside : 4 * bank.val + 4 ≤ area.size := by
    have two := bank.isLt
    omega
  refine meets_polled_access rfl List.mem_cons_self inside ?_
  intro reply
  exact areaReleaseFree_meets (.refl _) (continued reply.isSome)

end Calls

/-! ### The flow reader -/

private theorem slot_inside {slotCount slot : Nat} {semaphores : List UInt8}
    (member : slot ∈ haveData slotCount semaphores) :
    slot * recordSize + recordSize ≤ slotCount * recordSize := by
  have low : slot < slotCount := List.mem_range.mp (List.mem_filter.mp member).1
  rw [← Nat.succ_mul]
  exact Nat.mul_le_mul_right recordSize low

section FlowReader

variable {start : HandleTable Nat (Region × Nat)} {held : List (Lease Nat (Region × Nat))}
  {α : Type} {after : α → HandleTable Nat (Region × Nat) → Prop} {keyArea dataArea : Area}

private theorem flowCollect_meets {next : List FlowData → NfpProgram α} {slots : List Nat}
    (keys : keyArea.lease ∈ held) (data : dataArea.lease ∈ held)
    (inside : ∀ slot ∈ slots, slot * recordSize + recordSize ≤ keyArea.size ∧
      slot * recordSize + recordSize ≤ dataArea.size)
    (continued : ∀ result,
      (handleDevice NfpCall.use).Meets (next result) (Owns start held) after)
    (result : List FlowData) :
    (handleDevice NfpCall.use).Meets
      (SmartNicReader.collect keyArea dataArea slots result >>= next) (Owns start held) after := by
  induction slots generalizing result with
  | nil => exact continued result
  | cons slot slots ih =>
      have first := inside slot List.mem_cons_self
      have later := ih fun other member => inside other (List.mem_cons_of_mem _ member)
      refine meets_access rfl keys first.1 ?_
      intro key
      cases key with
      | none => exact later result
      | some key =>
          refine meets_access rfl data first.2 ?_
          intro data
          cases data with
          | none => exact later result
          | some data => exact later _

private theorem flowDrain_meets (reader : SmartNicReader) (bank : Bank) :
    (handleDevice NfpCall.use).Meets (reader.drain bank) (Owns start [])
      (fun _ => Owns start []) := by
  have nothing : (handleDevice NfpCall.use).Meets (pure [] : NfpProgram (List FlowData))
      (Owns start []) (fun _ => Owns start []) :=
    meets_return fun _ owns => owns
  refine openArea_meets nothing ?_
  intro semArea _ semSize
  refine areaRead_meets List.mem_cons_self (by omega) ?_
  intro semaphores
  cases semaphores with
  | none => exact areaReleaseFree_meets (.refl _) nothing
  | some semaphores =>
      refine openArea_meets (areaReleaseFree_meets (.refl _) nothing) ?_
      intro keyArea _ keySize
      refine openArea_meets
        (areaReleaseFree_meets (.refl _) (areaReleaseFree_meets (.refl _) nothing)) ?_
      intro dataArea _ dataSize
      have keys : keyArea.lease ∈ [dataArea.lease, keyArea.lease, semArea.lease] := by simp
      have data : dataArea.lease ∈ [dataArea.lease, keyArea.lease, semArea.lease] := by simp
      have semaphoresHeld : semArea.lease ∈ [dataArea.lease, keyArea.lease, semArea.lease] := by
        simp
      refine flowCollect_meets keys data ?_ ?_ []
      · intro slot member
        have fits := slot_inside member
        rw [keySize, dataSize]
        exact ⟨fits, fits⟩
      · intro result
        refine areaFill_meets keys (by omega) fun _ => ?_
        refine areaFill_meets data (by omega) fun _ => ?_
        refine areaFill_meets semaphoresHeld (by omega) fun _ => ?_
        refine areaReleaseFree_meets (.swap _ _ _) ?_
        refine areaReleaseFree_meets (.refl _) ?_
        exact areaReleaseFree_meets (.refl _) (meets_return fun _ owns => owns)

private theorem readFlowData_meets (reader : SmartNicReader) :
    (handleDevice NfpCall.use).Meets reader.readFlowData (Owns start [])
      (fun _ => Owns start []) := by
  have nothing : (handleDevice NfpCall.use).Meets (pure [] : NfpProgram (List FlowData))
      (Owns start []) (fun _ => Owns start []) :=
    meets_return fun _ owns => owns
  unfold SmartNicReader.readFlowData
  split
  · exact nothing
  · refine openArea_meets nothing ?_
    intro staArea _ staSize
    refine areaRead_meets List.mem_cons_self (by omega) ?_
    intro staValue
    cases staValue with
    | none => exact areaReleaseFree_meets (.refl _) nothing
    | some staValue =>
        refine areaWrite_meets List.mem_cons_self ?_ ?_
        · rw [length_encode, staSize]
        · intro written
          refine areaReleaseFree_meets (.refl _) ?_
          cases written with
          | false => exact nothing
          | true =>
              refine awaitQuiescence_meets ?_
              intro quiet
              cases quiet with
              | false => exact nothing
              | true => exact flowDrain_meets reader _

end FlowReader

/-! ### The counter reader -/

section CounterReader

variable {start : HandleTable Nat (Region × Nat)} {held : List (Lease Nat (Region × Nat))}
  {α : Type} {after : α → HandleTable Nat (Region × Nat) → Prop} {dataArea : Area}

private theorem counterCollect_meets {next : List CounterData → NfpProgram α} {slots : List Nat}
    (data : dataArea.lease ∈ held)
    (inside : ∀ slot ∈ slots, slot * recordSize + recordSize ≤ dataArea.size)
    (continued : ∀ result,
      (handleDevice NfpCall.use).Meets (next result) (Owns start held) after)
    (result : List CounterData) :
    (handleDevice NfpCall.use).Meets
      (CounterReader.collect dataArea slots result >>= next) (Owns start held) after := by
  induction slots generalizing result with
  | nil => exact continued result
  | cons slot slots ih =>
      have later := ih fun other member => inside other (List.mem_cons_of_mem _ member)
      refine meets_access rfl data (inside slot List.mem_cons_self) ?_
      intro data
      cases data with
      | none => exact later result
      | some data => exact later _

private theorem counterDrain_meets (reader : CounterReader) (bank : Bank) :
    (handleDevice NfpCall.use).Meets (reader.drain bank) (Owns start [])
      (fun _ => Owns start []) := by
  have nothing : (handleDevice NfpCall.use).Meets (pure [] : NfpProgram (List CounterData))
      (Owns start []) (fun _ => Owns start []) :=
    meets_return fun _ owns => owns
  refine openArea_meets nothing ?_
  intro semArea _ semSize
  refine areaRead_meets List.mem_cons_self (by omega) ?_
  intro semaphores
  cases semaphores with
  | none => exact areaReleaseFree_meets (.refl _) nothing
  | some semaphores =>
      refine openArea_meets (areaReleaseFree_meets (.refl _) nothing) ?_
      intro dataArea _ dataSize
      have data : dataArea.lease ∈ [dataArea.lease, semArea.lease] := by simp
      have semaphoresHeld : semArea.lease ∈ [dataArea.lease, semArea.lease] := by simp
      refine counterCollect_meets data ?_ ?_ []
      · intro slot member
        rw [dataSize]
        exact slot_inside member
      · intro result
        refine areaFill_meets data (by omega) fun _ => ?_
        refine areaFill_meets semaphoresHeld (by omega) fun _ => ?_
        refine areaReleaseFree_meets (.refl _) ?_
        exact areaReleaseFree_meets (.refl _) (meets_return fun _ owns => owns)

private theorem readCounterData_meets (reader : CounterReader) :
    (handleDevice NfpCall.use).Meets reader.readCounterData (Owns start [])
      (fun _ => Owns start []) := by
  have nothing : (handleDevice NfpCall.use).Meets (pure [] : NfpProgram (List CounterData))
      (Owns start []) (fun _ => Owns start []) :=
    meets_return fun _ owns => owns
  unfold CounterReader.readCounterData
  split
  · exact nothing
  · refine openArea_meets nothing ?_
    intro staArea _ staSize
    refine areaRead_meets List.mem_cons_self (by omega) ?_
    intro staValue
    refine areaReleaseFree_meets (.refl _) ?_
    cases staValue with
    | none => exact nothing
    | some staBytes =>
        refine awaitQuiescence_meets ?_
        intro quiet
        cases quiet with
        | false => exact nothing
        | true => exact counterDrain_meets reader _

end CounterReader

/-- Whatever succeeds or fails and however long the waits are, the three readers make no call
out of place and give every area back once; the clock reader decodes what it read. -/
theorem areas_disciplined :
    (∀ reader : SmartNicReader, Disciplined NfpCall.use reader.readFlowData) ∧
      (∀ reader : CounterReader, Disciplined NfpCall.use reader.readCounterData) ∧
      ∀ symbol : Clock.MacTimeSymbol,
        Disciplined Clock.SymbolCall.use (Clock.readRawCalls symbol) ∧
          ∀ replies, Clock.DecodesInside symbol replies :=
  ⟨fun reader => disciplined_of_meets fun _ => readFlowData_meets reader,
    fun reader => disciplined_of_meets fun _ => readCounterData_meets reader,
    fun symbol => ⟨disciplined_of_meets (Clock.readRawCalls_meets symbol),
      Clock.decodesInside symbol⟩⟩

end SflowMiddle.Card

/-
`readRaw` of src/MacClockReader.cpp call by call, and its decoding with every access
to the buffer checked. The calls of an area over the symbol answer as before, so the
program is `readRaw` for whatever they return.
-/

import SflowMiddle.Clock.RawRead
import SflowMiddle.Foundation.Handles

namespace SflowMiddle.Clock

open SflowMiddle.Foundation
open Device

/-! ### Area calls -/

/-- An area over the symbol; there is one region, so its size says what it covers. -/
structure SymbolArea where
  size : Nat
  handle : Nat
  deriving DecidableEq, Repr

inductive SymbolCall where
  | areaAlloc (size : Nat)
  | areaAcquire (area : SymbolArea)
  | areaRead (area : SymbolArea) (offset length : Nat)
  | areaFree (area : SymbolArea)
  | areaReleaseFree (area : SymbolArea)

/-- A null handle is `none`; the other calls return their status or byte count. -/
abbrev SymbolCall.Reply : SymbolCall → Type
  | .areaAlloc _ => Option Nat
  | .areaAcquire _ => Int
  | .areaRead _ _ _ => Int × List UInt8
  | .areaFree _ => Unit
  | .areaReleaseFree _ => Unit

abbrev SymbolProgram := Program SymbolCall SymbolCall.Reply

def SymbolCall.issue (call : SymbolCall) : SymbolProgram call.Reply :=
  .call call .done

def readRawCalls (symbol : MacTimeSymbol) : SymbolProgram RawRead := do
  match ← (SymbolCall.areaAlloc symbol.bytesToRead).issue with
  | none => return .error .areaAllocFailed
  | some handle =>
      let status ← (SymbolCall.areaAcquire ⟨symbol.bytesToRead, handle⟩).issue
      if status < 0 then do
        (SymbolCall.areaFree ⟨symbol.bytesToRead, handle⟩).issue
        return .error .areaAcquireFailed
      else do
        let bytesRead ←
          (SymbolCall.areaRead ⟨symbol.bytesToRead, handle⟩ 0 symbol.bytesToRead).issue
        (SymbolCall.areaReleaseFree ⟨symbol.bytesToRead, handle⟩).issue
        if bytesRead.1 ≠ symbol.bytesToRead then return .error .shortRead
        else
          return .ok (interpret symbol.bytesToRead (rawBuffer symbol.bytesToRead bytesRead.2))

/-! ### The calls give back what they take -/

def SymbolCall.use : (call : SymbolCall) → HandleUse Nat Nat call.Reply
  | .areaAlloc size => .alloc size id
  | .areaAcquire area => .acquire area.handle area.size (fun status => decide (0 ≤ status))
  | .areaRead area offset length => .access area.handle area.size (offset + length ≤ area.size)
  | .areaFree area => .free area.handle area.size
  | .areaReleaseFree area => .releaseFree area.handle area.size

theorem readRawCalls_meets (symbol : MacTimeSymbol) (start : HandleTable Nat Nat) :
    (handleDevice SymbolCall.use).Meets (readRawCalls symbol) (Owns start [])
      (fun _ => Owns start []) := by
  have returned : ∀ value : RawRead, (handleDevice SymbolCall.use).Meets
      (pure value : SymbolProgram RawRead) (Owns start []) (fun _ => Owns start []) :=
    fun value => meets_return fun _ owns => owns
  refine meets_alloc rfl ?_ ?_
  · rintro _ rfl
    exact returned _
  · rintro _ handle rfl
    refine meets_acquire rfl ?_ ?_
    · intro status refused
      have negative : status < 0 := not_le.mp (of_decide_eq_false refused)
      dsimp only [Program.bind]
      rw [if_pos negative]
      exact meets_discard (.refl _) rfl fun _ => returned _
    · intro status acquired
      have accepted : ¬ status < 0 := not_lt.mpr (of_decide_eq_true acquired)
      dsimp only [Program.bind]
      rw [if_neg accepted]
      refine meets_access rfl List.mem_cons_self (Nat.zero_add _).le ?_
      intro bytesRead
      refine meets_discard (.refl _) rfl fun _ => ?_
      dsimp only [Program.bind]
      split
      · exact returned _
      · exact returned _

/-! ### The calls compute `readRaw` -/

def AreaReplies.answer (replies : AreaReplies) : (call : SymbolCall) → call.Reply
  | .areaAlloc _ => if replies.allocated then some 0 else none
  | .areaAcquire _ => replies.acquireStatus
  | .areaRead _ _ length => replies.read length
  | .areaFree _ => ()
  | .areaReleaseFree _ => ()

/-- The calls on such an area, each with the one reply it has. -/
def AreaReplies.device (replies : AreaReplies) : Device Unit SymbolCall SymbolCall.Reply where
  effect _ call reply _ := reply = replies.answer call
  interferes _ _ := False
  safe _ _ := True

private theorem AreaReplies.device_deterministic (replies : AreaReplies) :
    replies.device.Deterministic := by
  intro world call reply result other otherResult effect effectOther
  exact ⟨effect.trans effectOther.symm, rfl⟩

private theorem returns_issue (replies : AreaReplies) (call : SymbolCall) :
    replies.device.Returns call.issue () (replies.answer call) () :=
  .step (.call _) rfl (.done _ _)

private theorem returnsOnly_readRawCalls (symbol : MacTimeSymbol) (replies : AreaReplies) :
    replies.device.ReturnsOnly (readRawCalls symbol) () (readRaw symbol replies) () := by
  apply Returns.only replies.device_deterministic
  refine Returns.bind (returns_issue replies _) ?_
  unfold readRaw AreaReplies.answer
  cases replies.allocated with
  | false => exact .done _ _
  | true =>
      refine Returns.bind (returns_issue replies _) ?_
      change replies.device.Returns (if replies.acquireStatus < 0 then _ else _) () _ ()
      rw [if_neg (by decide : ¬ true = false)]
      by_cases negative : replies.acquireStatus < 0
      · rw [if_pos negative, if_pos negative]
        exact Returns.bind (returns_issue replies _) (.done _ _)
      · rw [if_neg negative, if_neg negative]
        refine Returns.bind (returns_issue replies _)
          (Returns.bind (returns_issue replies _) ?_)
        change replies.device.Returns
          (if (replies.read symbol.bytesToRead).1 ≠ symbol.bytesToRead then _ else _) () _ ()
        dsimp only
        split
        · exact .done _ _
        · exact .done _ _

/-! ### Decoding inside the buffer -/

def readLe16? (bytes : List UInt8) (offset : Nat) : Option UInt16 :=
  if offset + 2 ≤ bytes.length then some (readLe16 bytes offset) else none

def readLe32? (bytes : List UInt8) (offset : Nat) : Option UInt32 :=
  if offset + 4 ≤ bytes.length then some (readLe32 bytes offset) else none

/-- `interpret`, access by access; `none` is an access past the end of the buffer. -/
def interpret? (bytesToRead : Nat) (raw : List UInt8) : Option MacTimeStateHost := do
  let macTimeS ← readLe32? raw 0
  let macTimeNs ← readLe32? raw 4
  let meTime ← readLe32? raw 8
  let packedMult ← readLe16? raw 12
  let packedRshift ← readLe16? raw 14
  let packed : MacTimeStateHost :=
    ⟨macTimeS, macTimeNs, meTime, packedMult.toUInt32, packedRshift.toUInt32⟩
  if HasValidConversion packed then return packed
  else do
    let swappedMult ← readLe16? raw 14
    let swappedRshift ← readLe16? raw 12
    let swapped : MacTimeStateHost :=
      { packed with
        convMult := swappedMult.toUInt32
        convRshift := swappedRshift.toUInt32 }
    if HasValidConversion swapped then return swapped
    else if 20 ≤ bytesToRead then do
      let alignedMult ← readLe32? raw 12
      let alignedRshift ← readLe32? raw 16
      let aligned : MacTimeStateHost :=
        { packed with
          convMult := alignedMult
          convRshift := alignedRshift }
      if HasValidConversion aligned then return aligned else return packed
    else return packed

private theorem interpret?_eq {bytesToRead : Nat} {raw : List UInt8}
    (length : raw.length = bytesToRead) (enough : 16 ≤ bytesToRead) :
    interpret? bytesToRead raw = some (interpret bytesToRead raw) := by
  have word : ∀ offset, offset + 4 ≤ bytesToRead →
      readLe32? raw offset = some (readLe32 raw offset) := by
    intro offset inside
    exact if_pos (by omega)
  have half : ∀ offset, offset + 2 ≤ bytesToRead →
      readLe16? raw offset = some (readLe16 raw offset) := by
    intro offset inside
    exact if_pos (by omega)
  unfold interpret? interpret
  rw [word 0 (by omega), word 4 (by omega), word 8 (by omega), half 12 (by omega),
    half 14 (by omega)]
  simp only [Option.bind_eq_bind, Option.bind_some]
  change (if HasValidConversion (packedState raw) then some (packedState raw) else _) = _
  by_cases packed : HasValidConversion (packedState raw)
  · rw [if_pos packed, if_pos packed]
  · rw [if_neg packed, if_neg packed]
    change (if HasValidConversion (swappedState raw) then some (swappedState raw) else _) = _
    by_cases swapped : HasValidConversion (swappedState raw)
    · rw [if_pos swapped, if_pos swapped]
    · rw [if_neg swapped, if_neg swapped]
      by_cases wide : 20 ≤ bytesToRead
      · rw [if_pos wide, word 12 (by omega), word 16 (by omega)]
        simp only [Option.bind_some]
        change (if HasValidConversion (alignedState raw) then some (alignedState raw)
          else some (packedState raw)) = _
        by_cases aligned : HasValidConversion (alignedState raw)
        · rw [if_pos aligned, if_pos ⟨wide, aligned⟩]
        · rw [if_neg aligned, if_neg (fun both => aligned both.2)]
      · rw [if_neg wide, if_neg (fun both => wide both.1)]
        rfl

/-- A state the calls return was decoded from a buffer as long as the read said, with no
access past its end. -/
def DecodesInside (symbol : MacTimeSymbol) (replies : AreaReplies) : Prop :=
  ∀ state, replies.device.Returns (readRawCalls symbol) () (.ok state) () →
    ∃ raw, raw = rawBuffer symbol.bytesToRead (replies.read symbol.bytesToRead).2 ∧
      (raw.length : Int) = (replies.read symbol.bytesToRead).1 ∧
      interpret? symbol.bytesToRead raw = some state

private theorem length_rawBuffer (size : Nat) (bytes : List UInt8) :
    (rawBuffer size bytes).length = size := by
  unfold rawBuffer
  rw [List.length_take, List.length_append, List.length_replicate]
  omega

theorem decodesInside (symbol : MacTimeSymbol) (replies : AreaReplies) :
    DecodesInside symbol replies := by
  intro state returns
  have value := ((returnsOnly_readRawCalls symbol replies).only _ _ returns).1
  have enough : 16 ≤ symbol.bytesToRead := by
    rcases symbol.bytesToRead_cases with short | long
    · omega
    · omega
  refine ⟨_, rfl, ?_⟩
  rw [length_rawBuffer, interpret?_eq (length_rawBuffer _ _) enough]
  unfold readRaw at value
  split at value
  · cases value
  · split at value
    · cases value
    · dsimp only at value
      split at value
      · cases value
      · rename_i whole
        exact ⟨(not_not.mp whole).symm, congrArg some (Except.ok.inj value).symm⟩

end SflowMiddle.Clock

/-
The two readers of src/Reader.cpp and src/CounterReader.cpp, call by call and with
every early return. The flow reader flips the active bank and drains the bank it
retired; the counter reader derives the retired bank from the state word again.
Sleeps are left out: the other agents may run between any two calls.
-/

import SflowMiddle.Card.Nfp
import SflowMiddle.Card.Records

namespace SflowMiddle.Card

open SflowMiddle.Foundation

abbrev NfpProgram := Program NfpCall NfpCall.Reply

def areaAlloc (region : Region) (size : Nat) : NfpProgram (Option Nat) :=
  .call (.areaAlloc region size) .done

def areaAcquire (area : Area) : NfpProgram Bool :=
  .call (.areaAcquire area) .done

def areaRead (area : Area) (offset length : Nat) : NfpProgram (Option (List UInt8)) :=
  .call (.areaRead area offset length) .done

def areaWrite (area : Area) (offset : Nat) (bytes : List UInt8) : NfpProgram Bool :=
  .call (.areaWrite area offset bytes) .done

def areaFill (area : Area) (offset : Nat) (value : UInt32) (length : Nat) : NfpProgram Bool :=
  .call (.areaFill area offset value length) .done

def areaFree (area : Area) : NfpProgram Unit :=
  .call (.areaFree area) .done

def areaReleaseFree (area : Area) : NfpProgram Unit :=
  .call (.areaReleaseFree area) .done

def kSemDataReady : Nat := 3

def kSemUnlockValue : UInt32 := 0

def kDataClearValue : UInt32 := 0

/-! ### The parts both readers share -/

/-- Allocate and acquire; an area that cannot be acquired is freed. -/
def openArea (region : Region) (size : Nat) : NfpProgram (Option Area) := do
  match ← areaAlloc region size with
  | none => return none
  | some handle =>
      if ← areaAcquire ⟨region, size, handle⟩ then return some ⟨region, size, handle⟩
      else do
        areaFree ⟨region, size, handle⟩
        return none

/-- The in-use counter was read and is not zero yet. -/
def stillInUse (reply : Option (List UInt8)) : Bool :=
  match reply with
  | none => false
  | some bytes => decode bytes ≠ 0

/-- The loop that waits until no context uses the bank; false when a read failed. -/
def awaitQuiescence (bank : Bank) : NfpProgram Bool := do
  match ← openArea .processingMe 8 with
  | none => return false
  | some proArea =>
      let proValue ← .poll (.areaRead proArea (4 * bank.val) 4) stillInUse .done
      areaReleaseFree proArea
      return proValue.isSome

/-- The slots whose semaphore says that data is ready. -/
def haveData (slotCount : Nat) (semaphores : List UInt8) : List Nat :=
  (List.range slotCount).filter fun slot => field semaphores (4 * slot) 4 = kSemDataReady

/-! ### Flow records -/

structure SmartNicReader where
  cpp : Bool := true
  slotCount : Nat

namespace SmartNicReader

def semSize (reader : SmartNicReader) : Nat := reader.slotCount * 4

def keySize (reader : SmartNicReader) : Nat := reader.slotCount * recordSize

def dataSize (reader : SmartNicReader) : Nat := reader.slotCount * recordSize

def entryOf (slot : Nat) (key data : List UInt8) : FlowData where
  key := .ofBytes key
  data := .ofBytes data
  index := .ofNat slot

/-- A slot whose key or data cannot be read is skipped. -/
def collect (keyArea dataArea : Area) : List Nat → List FlowData → NfpProgram (List FlowData)
  | [], result => return result
  | slot :: slots, result => do
      match ← areaRead keyArea (slot * recordSize) recordSize with
      | none => collect keyArea dataArea slots result
      | some key =>
          match ← areaRead dataArea (slot * recordSize) recordSize with
          | none => collect keyArea dataArea slots result
          | some data => collect keyArea dataArea slots (result ++ [entryOf slot key data])

/-- Steps 4 and 5: read the ready slots of the retired bank and clear the bank. The
results of the three fills are not looked at. -/
def drain (reader : SmartNicReader) (bank : Bank) : NfpProgram (List FlowData) := do
  match ← openArea (.flowSem bank) reader.semSize with
  | none => return []
  | some semArea =>
      match ← areaRead semArea 0 reader.semSize with
      | none => do
          areaReleaseFree semArea
          return []
      | some semaphores =>
          match ← openArea (.flowKey bank) reader.keySize with
          | none => do
              areaReleaseFree semArea
              return []
          | some keyArea =>
              match ← openArea (.flowData bank) reader.dataSize with
              | none => do
                  areaReleaseFree keyArea
                  areaReleaseFree semArea
                  return []
              | some dataArea => do
                  let result ← collect keyArea dataArea (haveData reader.slotCount semaphores) []
                  let _ ← areaFill keyArea 0 kDataClearValue reader.keySize
                  let _ ← areaFill dataArea 0 kDataClearValue reader.dataSize
                  let _ ← areaFill semArea 0 kSemUnlockValue reader.semSize
                  areaReleaseFree keyArea
                  areaReleaseFree dataArea
                  areaReleaseFree semArea
                  return result

def readFlowData (reader : SmartNicReader) : NfpProgram (List FlowData) := do
  if reader.cpp = false ∨ reader.slotCount = 0 then return []
  else
    match ← openArea .curState 4 with
    | none => return []
    | some staArea =>
        match ← areaRead staArea 0 4 with
        | none => do
            areaReleaseFree staArea
            return []
        | some staValue => do
            let oriBufferState := bankOf (decode staValue)
            let staWritten ← areaWrite staArea 0 (encode 4 (otherBank oriBufferState).val)
            areaReleaseFree staArea
            if staWritten then
              if ← awaitQuiescence oriBufferState then reader.drain oriBufferState
              else return []
            else return []

end SmartNicReader

/-! ### Counter records -/

structure CounterReader where
  cpp : Bool := true
  slotCount : Nat

namespace CounterReader

def semSize (reader : CounterReader) : Nat := reader.slotCount * 4

def dataSize (reader : CounterReader) : Nat := reader.slotCount * recordSize

def entryOf (slot : Nat) (data : List UInt8) : CounterData where
  data := .ofBytes data
  index := .ofNat slot

def collect (dataArea : Area) : List Nat → List CounterData → NfpProgram (List CounterData)
  | [], result => return result
  | slot :: slots, result => do
      match ← areaRead dataArea (slot * recordSize) recordSize with
      | none => collect dataArea slots result
      | some data => collect dataArea slots (result ++ [entryOf slot data])

def drain (reader : CounterReader) (bank : Bank) : NfpProgram (List CounterData) := do
  match ← openArea (.counterSem bank) reader.semSize with
  | none => return []
  | some semArea =>
      match ← areaRead semArea 0 reader.semSize with
      | none => do
          areaReleaseFree semArea
          return []
      | some semaphores =>
          match ← openArea (.counterData bank) reader.dataSize with
          | none => do
              areaReleaseFree semArea
              return []
          | some dataArea => do
              let result ← collect dataArea (haveData reader.slotCount semaphores) []
              let _ ← areaFill dataArea 0 kDataClearValue reader.dataSize
              let _ ← areaFill semArea 0 kSemUnlockValue reader.semSize
              areaReleaseFree dataArea
              areaReleaseFree semArea
              return result

def readCounterData (reader : CounterReader) : NfpProgram (List CounterData) := do
  if reader.cpp = false ∨ reader.slotCount = 0 then return []
  else
    match ← openArea .curState 4 with
    | none => return []
    | some staArea =>
        let staValue ← areaRead staArea 0 4
        areaReleaseFree staArea
        match staValue with
        | none => return []
        | some staBytes => do
            let bufferState := otherBank (bankOf (decode staBytes))
            if ← awaitQuiescence bufferState then reader.drain bufferState
            else return []

end CounterReader

end SflowMiddle.Card

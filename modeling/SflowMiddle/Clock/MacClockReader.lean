/-
The stateful half of src/MacClockReader.cpp, and the chain that feeds it to the
sampler. What `readRaw` returns is an input here: a decoded state or the reason
the read failed.
-/

import SflowMiddle.Clock.ClockSampler

namespace SflowMiddle.Clock

abbrev RawRead := Except RejectReason MacTimeStateHost

structure MacClockReaderStatus where
  rejectReasons : RejectReason → Nat := fun _ => 0
  readAttempts : Nat := 0
  readFailures : Nat := 0
  validReads : Nat := 0

/-- `lastState_` together with `hasLastState_`. -/
structure MacClockReader where
  lastState : Option MacTimeStateHost := none
  status : MacClockReaderStatus := {}

namespace MacClockReader

/-- `none` is acceptance. -/
def validateState (reader : MacClockReader) (state : MacTimeStateHost) : Option RejectReason :=
  if kNanosecondsPerSecond ≤ state.macTimeNs.toNat then some .invalidNanoseconds
  else if 32 ≤ state.convRshift.toNat then some .invalidRshift
  else if state.convMult = 0 then some .invalidConvMult
  else if state.macTimeS = 0 ∧ state.macTimeNs = 0 ∧ state.meTime = 0 ∧
      state.convMult = 0 ∧ state.convRshift = 0 then some .allZeroState
  else
    match reader.lastState with
    | none => none
    | some last => if state.timeNs < last.timeNs then some .macTimeRollback else none

def reject (reader : MacClockReader) (reason : RejectReason) : MacClockReader :=
  { reader with
    status :=
      { reader.status with
        rejectReasons := fun other =>
          if other = reason then reader.status.rejectReasons other + 1
          else reader.status.rejectReasons other } }

def readState (reader : MacClockReader) (raw : RawRead) :
    MacStateObservation × MacClockReader :=
  let attempted :=
    { reader with
      status := { reader.status with readAttempts := reader.status.readAttempts + 1 } }
  match raw with
  | .error reason =>
      let failed :=
        { attempted with
          status := { attempted.status with readFailures := attempted.status.readFailures + 1 } }
      ({ valid := false, rejectReason := some reason }, failed.reject reason)
  | .ok state =>
      match reader.validateState state with
      | some reason =>
          ({ state := state, valid := false, rejectReason := some reason },
            attempted.reject reason)
      | none =>
          ({ state := state, valid := true },
            { attempted with
              status := { attempted.status with validReads := attempted.status.validReads + 1 }
              lastState := some state })

end MacClockReader

/-- One poll: what the device read returned and the clock readings around it. -/
structure PollInput where
  bounds : HostClockBounds
  raw : RawRead

structure ClockChain where
  reader : MacClockReader := {}
  sampler : ClockSampler

def ClockChain.poll (chain : ClockChain) (input : PollInput) :
    Option PublicationSample × ClockChain :=
  let read := chain.reader.readState input.raw
  let polled := chain.sampler.poll input.bounds read.1
  (polled.1, { reader := read.2, sampler := polled.2 })

end SflowMiddle.Clock

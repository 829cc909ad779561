/-
The publication detector of src/ClockSampler.cpp. A poll receives the four host
clock readings it took around one device read and the observation that read
produced, and returns the sample it emits together with the next sampler.
-/

import SflowMiddle.Foundation.Rounding

namespace SflowMiddle.Clock

open SflowMiddle.Foundation

def kNanosecondsPerSecond : Int := 1000000000

structure HostClockBounds where
  realtimeBeforeNs : Int := 0
  realtimeAfterNs : Int := 0
  monotonicBeforeNs : Int := 0
  monotonicAfterNs : Int := 0
  deriving DecidableEq, Repr

structure MacTimeStateHost where
  macTimeS : UInt32 := 0
  macTimeNs : UInt32 := 0
  meTime : UInt32 := 0
  convMult : UInt32 := 0
  convRshift : UInt32 := 0
  deriving DecidableEq, Repr

inductive RejectReason where
  | areaAllocFailed
  | areaAcquireFailed
  | shortRead
  | invalidNanoseconds
  | invalidRshift
  | invalidConvMult
  | allZeroState
  | macTimeRollback
  | hostClockRollback
  deriving DecidableEq, Repr

def RejectReason.text : RejectReason → String
  | .areaAllocFailed => "area-alloc-failed"
  | .areaAcquireFailed => "area-acquire-failed"
  | .shortRead => "short-read"
  | .invalidNanoseconds => "invalid-nanoseconds"
  | .invalidRshift => "invalid-rshift"
  | .invalidConvMult => "invalid-conv-mult"
  | .allZeroState => "all-zero-state"
  | .macTimeRollback => "mac-time-rollback"
  | .hostClockRollback => "host-clock-rollback"

theorem RejectReason.text_injective : Function.Injective RejectReason.text := by
  intro first second same
  cases first <;> cases second <;> first | rfl | (exact absurd same (by decide))

structure MacStateObservation where
  state : MacTimeStateHost := {}
  bounds : HostClockBounds := {}
  readLatencyNs : Int := 0
  valid : Bool := false
  rejectReason : Option RejectReason := none
  deriving DecidableEq, Repr

structure PublicationSample where
  smartnicNs : Int := 0
  hostRealtimeNs : Int := 0
  hostMonotonicNs : Int := 0
  uncertaintyNs : Int := 0
  transitionStartMonoNs : Int := 0
  transitionEndMonoNs : Int := 0
  meTime : UInt32 := 0
  convMult : UInt32 := 0
  convRshift : UInt32 := 0
  deriving DecidableEq, Repr

structure ClockSamplerCounters where
  observations : Nat := 0
  acceptedTransitions : Nat := 0
  duplicateStates : Nat := 0
  invalidObservations : Nat := 0
  rejectedTransitions : Nat := 0
  hostClockSteps : Nat := 0
  deviceResets : Nat := 0
  deriving DecidableEq, Repr

structure ClockSampler where
  maximumUncertaintyNs : Int
  lastObservation : Option MacStateObservation := none
  previousRealtimeMidpointNs : Int := 0
  previousMonotonicMidpointNs : Int := 0
  counters : ClockSamplerCounters := {}
  deriving DecidableEq, Repr

/-- The MAC time a state denotes, before its nanosecond field is checked. -/
def MacTimeStateHost.timeNs (state : MacTimeStateHost) : Int :=
  state.macTimeS.toNat * kNanosecondsPerSecond + state.macTimeNs.toNat

def stateTimeNs (state : MacTimeStateHost) : Option Int :=
  if kNanosecondsPerSecond ≤ state.macTimeNs.toNat then none else some state.timeNs

def HostClockBounds.rollsBack (bounds : HostClockBounds) : Prop :=
  bounds.realtimeAfterNs < bounds.realtimeBeforeNs ∨
    bounds.monotonicAfterNs < bounds.monotonicBeforeNs

instance (bounds : HostClockBounds) : Decidable bounds.rollsBack :=
  inferInstanceAs (Decidable (_ ∨ _))

namespace ClockSampler

def midpoint (first second : Int) : Int :=
  truncMidpoint first second

def realtimeMidpoint (bounds : HostClockBounds) : Int :=
  midpoint bounds.realtimeBeforeNs bounds.realtimeAfterNs

def monotonicMidpoint (bounds : HostClockBounds) : Int :=
  midpoint bounds.monotonicBeforeNs bounds.monotonicAfterNs

def reset (sampler : ClockSampler) : ClockSampler :=
  { sampler with
    lastObservation := none
    previousRealtimeMidpointNs := 0
    previousMonotonicMidpointNs := 0 }

/-- The reason string of a refused transition is never read, so only the verdict is kept. -/
def isPlausibleTransition (previous current : MacTimeStateHost) : Bool :=
  if current.convMult ≠ previous.convMult ∨ current.convRshift ≠ previous.convRshift then false
  else
    match stateTimeNs previous, stateTimeNs current with
    | some previousNs, some currentNs => previousNs < currentNs
    | _, _ => false

def HostStepSeen (sampler : ClockSampler) (bounds : HostClockBounds) : Prop :=
  sampler.previousMonotonicMidpointNs ≠ 0 ∧
    |(realtimeMidpoint bounds - sampler.previousRealtimeMidpointNs) -
        (monotonicMidpoint bounds - sampler.previousMonotonicMidpointNs)| > 500000

instance (sampler : ClockSampler) (bounds : HostClockBounds) :
    Decidable (sampler.HostStepSeen bounds) :=
  inferInstanceAs (Decidable (_ ∧ _))

/-- The host step check and the midpoints every later check compares with. -/
def trackMidpoints (sampler : ClockSampler) (bounds : HostClockBounds) : ClockSampler :=
  let checked :=
    if sampler.HostStepSeen bounds then
      { sampler.reset with
        counters :=
          { sampler.counters with hostClockSteps := sampler.counters.hostClockSteps + 1 } }
    else sampler
  { checked with
    previousRealtimeMidpointNs := realtimeMidpoint bounds
    previousMonotonicMidpointNs := monotonicMidpoint bounds }

def transitionSample (last observation : MacStateObservation) (smartnicNs : Int) :
    PublicationSample :=
  { smartnicNs := smartnicNs
    hostRealtimeNs := midpoint last.bounds.realtimeAfterNs observation.bounds.realtimeAfterNs
    hostMonotonicNs := midpoint last.bounds.monotonicAfterNs observation.bounds.monotonicAfterNs
    uncertaintyNs :=
      observation.bounds.monotonicAfterNs - last.bounds.monotonicAfterNs +
        observation.readLatencyNs
    transitionStartMonoNs := last.bounds.monotonicAfterNs
    transitionEndMonoNs := observation.bounds.monotonicAfterNs
    meTime := observation.state.meTime
    convMult := observation.state.convMult
    convRshift := observation.state.convRshift }

def countRejected (sampler : ClockSampler) (observation : MacStateObservation) : ClockSampler :=
  { sampler with
    counters :=
      { sampler.counters with
        rejectedTransitions := sampler.counters.rejectedTransitions + 1 }
    lastObservation := some observation }

/-- A valid observation against the stored one. -/
def transition (sampler : ClockSampler) (last observation : MacStateObservation) :
    Option PublicationSample × ClockSampler :=
  if observation.state = last.state then
    (none,
      { sampler with
        counters :=
          { sampler.counters with duplicateStates := sampler.counters.duplicateStates + 1 }
        lastObservation := some observation })
  else if isPlausibleTransition last.state observation.state = false then
    (none,
      { sampler with
        counters :=
          { sampler.counters with deviceResets := sampler.counters.deviceResets + 1 } }
        |>.countRejected observation)
  else
    match stateTimeNs observation.state with
    | none => (none, sampler.countRejected observation)
    | some smartnicNs =>
        let sample := transitionSample last observation smartnicNs
        if sample.transitionEndMonoNs - sample.transitionStartMonoNs < 0 ∨
            sample.uncertaintyNs > sampler.maximumUncertaintyNs then
          (none, sampler.countRejected observation)
        else
          (some sample,
            { sampler with
              counters :=
                { sampler.counters with
                  acceptedTransitions := sampler.counters.acceptedTransitions + 1 }
              lastObservation := some observation })

def countInvalid (sampler : ClockSampler) : ClockSampler :=
  { sampler with
    counters :=
      { sampler.counters with invalidObservations := sampler.counters.invalidObservations + 1 } }

def stamped (bounds : HostClockBounds) (observed : MacStateObservation) : MacStateObservation :=
  { observed with
    bounds := bounds
    readLatencyNs := bounds.monotonicAfterNs - bounds.monotonicBeforeNs }

def poll (sampler : ClockSampler) (bounds : HostClockBounds) (observed : MacStateObservation) :
    Option PublicationSample × ClockSampler :=
  let counted :=
    { sampler with
      counters := { sampler.counters with observations := sampler.counters.observations + 1 } }
  if bounds.rollsBack then (none, counted.countInvalid)
  else
    let tracked := counted.trackMidpoints bounds
    let observation := stamped bounds observed
    if observation.valid = false then (none, tracked.countInvalid)
    else
      match tracked.lastObservation with
      | none => (none, { tracked with lastObservation := some observation })
      | some last => tracked.transition last observation

end ClockSampler

end SflowMiddle.Clock

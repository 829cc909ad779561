/-
The calibration of src/Time.cpp: samples, status, the least-squares line, the
robust fit and the five ways the object installs a model. Integers are unbounded
and `double` and `long double` are exact rationals, so a statement about
wrap-around or rounding of the floating-point arithmetic is not made here.
-/

import SflowMiddle.Foundation.Rounding
import SflowMiddle.Foundation.StandardLibrary

namespace SflowMiddle.Calibration

open SflowMiddle.Foundation

structure TimeSample where
  macNs : Int := 0
  unixNs : Int := 0
  monotonicNs : Int := 0
  latencyNs : Int := 0
  deriving DecidableEq, Repr

inductive CalibrationState where
  | warmingUp
  | offsetOnly
  | tracking
  | degraded
  deriving DecidableEq, Repr

structure CalibrationStatus where
  macOriginNs : Int := 0
  unixOriginNs : Int := 0
  minimumLatencyNs : Int := 0
  medianResidualNs : Int := 0
  scale : ℚ := 1
  sampleCount : Nat := 0
  rejectedSamples : Nat := 0
  acceptedSamples : Nat := 0
  duplicateStates : Nat := 0
  invalidObservations : Nat := 0
  rejectedTransitions : Nat := 0
  hostClockSteps : Nat := 0
  deviceResets : Nat := 0
  latestUncertaintyNs : Int := 0
  sampleSpanNs : Int := 0
  state : CalibrationState := .warmingUp
  valid : Bool := false
  driftCalibrated : Bool := false
  deriving DecidableEq, Repr

structure Config where
  maximumSampleLatencyNs : Int := 800000
  regressionWindowNs : Int := 120000000000
  minimumRegressionSpanNs : Int := 5000000000
  hostStepThresholdNs : Int := 500000
  modelStepThresholdNs : Int := 20000000
  maximumDriftPpm : ℚ := 1000
  deriving DecidableEq, Repr

def kStartupBestSampleCount : Nat := 8

/-! ### Medians, the least-squares line and the model -/

def midpoint (first second : Int) : Int :=
  truncMidpoint first second

def median (values : List Int) : Int :=
  if values.isEmpty then 0
  else
    let middle := values.length / 2
    let upper := nthElement values middle
    if values.length % 2 ≠ 0 then upper
    else midpoint (nthElement values (middle - 1)) upper

/-- The pair of `scale` and `fittedUnixOrigin`; `none` is the C++ `false`. -/
def fitLine (samples : List TimeSample) (macOrigin unixOrigin : Int) : Option (ℚ × Int) :=
  if samples.length < 2 then none
  else
    let sumX := (samples.map fun sample => ((sample.macNs - macOrigin : Int) : ℚ)).sum
    let sumY := (samples.map fun sample => ((sample.unixNs - unixOrigin : Int) : ℚ)).sum
    let count : ℚ := samples.length
    let meanX := sumX / count
    let meanY := sumY / count
    let numerator := (samples.map fun sample =>
      (((sample.macNs - macOrigin : Int) : ℚ) - meanX) *
        (((sample.unixNs - unixOrigin : Int) : ℚ) - meanY)).sum
    let denominator := (samples.map fun sample =>
      (((sample.macNs - macOrigin : Int) : ℚ) - meanX) *
        (((sample.macNs - macOrigin : Int) : ℚ) - meanX)).sum
    if denominator = 0 then none
    else
      let scale := numerator / denominator
      some (scale, unixOrigin + llround (meanY - scale * meanX))

def applyModel (macNs macOriginNs unixOriginNs : Int) (scale : ℚ) : Int :=
  unixOriginNs + llround (((macNs - macOriginNs : Int) : ℚ) * scale)

/-! ### The calibration object -/

structure ClockCalibration where
  config : Config := {}
  samples : List TimeSample := []
  status : CalibrationStatus := {}
  lastMacNs : Int := 0
  lastUnixNs : Int := 0
  lastMonotonicNs : Int := 0
  deriving DecidableEq, Repr

/-- The latency and positivity filter that `initialize` and `addSample` share. -/
def Config.Admits (config : Config) (sample : TimeSample) : Prop :=
  0 ≤ sample.latencyNs ∧ sample.latencyNs ≤ config.maximumSampleLatencyNs ∧
    0 < sample.macNs ∧ 0 < sample.unixNs

instance (config : Config) (sample : TimeSample) : Decidable (config.Admits sample) :=
  inferInstanceAs (Decidable (_ ∧ _ ∧ _ ∧ _))

def spanNs (samples : List TimeSample) : Int :=
  match samples with
  | [] => 0
  | front :: rest => (rest.getLastD front).monotonicNs - front.monotonicNs

namespace ClockCalibration

def reset (calibration : ClockCalibration) : ClockCalibration :=
  { config := calibration.config
    samples := []
    status :=
      { rejectedSamples := calibration.status.rejectedSamples
        state := .warmingUp }
    lastMacNs := 0
    lastUnixNs := 0
    lastMonotonicNs := 0 }

def setOffsetModel (calibration : ClockCalibration) (samples : List TimeSample) :
    ClockCalibration :=
  let offsets := samples.map fun sample => sample.unixNs - sample.macNs
  let best := (minElement TimeSample.latencyNs samples).getD {}
  { calibration with
    status :=
      { calibration.status with
        macOriginNs := best.macNs
        unixOriginNs := best.macNs + median offsets
        minimumLatencyNs := samples.foldl (fun least sample => min least sample.latencyNs)
          9223372036854775807
        medianResidualNs := 0
        scale := 1
        sampleCount := samples.length
        valid := true
        driftCalibrated := false
        acceptedSamples := calibration.status.acceptedSamples + samples.length
        state := .offsetOnly } }

def recordLast (calibration : ClockCalibration) (sample : TimeSample) : ClockCalibration :=
  { calibration with
    lastMacNs := sample.macNs
    lastUnixNs := sample.unixNs
    lastMonotonicNs := sample.monotonicNs }

/-- `ClockCalibration::initialize`; the plain name is a Lean keyword. -/
def initializeFrom (std : StdSort) (calibration : ClockCalibration) (samples : List TimeSample) :
    Bool × ClockCalibration :=
  let fresh := calibration.reset
  let accepted := samples.filter (fun sample => calibration.config.Admits sample)
  let rejected := samples.filter (fun sample => ¬ calibration.config.Admits sample)
  let filtered : ClockCalibration :=
    { fresh with
      status :=
        { fresh.status with
          rejectedSamples := fresh.status.rejectedSamples + rejected.length } }
  if accepted.length < 4 then (false, filtered)
  else
    let best := (std.sort TimeSample.latencyNs accepted).take kStartupBestSampleCount
    let ordered := std.sort TimeSample.monotonicNs best
    (true,
      ({ filtered.setOffsetModel best with samples := ordered }).recordLast
        (ordered.getLastD {}))

/-- The conversion of a valid calibration; `toUnixNanoseconds` guards it. -/
def convert (calibration : ClockCalibration) (macNs : Int) : Int :=
  applyModel macNs calibration.status.macOriginNs calibration.status.unixOriginNs
    calibration.status.scale

def toUnixNanoseconds (calibration : ClockCalibration) (macNs : Int) : Except StdException Int :=
  if calibration.status.valid = false then
    .error (.runtimeError "SmartNIC clock calibration is not valid")
  else .ok (calibration.convert macNs)

/-! ### The robust fit -/

def residual (macOrigin unixOrigin : Int) (scale : ℚ) (sample : TimeSample) : Int :=
  sample.unixNs - applyModel sample.macNs macOrigin unixOrigin scale

def inlierThreshold (residuals : List Int) : Int :=
  max 50000 (median (residuals.map fun value => |value - median residuals|) * 6)

def inliers (candidates : List TimeSample) (macOrigin unixOrigin : Int) (scale : ℚ) :
    List TimeSample :=
  let residuals := candidates.map (residual macOrigin unixOrigin scale)
  candidates.filter fun sample =>
    |residual macOrigin unixOrigin scale sample - median residuals| ≤ inlierThreshold residuals

/-- `none` is the C++ `false`, which leaves the object as it was. -/
def fit (calibration : ClockCalibration) : Option ClockCalibration := do
  let front ← calibration.samples.head?
  let (initialScale, initialUnixOrigin) ←
    fitLine calibration.samples front.macNs front.unixNs
  let kept := inliers calibration.samples front.macNs initialUnixOrigin initialScale
  if kept.length < 4 then none
  let origin ← kept.head?
  let (finalScale, fittedUnixOrigin) ← fitLine kept origin.macNs origin.unixNs
  if |(finalScale - 1) * 1000000| > calibration.config.maximumDriftPpm then none
  let finalResiduals :=
    kept.map fun sample => |residual origin.macNs fittedUnixOrigin finalScale sample|
  some
    { calibration with
      status :=
        { calibration.status with
          macOriginNs := origin.macNs
          unixOriginNs := fittedUnixOrigin
          scale := finalScale
          medianResidualNs := median finalResiduals
          sampleCount := kept.length
          driftCalibrated := true
          sampleSpanNs := spanNs kept
          state := .tracking } }

/-! ### Adding a sample -/

def anchorStatus (status : CalibrationStatus) (sample : TimeSample) : CalibrationStatus :=
  { status with
    macOriginNs := sample.macNs
    unixOriginNs := sample.unixNs
    minimumLatencyNs := sample.latencyNs
    scale := 1
    sampleCount := 1
    valid := true
    state := .offsetOnly }

def acceptFirst (calibration : ClockCalibration) (sample : TimeSample) : ClockCalibration :=
  { calibration with
    status := anchorStatus calibration.status sample
    samples := calibration.samples ++ [sample] }

def macRollback (calibration : ClockCalibration) (sample : TimeSample) : Prop :=
  sample.macNs ≤ calibration.lastMacNs

def hostClockStep (calibration : ClockCalibration) (sample : TimeSample) : Prop :=
  calibration.lastMonotonicNs ≠ 0 ∧
    |(sample.unixNs - calibration.lastUnixNs) -
        (sample.monotonicNs - calibration.lastMonotonicNs)| >
      calibration.config.hostStepThresholdNs

def modelStep (calibration : ClockCalibration) (sample : TimeSample) : Prop :=
  |calibration.convert sample.macNs - sample.unixNs| > calibration.config.modelStepThresholdNs

def ReanchorsOn (calibration : ClockCalibration) (sample : TimeSample) : Prop :=
  calibration.macRollback sample ∨ calibration.hostClockStep sample ∨
    calibration.modelStep sample

instance (calibration : ClockCalibration) (sample : TimeSample) :
    Decidable (calibration.ReanchorsOn sample) :=
  inferInstanceAs (Decidable (_ ≤ _ ∨ (_ ≠ _ ∧ _ > _) ∨ _ > _))

def reanchor (calibration : ClockCalibration) (sample : TimeSample) : ClockCalibration :=
  let fresh := calibration.reset
  { fresh with
    status := anchorStatus
      { fresh.status with rejectedSamples := calibration.status.rejectedSamples + 1 } sample
    samples := [sample] }

def keepModel (calibration : ClockCalibration) (sample : TimeSample) : ClockCalibration :=
  { calibration with
    samples := calibration.samples ++ [sample]
    status :=
      { calibration.status with
        minimumLatencyNs := min calibration.status.minimumLatencyNs sample.latencyNs } }

def outsideWindow (config : Config) (newest sample : TimeSample) : Bool :=
  newest.monotonicNs - sample.monotonicNs > config.regressionWindowNs

def trimWindow (calibration : ClockCalibration) (newest : TimeSample) : ClockCalibration :=
  let window := calibration.samples.dropWhile (outsideWindow calibration.config newest)
  { calibration with
    samples := window
    status :=
      { calibration.status with
        sampleCount := window.length
        acceptedSamples := max calibration.status.acceptedSamples window.length
        sampleSpanNs := spanNs window } }

/-- The status writes of an admitted sample, up to the point where `fit` may run. -/
def absorb (calibration : ClockCalibration) (sample : TimeSample) : ClockCalibration :=
  let updated :=
    if calibration.status.valid = false then calibration.acceptFirst sample
    else if calibration.ReanchorsOn sample then calibration.reanchor sample
    else calibration.keepModel sample
  (updated.recordLast sample).trimWindow sample

def FitDue (calibration : ClockCalibration) : Prop :=
  10 ≤ calibration.samples.length ∧
    calibration.config.minimumRegressionSpanNs ≤ spanNs calibration.samples

instance (calibration : ClockCalibration) : Decidable calibration.FitDue :=
  inferInstanceAs (Decidable (_ ∧ _))

def fitIfDue (calibration : ClockCalibration) : ClockCalibration :=
  if calibration.FitDue then calibration.fit.getD calibration else calibration

def addSample (calibration : ClockCalibration) (sample : TimeSample) :
    Bool × ClockCalibration :=
  if ¬ calibration.config.Admits sample then
    (false,
      { calibration with
        status :=
          { calibration.status with
            rejectedSamples := calibration.status.rejectedSamples + 1 } })
  else (true, (calibration.absorb sample).fitIfDue)

end ClockCalibration

end SflowMiddle.Calibration

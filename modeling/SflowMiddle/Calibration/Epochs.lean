/-
The calibration under other epochs. Moving the zero of the device clock and of the
host clock moves every origin, every stored timestamp and every conversion along,
and changes no decision: a run on moved samples stays the moved run.
-/

import SflowMiddle.Calibration.Runs

namespace SflowMiddle.Calibration

open SflowMiddle.Foundation
open ClockCalibration

/-- How far the epoch of each clock moves. -/
structure EpochShift where
  mac : Int
  unix : Int

namespace EpochShift

variable (shift : EpochShift)

def sample (sample : TimeSample) : TimeSample :=
  { sample with
    macNs := sample.macNs + shift.mac
    unixNs := sample.unixNs + shift.unix }

/-- Both the original and the moved readings are times after their epochs. -/
def KeepsPositive (sample : TimeSample) : Prop :=
  0 < sample.macNs ∧ 0 < sample.macNs + shift.mac ∧
    0 < sample.unixNs ∧ 0 < sample.unixNs + shift.unix

instance (sample : TimeSample) : Decidable (shift.KeepsPositive sample) :=
  inferInstanceAs (Decidable (_ ∧ _ ∧ _ ∧ _))

def call : CalibrationCall → CalibrationCall
  | .initializeFrom samples => .initializeFrom (samples.map shift.sample)
  | .addSample sample => .addSample (shift.sample sample)
  | .reset => .reset

/-- The object with a model, seen from the other epochs. -/
def model (calibration : ClockCalibration) : ClockCalibration :=
  { calibration with
    samples := calibration.samples.map shift.sample
    status :=
      { calibration.status with
        macOriginNs := calibration.status.macOriginNs + shift.mac
        unixOriginNs := calibration.status.unixOriginNs + shift.unix }
    lastMacNs := calibration.lastMacNs + shift.mac
    lastUnixNs := calibration.lastUnixNs + shift.unix }

def calibration (calibration : ClockCalibration) : ClockCalibration :=
  if calibration.status.valid = true then shift.model calibration
  else { calibration with samples := calibration.samples.map shift.sample }

@[simp]
theorem sample_monotonicNs (sample : TimeSample) :
    (shift.sample sample).monotonicNs = sample.monotonicNs := rfl

@[simp]
theorem sample_latencyNs (sample : TimeSample) :
    (shift.sample sample).latencyNs = sample.latencyNs := rfl

@[simp]
theorem calibration_config (calibration : ClockCalibration) :
    (shift.calibration calibration).config = calibration.config := by
  unfold EpochShift.calibration
  split <;> rfl

@[simp]
theorem calibration_valid (calibration : ClockCalibration) :
    (shift.calibration calibration).status.valid = calibration.status.valid := by
  unfold EpochShift.calibration
  split <;> rfl

private theorem calibration_of_valid {calibration : ClockCalibration}
    (valid : calibration.status.valid = true) :
    shift.calibration calibration = shift.model calibration :=
  if_pos valid

/-! ### Differences of readings -/

private theorem admits_shifted {config : Config} {sample : TimeSample}
    (positive : shift.KeepsPositive sample) :
    config.Admits (shift.sample sample) ↔ config.Admits sample := by
  obtain ⟨mac, macMoved, unix, unixMoved⟩ := positive
  constructor
  · rintro ⟨least, most, _, _⟩
    exact ⟨least, most, mac, unix⟩
  · rintro ⟨least, most, _, _⟩
    exact ⟨least, most, macMoved, unixMoved⟩

private theorem filter_admits_shifted {config : Config} {samples : List TimeSample}
    (positive : ∀ sample ∈ samples, shift.KeepsPositive sample) :
    (samples.map shift.sample).filter (fun sample => config.Admits sample) =
      (samples.filter (fun sample => config.Admits sample)).map shift.sample := by
  rw [List.filter_map]
  apply congrArg
  apply List.filter_congr
  intro sample member
  exact decide_eq_decide.mpr (shift.admits_shifted (positive sample member))

private theorem filter_rejects_shifted {config : Config} {samples : List TimeSample}
    (positive : ∀ sample ∈ samples, shift.KeepsPositive sample) :
    ((samples.map shift.sample).filter (fun sample => ¬ config.Admits sample)).length =
      (samples.filter (fun sample => ¬ config.Admits sample)).length := by
  rw [List.filter_map, List.length_map]
  apply congrArg
  apply List.filter_congr
  intro sample member
  exact decide_eq_decide.mpr (not_congr (shift.admits_shifted (positive sample member)))

private theorem getLastD_shifted (front : TimeSample) (rest : List TimeSample) :
    (rest.map shift.sample).getLastD (shift.sample front) =
      shift.sample (rest.getLastD front) := by
  rw [List.getLastD_eq_getLast?, List.getLastD_eq_getLast?, List.getLast?_map]
  cases rest.getLast? with
  | none => rfl
  | some _ => rfl

private theorem spanNs_shifted (samples : List TimeSample) :
    spanNs (samples.map shift.sample) = spanNs samples := by
  cases samples with
  | nil => rfl
  | cons front rest =>
      unfold spanNs
      simp only [List.map_cons, getLastD_shifted, sample_monotonicNs]

private theorem applyModel_shifted (reading macOrigin unixOrigin : Int) (scale : ℚ) :
    applyModel (reading + shift.mac) (macOrigin + shift.mac) (unixOrigin + shift.unix) scale =
      applyModel reading macOrigin unixOrigin scale + shift.unix := by
  unfold applyModel
  rw [add_sub_add_right_eq_sub]
  ring

private theorem residual_shifted (macOrigin unixOrigin : Int) (scale : ℚ) (sample : TimeSample) :
    ClockCalibration.residual (macOrigin + shift.mac) (unixOrigin + shift.unix) scale
        (shift.sample sample) =
      ClockCalibration.residual macOrigin unixOrigin scale sample := by
  unfold ClockCalibration.residual EpochShift.sample
  rw [applyModel_shifted, add_sub_add_right_eq_sub]

private theorem fitLine_shifted (samples : List TimeSample) (macOrigin unixOrigin : Int) :
    fitLine (samples.map shift.sample) (macOrigin + shift.mac) (unixOrigin + shift.unix) =
      (fitLine samples macOrigin unixOrigin).map
        (fun line => (line.1, line.2 + shift.unix)) := by
  have mac : ∀ sample : TimeSample,
      (shift.sample sample).macNs - (macOrigin + shift.mac) = sample.macNs - macOrigin :=
    fun sample => add_sub_add_right_eq_sub sample.macNs macOrigin shift.mac
  have unix : ∀ sample : TimeSample,
      (shift.sample sample).unixNs - (unixOrigin + shift.unix) = sample.unixNs - unixOrigin :=
    fun sample => add_sub_add_right_eq_sub sample.unixNs unixOrigin shift.unix
  unfold fitLine
  simp only [List.length_map, List.map_map, Function.comp_def, mac, unix]
  split
  · rfl
  · split
    · rfl
    · simp only [Option.map_some]
      rw [add_right_comm]

/-! ### The robust fit -/

private theorem residuals_shifted (samples : List TimeSample) (macOrigin unixOrigin : Int)
    (scale : ℚ) :
    (samples.map shift.sample).map (ClockCalibration.residual (macOrigin + shift.mac)
        (unixOrigin + shift.unix) scale) =
      samples.map (ClockCalibration.residual macOrigin unixOrigin scale) := by
  rw [List.map_map]
  apply List.map_congr_left
  intro sample _
  exact shift.residual_shifted macOrigin unixOrigin scale sample

private theorem inliers_shifted (candidates : List TimeSample) (macOrigin unixOrigin : Int)
    (scale : ℚ) :
    inliers (candidates.map shift.sample) (macOrigin + shift.mac) (unixOrigin + shift.unix)
        scale =
      (inliers candidates macOrigin unixOrigin scale).map shift.sample := by
  unfold inliers
  simp only [residuals_shifted, List.filter_map, Function.comp_def, residual_shifted]

private theorem finalResiduals_shifted (samples : List TimeSample) (origin : TimeSample)
    (unixOrigin : Int) (scale : ℚ) :
    (samples.map shift.sample).map (fun sample =>
        |ClockCalibration.residual (shift.sample origin).macNs (unixOrigin + shift.unix) scale
          sample|) =
      samples.map (fun sample =>
        |ClockCalibration.residual origin.macNs unixOrigin scale sample|) := by
  rw [List.map_map]
  apply List.map_congr_left
  intro sample _
  exact congrArg abs (shift.residual_shifted origin.macNs unixOrigin scale sample)

private theorem fit_model (calibration : ClockCalibration) :
    (shift.model calibration).fit = calibration.fit.map shift.model := by
  unfold fit
  simp only [model, List.head?_map]
  cases calibration.samples.head? with
  | none => rfl
  | some front =>
      simp only [Option.map_some, Option.bind_eq_bind, Option.bind_some]
      have first : fitLine (calibration.samples.map shift.sample) (shift.sample front).macNs
          (shift.sample front).unixNs = _ :=
        shift.fitLine_shifted calibration.samples front.macNs front.unixNs
      rw [first]
      cases fitLine calibration.samples front.macNs front.unixNs with
      | none => rfl
      | some line =>
          obtain ⟨scale, fittedOrigin⟩ := line
          simp only [Option.map_some, Option.bind_some]
          have kept : inliers (calibration.samples.map shift.sample) (shift.sample front).macNs
              (fittedOrigin + shift.unix) scale = _ :=
            shift.inliers_shifted calibration.samples front.macNs fittedOrigin scale
          rw [kept, List.length_map]
          split
          · rfl
          · rw [List.head?_map]
            cases (inliers calibration.samples front.macNs fittedOrigin scale).head? with
            | none => rfl
            | some origin =>
                simp only [Option.map_some, Option.bind_some]
                have second : fitLine
                    ((inliers calibration.samples front.macNs fittedOrigin scale).map shift.sample)
                    (shift.sample origin).macNs (shift.sample origin).unixNs = _ :=
                  shift.fitLine_shifted _ origin.macNs origin.unixNs
                rw [second]
                cases fitLine (inliers calibration.samples front.macNs fittedOrigin scale)
                    origin.macNs origin.unixNs with
                | none => rfl
                | some final =>
                    simp only [Option.map_some, Option.bind_some]
                    split
                    · rfl
                    · rw [shift.finalResiduals_shifted, spanNs_shifted]
                      rfl

private theorem fitIfDue_model (calibration : ClockCalibration) :
    (shift.model calibration).fitIfDue = shift.model calibration.fitIfDue := by
  have due : (shift.model calibration).FitDue ↔ calibration.FitDue := by
    unfold FitDue
    simp only [model, List.length_map, spanNs_shifted]
  unfold fitIfDue
  by_cases ready : calibration.FitDue
  · rw [if_pos ready, if_pos (due.mpr ready), fit_model]
    cases calibration.fit with
    | none => rfl
    | some fitted => rfl
  · rw [if_neg ready, if_neg (fun moved => ready (due.mp moved))]

/-! ### Adding a sample -/

private theorem convert_model (calibration : ClockCalibration) (reading : Int) :
    (shift.model calibration).convert (reading + shift.mac) =
      calibration.convert reading + shift.unix :=
  shift.applyModel_shifted reading calibration.status.macOriginNs
    calibration.status.unixOriginNs calibration.status.scale

private theorem reanchorsOn_model (calibration : ClockCalibration) (sample : TimeSample) :
    (shift.model calibration).ReanchorsOn (shift.sample sample) ↔
      calibration.ReanchorsOn sample := by
  have rollback : (shift.model calibration).macRollback (shift.sample sample) ↔
      calibration.macRollback sample :=
    add_le_add_iff_right shift.mac
  have host : (shift.model calibration).hostClockStep (shift.sample sample) ↔
      calibration.hostClockStep sample := by
    unfold hostClockStep
    simp only [model, EpochShift.sample, add_sub_add_right_eq_sub]
  have model : (shift.model calibration).modelStep (shift.sample sample) ↔
      calibration.modelStep sample := by
    unfold modelStep
    have converted : (shift.model calibration).convert (shift.sample sample).macNs -
          (shift.sample sample).unixNs =
        calibration.convert sample.macNs - sample.unixNs := by
      change (shift.model calibration).convert (sample.macNs + shift.mac) -
        (sample.unixNs + shift.unix) = _
      rw [convert_model, add_sub_add_right_eq_sub]
    rw [converted]
    exact Iff.rfl
  exact or_congr rollback (or_congr host model)

private theorem trimWindow_model (calibration : ClockCalibration) (newest : TimeSample) :
    (shift.model calibration).trimWindow (shift.sample newest) =
      shift.model (calibration.trimWindow newest) := by
  have window : (calibration.samples.map shift.sample).dropWhile
        (outsideWindow calibration.config (shift.sample newest)) =
      (calibration.samples.dropWhile (outsideWindow calibration.config newest)).map
        shift.sample := by
    rw [List.dropWhile_map]
    rfl
  unfold trimWindow
  simp only [model, window, List.length_map, spanNs_shifted]

private theorem absorb_calibration (calibration : ClockCalibration) (sample : TimeSample) :
    (shift.calibration calibration).absorb (shift.sample sample) =
      shift.model (calibration.absorb sample) := by
  unfold absorb
  rw [calibration_valid]
  by_cases invalid : calibration.status.valid = false
  · rw [if_pos invalid, if_pos invalid, ← trimWindow_model]
    unfold EpochShift.calibration
    rw [if_neg (by rw [invalid]; exact Bool.false_ne_true)]
    simp [acceptFirst, recordLast, model, EpochShift.sample, anchorStatus]
  · rw [if_neg invalid, if_neg invalid,
      shift.calibration_of_valid (Bool.eq_true_of_not_eq_false invalid)]
    by_cases again : calibration.ReanchorsOn sample
    · rw [if_pos again, if_pos ((shift.reanchorsOn_model calibration sample).mpr again),
        ← trimWindow_model]
      rfl
    · rw [if_neg again,
        if_neg (fun moved => again ((shift.reanchorsOn_model calibration sample).mp moved)),
        ← trimWindow_model]
      simp [keepModel, recordLast, model, EpochShift.sample]

private theorem addSample_shifted (calibration : ClockCalibration) {sample : TimeSample}
    (positive : shift.KeepsPositive sample) :
    (shift.calibration calibration).addSample (shift.sample sample) =
      ((calibration.addSample sample).1, shift.calibration (calibration.addSample sample).2) := by
  have admits : (shift.calibration calibration).config.Admits (shift.sample sample) ↔
      calibration.config.Admits sample := by
    rw [calibration_config]
    exact shift.admits_shifted positive
  by_cases admitted : calibration.config.Admits sample
  · rw [addSample_of_admits admitted, addSample_of_admits (admits.mpr admitted),
      absorb_calibration, fitIfDue_model,
      shift.calibration_of_valid ((fitIfDue_frame _).2.2.2.2.2.1.trans
        (absorb_valid calibration sample))]
  · rw [addSample_of_not_admits admitted,
      addSample_of_not_admits (fun moved => admitted (admits.mp moved))]
    unfold EpochShift.calibration
    split
    · rfl
    · rfl

/-! ### Starting from samples -/

private theorem median_add (values : List Int) (amount : Int) (nonempty : values ≠ []) :
    median (values.map (· + amount)) = median values + amount := by
  have positive : 0 < values.length := List.length_pos_iff.mpr nonempty
  have present : ¬ values.isEmpty = true := by simpa using nonempty
  unfold median
  rw [List.isEmpty_map, if_neg present, if_neg present]
  simp only [List.length_map]
  rw [nthElement_add amount (by omega), nthElement_add amount (by omega)]
  split
  · rfl
  · exact truncMidpoint_add _ _ amount

private theorem setOffsetModel_shifted (calibration : ClockCalibration) {samples : List TimeSample}
    (nonempty : samples ≠ []) :
    (calibration.setOffsetModel (samples.map shift.sample)).status =
      { (calibration.setOffsetModel samples).status with
        macOriginNs := (calibration.setOffsetModel samples).status.macOriginNs + shift.mac
        unixOriginNs :=
          (calibration.setOffsetModel samples).status.unixOriginNs + shift.unix } := by
  have offsets : (samples.map shift.sample).map (fun sample => sample.unixNs - sample.macNs) =
      (samples.map fun sample => sample.unixNs - sample.macNs).map
        (· + (shift.unix - shift.mac)) := by
    rw [List.map_map, List.map_map]
    apply List.map_congr_left
    intro sample _
    simp only [Function.comp_apply, EpochShift.sample]
    ring
  have best : (minElement TimeSample.latencyNs (samples.map shift.sample)).getD {} =
      shift.sample ((minElement TimeSample.latencyNs samples).getD {}) := by
    rw [minElement_map]
    cases samples with
    | nil => exact absurd rfl nonempty
    | cons first rest => rfl
  have middle := median_add (samples.map fun sample => sample.unixNs - sample.macNs)
    (shift.unix - shift.mac) (by simpa using nonempty)
  unfold setOffsetModel
  simp only [best, offsets, middle, List.foldl_map, List.length_map, sample_latencyNs]
  congr 1
  simp only [EpochShift.sample]
  ring

private theorem installOffset_shifted {std : StdSort} (natural : std.ComparisonBased)
    (calibration : ClockCalibration) {best : List TimeSample} (nonempty : best ≠ []) :
    installOffset std calibration (best.map shift.sample) =
      shift.calibration (installOffset std calibration best) := by
  have status := shift.setOffsetModel_shifted calibration nonempty
  have last : ((std.sort TimeSample.monotonicNs best).map shift.sample).getLastD {} =
      shift.sample ((std.sort TimeSample.monotonicNs best).getLastD {}) := by
    have stored : std.sort TimeSample.monotonicNs best ≠ [] := by
      intro none
      rw [← List.length_eq_zero_iff, std.length_sort, List.length_eq_zero_iff] at none
      exact nonempty none
    cases ordered : std.sort TimeSample.monotonicNs best with
    | nil => exact absurd ordered stored
    | cons front rest =>
        rw [List.map_cons, List.getLastD_cons, List.getLastD_cons]
        exact shift.getLastD_shifted front rest
  have ordered : std.sort TimeSample.monotonicNs (best.map shift.sample) =
      (std.sort TimeSample.monotonicNs best).map shift.sample :=
    natural.sort_map shift.sample TimeSample.monotonicNs best
  rw [shift.calibration_of_valid rfl]
  unfold installOffset
  rw [ordered, last]
  unfold recordLast model
  simp only [status]
  rfl

private theorem startupBest_shifted {std : StdSort} (natural : std.ComparisonBased)
    {config : Config}
    {samples : List TimeSample} (positive : ∀ sample ∈ samples, shift.KeepsPositive sample) :
    startupBest std config (samples.map shift.sample) =
      (startupBest std config samples).map shift.sample := by
  unfold startupBest
  rw [shift.filter_admits_shifted positive, natural.sort_map, List.map_take]
  rfl

private theorem reset_shifted (calibration : ClockCalibration) :
    (shift.calibration calibration).reset = calibration.reset := by
  unfold EpochShift.calibration
  split
  · rfl
  · rfl

private theorem emptied_shifted (calibration : ClockCalibration) {samples : List TimeSample}
    (positive : ∀ sample ∈ samples, shift.KeepsPositive sample) :
    emptied (shift.calibration calibration) (samples.map shift.sample) =
      emptied calibration samples := by
  unfold emptied
  rw [reset_shifted, calibration_config, shift.filter_rejects_shifted positive]

private theorem initializeFrom_shifted {std : StdSort} (natural : std.ComparisonBased)
    (calibration : ClockCalibration) {samples : List TimeSample}
    (positive : ∀ sample ∈ samples, shift.KeepsPositive sample) :
    (shift.calibration calibration).initializeFrom std (samples.map shift.sample) =
      ((calibration.initializeFrom std samples).1,
        shift.calibration (calibration.initializeFrom std samples).2) := by
  rw [initializeFrom_eq, initializeFrom_eq, calibration_config,
    shift.filter_admits_shifted positive, List.length_map,
    shift.emptied_shifted calibration positive, shift.startupBest_shifted natural positive]
  by_cases few : (samples.filter fun sample => calibration.config.Admits sample).length < 4
  · rw [if_pos few, if_pos few]
    rfl
  · rw [if_neg few, if_neg few]
    exact congrArg (Prod.mk true) (shift.installOffset_shifted natural _
      (startupBest_ne_nil std (not_lt.mp few)))

end EpochShift

/-! ### Runs -/

/-- One call on the object: what it returns, nothing for `reset`, and the object after it. -/
def CalibrationCall.perform (std : StdSort) (calibration : ClockCalibration) :
    CalibrationCall → Option Bool × ClockCalibration
  | .initializeFrom samples =>
      (some (calibration.initializeFrom std samples).1, (calibration.initializeFrom std samples).2)
  | .addSample sample =>
      (some (calibration.addSample sample).1, (calibration.addSample sample).2)
  | .reset => (none, calibration.reset)

def performAll (std : StdSort) (calibration : ClockCalibration) :
    List CalibrationCall → List (Option Bool × ClockCalibration)
  | [] => []
  | call :: rest =>
      call.perform std calibration :: performAll std (call.perform std calibration).2 rest

private theorem EpochShift.perform_shifted (shift : EpochShift) {std : StdSort}
    (natural : std.ComparisonBased) (calibration : ClockCalibration) {call : CalibrationCall}
    (positive : ∀ sample ∈ call.samples, shift.KeepsPositive sample) :
    (shift.call call).perform std (shift.calibration calibration) =
      ((call.perform std calibration).1, shift.calibration (call.perform std calibration).2) := by
  cases call with
  | initializeFrom samples =>
      have moved := @initializeFrom_shifted shift std natural calibration samples positive
      simp only [EpochShift.call, CalibrationCall.perform, moved]
  | addSample sample =>
      have moved := shift.addSample_shifted calibration
        (positive sample (List.mem_singleton_self sample))
      simp only [EpochShift.call, CalibrationCall.perform, moved]
  | reset =>
      simp only [EpochShift.call, CalibrationCall.perform, reset_shifted]
      rfl

private theorem EpochShift.performAll_shifted (shift : EpochShift) {std : StdSort}
    (natural : std.ComparisonBased) (calibration : ClockCalibration)
    (calls : List CalibrationCall)
    (positive : ∀ call ∈ calls, ∀ sample ∈ call.samples, shift.KeepsPositive sample) :
    performAll std (shift.calibration calibration) (calls.map shift.call) =
      (performAll std calibration calls).map
        (fun outcome => (outcome.1, shift.calibration outcome.2)) := by
  induction calls generalizing calibration with
  | nil => rfl
  | cons call rest ih =>
      have step := shift.perform_shifted natural calibration (positive call List.mem_cons_self)
      simp only [List.map_cons, performAll]
      rw [step, ih _ fun later member => positive later (List.mem_cons_of_mem _ member)]

/-- Two objects that differ by the epochs of the clocks and in nothing else. -/
structure EpochShift.Related (shift : EpochShift) (original moved : ClockCalibration) :
    Prop where
  status : { moved.status with
      macOriginNs := original.status.macOriginNs
      unixOriginNs := original.status.unixOriginNs } = original.status
  conversion : ∀ reading, moved.toUnixNanoseconds (reading + shift.mac) =
    (original.toUnixNanoseconds reading).map (· + shift.unix)

private theorem EpochShift.related (shift : EpochShift) (calibration : ClockCalibration) :
    shift.Related calibration (shift.calibration calibration) := by
  constructor
  · unfold EpochShift.calibration
    split
    · rfl
    · rfl
  · intro reading
    unfold toUnixNanoseconds
    rw [calibration_valid]
    by_cases invalid : calibration.status.valid = false
    · rw [if_pos invalid, if_pos invalid]
      rfl
    · rw [if_neg invalid, if_neg invalid,
        shift.calibration_of_valid (Bool.eq_true_of_not_eq_false invalid), convert_model]
      rfl

/-- Calls on moved samples return the same, and after every call leave the same object up
to the epochs. -/
theorem epochs_irrelevant {std : StdSort} (natural : std.ComparisonBased) (config : Config)
    (shift : EpochShift) (calls : List CalibrationCall)
    (positive : ∀ call ∈ calls, ∀ sample ∈ call.samples, shift.KeepsPositive sample) :
    List.Forall₂
      (fun original moved => moved.1 = original.1 ∧ shift.Related original.2 moved.2)
      (performAll std { config := config } calls)
      (performAll std { config := config } (calls.map shift.call)) := by
  have moved := shift.performAll_shifted natural { config := config } calls positive
  have fresh : shift.calibration { config := config } = { config := config } := rfl
  rw [fresh] at moved
  rw [moved, List.forall₂_map_right_iff]
  exact List.forall₂_same.mpr fun outcome _ => ⟨rfl, shift.related outcome.2⟩

/-- A run past a fit and a trimmed window, both epochs moved. -/
theorem epochs_irrelevant_trimmed :
    ((performAll .insertion {} trimmedRun).map fun outcome =>
        (outcome.2.status.state, outcome.2.samples.length)).getLast? = some (.tracking, 2) ∧
      List.Forall₂
        (fun original moved => moved.1 = original.1 ∧
          EpochShift.Related ⟨1000, -5⟩ original.2 moved.2)
        (performAll .insertion {} trimmedRun)
        (performAll .insertion {} (trimmedRun.map (EpochShift.call ⟨1000, -5⟩))) :=
  ⟨by decide +kernel, epochs_irrelevant StdSort.insertion_comparisonBased {} ⟨1000, -5⟩ trimmedRun
    (by decide +kernel)⟩

end SflowMiddle.Calibration

/-
The times in what is exported. A record shows the first start and the last end among its
entries, as the calibration converts them in the tick that read them. Where each
conversion is near a line that rises, so is the first of them at the entry that started
first, and the last at the one that ended last, whichever entries those are.
-/

import SflowMiddle.Exporter.Pipeline
import SflowMiddle.Exporter.TrueTime

namespace SflowMiddle.Exporter

open SflowMiddle.Foundation
open SflowMiddle.Calibration
open SflowMiddle.Card
open SflowMiddle.Card.SteadyCard
open SflowMiddle.Clock

/-! ### The times of one record -/

structure Dated (line : ClockLine) (error : ℚ) (entries : List FlowData) (record : FlowRecord) :
    Prop where
  started : ∃ first ∈ entries, (∀ entry ∈ entries, deviceStart first ≤ deviceStart entry) ∧
    |(record.startTime * 1000000 : ℚ) - line.unixAt (deviceStart first)| ≤ error + 1000000
  ended : ∃ last ∈ entries, (∀ entry ∈ entries, deviceEnd entry ≤ deviceEnd last) ∧
    |(record.endTime * 1000000 : ℚ) - line.unixAt (deviceEnd last)| ≤ error + 1000000

structure ConvertedNear (line : ClockLine) (convert : Int → Int) (error : ℚ) (entry : FlowData) :
    Prop where
  start : |(convert (deviceStart entry) : ℚ) - line.unixAt (deviceStart entry)| ≤ error
  finish : |(convert (deviceEnd entry) : ℚ) - line.unixAt (deviceEnd entry)| ≤ error

/-- The converted times are values of `int64_t`. -/
structure Representable (convert : Int → Int) (entry : FlowData) : Prop where
  start : convert (deviceStart entry) ≤ int64Max
  finish : int64Min ≤ convert (deviceEnd entry)

section Records

variable {line : ClockLine} {convert : Int → Int} {error : ℚ} {entries : List FlowData}
  {record : FlowRecord}

private theorem milliseconds_near {timeNs : Int} {exact : ℚ}
    (near : |(timeNs : ℚ) - exact| ≤ error) :
    |((timeNs.tdiv 1000000 : Int) * 1000000 : ℚ) - exact| ≤ error + 1000000 := by
  have lost : |((timeNs.tdiv 1000000 : Int) * 1000000 : ℚ) - timeNs| ≤ 1000000 := by
    exact_mod_cast (abs_tdiv_mul_sub_lt timeNs (by decide : (0 : Int) < 1000000)).le
  calc |((timeNs.tdiv 1000000 : Int) * 1000000 : ℚ) - exact|
      ≤ |((timeNs.tdiv 1000000 : Int) * 1000000 : ℚ) - timeNs| + |(timeNs : ℚ) - exact| :=
        abs_sub_le _ _ _
    _ ≤ error + 1000000 := by linarith

private theorem start_near (rises : 0 ≤ line.slope) {timeNs : Int}
    (least : IsLeast {time | ∃ entry ∈ entries, convert (deviceStart entry) = time} timeNs)
    (near : ∀ entry ∈ entries, ConvertedNear line convert error entry) :
    ∃ first ∈ entries, (∀ entry ∈ entries, deviceStart first ≤ deviceStart entry) ∧
      |(timeNs : ℚ) - line.unixAt (deviceStart first)| ≤ error := by
  obtain ⟨⟨chosen, chosenMember, same⟩, below⟩ := least
  obtain ⟨first, member, earliest⟩ := Set.exists_min_image {entry | entry ∈ entries} deviceStart
    (List.finite_toSet entries) ⟨chosen, chosenMember⟩
  have lower : (timeNs : ℚ) ≤ convert (deviceStart first) := by
    exact_mod_cast below ⟨first, member, rfl⟩
  have ordered := ClockLine.unixAt_mono rises (Int.cast_le.mpr (earliest chosen chosenMember))
  have chosenNear := abs_le.mp (near chosen chosenMember).start
  have firstNear := abs_le.mp (near first member).start
  rw [same] at chosenNear
  refine ⟨first, member, earliest, ?_⟩
  rw [abs_le]
  constructor <;> linarith

private theorem end_near (rises : 0 ≤ line.slope) {timeNs : Int}
    (greatest : IsGreatest {time | ∃ entry ∈ entries, convert (deviceEnd entry) = time} timeNs)
    (near : ∀ entry ∈ entries, ConvertedNear line convert error entry) :
    ∃ last ∈ entries, (∀ entry ∈ entries, deviceEnd entry ≤ deviceEnd last) ∧
      |(timeNs : ℚ) - line.unixAt (deviceEnd last)| ≤ error := by
  obtain ⟨⟨chosen, chosenMember, same⟩, above⟩ := greatest
  obtain ⟨last, member, latest⟩ := Set.exists_max_image {entry | entry ∈ entries} deviceEnd
    (List.finite_toSet entries) ⟨chosen, chosenMember⟩
  have upper : (convert (deviceEnd last) : ℚ) ≤ timeNs := by
    exact_mod_cast above ⟨last, member, rfl⟩
  have ordered := ClockLine.unixAt_mono rises (Int.cast_le.mpr (latest chosen chosenMember))
  have chosenNear := abs_le.mp (near chosen chosenMember).finish
  have lastNear := abs_le.mp (near last member).finish
  rw [same] at chosenNear
  refine ⟨last, member, latest, ?_⟩
  rw [abs_le]
  constructor <;> linarith

private theorem dated_of_near (rises : 0 ≤ line.slope)
    (recordExact : RecordExact convert entries record)
    (representable : ∀ entry ∈ entries, Representable convert entry)
    (near : ∀ entry ∈ entries, ConvertedNear line convert error entry) :
    Dated line error entries record := by
  constructor
  · obtain ⟨first, member, earliest, close⟩ := start_near rises
      (recordExact.starts fun entry inside => (representable entry inside).start) near
    refine ⟨first, member, earliest, ?_⟩
    rw [recordExact.startTime]
    exact milliseconds_near close
  · obtain ⟨last, member, latest, close⟩ := end_near rises
      (recordExact.ends fun entry inside => (representable entry inside).finish) near
    refine ⟨last, member, latest, ?_⟩
    rw [recordExact.endTime]
    exact milliseconds_near close

end Records

/-! ### The times of one batch -/

def Reached (run : AdjusterRun) (reach : ℚ) (timeNs : Int) : Prop :=
  ∀ sample ∈ run.publications.emitted, |(timeNs : ℚ) - sample.smartnicNs| ≤ reach

def Among (chosen : List TimeSample) (timeNs : Int) : Prop :=
  ∃ left ∈ chosen, ∃ right ∈ chosen, left.macNs ≤ timeNs ∧ timeNs ≤ right.macNs

/-- The times of a batch, by what the calibration knew when it was made: an offset, which drifts
with the distance to the samples, or a line, which is off by the error of its samples and the
root of their number at most as long as it is not extended. -/
structure DatesExports (line : ClockLine) (bound : ℚ) (run : AdjusterRun)
    (entries : List FlowData) (data : ExportData) : Prop where
  offsetOnly : run.adjuster.status.driftCalibrated = false →
    ∀ key record reach, data.flowMap.find? key = some record →
      (∀ entry ∈ group entries key, Reached run reach (deviceStart entry) ∧
        Reached run reach (deviceEnd entry)) →
      Dated line (bound + |line.slope - 1| * reach) (group entries key) record
  tracking : run.adjuster.status.driftCalibrated = true → ∃ chosen,
    (∀ kept ∈ chosen, ∃ sample ∈ run.publications.emitted,
      kept = TimeAdjuster.toTimeSample sample) ∧
      4 ≤ chosen.length ∧
      ∀ key record error, data.flowMap.find? key = some record →
        0 ≤ error → chosen.length * bound ^ 2 ≤ error ^ 2 →
        (∀ entry ∈ group entries key, Among chosen (deviceStart entry) ∧
          Among chosen (deviceEnd entry)) →
        Dated line (1 + error) (group entries key) record

section Batches

variable {line : ClockLine} {bound : ℚ} {run : AdjusterRun} {entries : List FlowData}
  {counted : List CounterData} {data : ExportData}

private theorem near_of_lineError {chosen : List TimeSample} {origin macNs unixNs : Int}
    {miss error : ℚ}
    (off : LineError line bound chosen origin macNs unixNs miss) (among : Among chosen macNs)
    (positive : 0 ≤ error) (wide : chosen.length * bound ^ 2 ≤ error ^ 2) :
    |(unixNs : ℚ) - line.unixAt macNs| ≤ 1 + error := by
  obtain ⟨left, leftMember, right, rightMember, above, below⟩ := among
  have missed : |miss| ≤ error := abs_le_of_sq_le_sq
    ((off.between left leftMember right rightMember above below).trans wide) positive
  calc |(unixNs : ℚ) - line.unixAt macNs|
      = |((unixNs : ℚ) - line.unixAt macNs - miss) + miss| := by rw [sub_add_cancel]
    _ ≤ |(unixNs : ℚ) - line.unixAt macNs - miss| + |miss| := abs_add_le _ _
    _ ≤ 1 + error := add_le_add off.rounded missed

private theorem converted_of_aggregate
    (aggregated : aggregate run.adjuster entries counted = .ok (some data))
    (valid : run.adjuster.calibration.status.valid = true) :
    (∀ key record, data.flowMap.find? key = some record →
      RecordExact run.adjuster.calibration.convert (group entries key) record) ∧
    ∀ entry ∈ entries,
      run.adjuster.toUnixNanoseconds entry.data.startTime.sec entry.data.startTime.nsec =
          .ok (run.adjuster.calibration.convert (deviceStart entry)) ∧
        run.adjuster.toUnixNanoseconds entry.data.endTime.sec entry.data.endTime.nsec =
          .ok (run.adjuster.calibration.convert (deviceEnd entry)) := by
  obtain ⟨flowMap, flows, pushed⟩ := aggregate_eq_ok aggregated
  obtain ⟨wellTimed, built⟩ := foldlM_eq_ok flows
  constructor
  · have records := (flowsExact_built run.adjuster.calibration.convert entries).records
    split at pushed
    · cases pushed
      rw [← built] at records
      exact records
    · cases pushed
  · intro entry member
    exact ⟨TimeAdjuster.toUnixNanoseconds_of_readable valid (wellTimed entry member).1,
      TimeAdjuster.toUnixNanoseconds_of_readable valid (wellTimed entry member).2⟩

private theorem datesExports_of_near (near : ConvertsNear line bound run) (rises : 0 ≤ line.slope)
    (valid : run.adjuster.calibration.status.valid = true)
    (aggregated : aggregate run.adjuster entries counted = .ok (some data))
    (representable : ∀ entry ∈ entries,
      Representable run.adjuster.calibration.convert entry) :
    DatesExports line bound run entries data := by
  obtain ⟨records, converted⟩ := converted_of_aggregate aggregated valid
  have inGroup : ∀ key, ∀ entry ∈ group entries key, entry ∈ entries :=
    fun key entry member => List.mem_of_mem_filter member
  constructor
  · intro noDrift key record reach found reached
    apply dated_of_near rises (records key record found)
    · intro entry member
      exact representable entry (inGroup key entry member)
    · intro entry member
      obtain ⟨started, ended⟩ := converted entry (inGroup key entry member)
      obtain ⟨startReached, endReached⟩ := reached entry member
      exact ⟨near.offsetOnly noDrift _ _ _ reach started startReached,
        near.offsetOnly noDrift _ _ _ reach ended endReached⟩
  · intro drift
    obtain ⟨chosen, origin, emitted, enough, _, misses⟩ := near.tracking drift
    refine ⟨chosen, emitted, enough, ?_⟩
    intro key record error found positive wide among
    apply dated_of_near rises (records key record found)
    · intro entry member
      exact representable entry (inGroup key entry member)
    · intro entry member
      obtain ⟨started, ended⟩ := converted entry (inGroup key entry member)
      obtain ⟨startAmong, endAmong⟩ := among entry member
      obtain ⟨startMiss, startOff⟩ := misses _ _ _ started
      obtain ⟨endMiss, endOff⟩ := misses _ _ _ ended
      exact ⟨near_of_lineError startOff startAmong positive wide,
        near_of_lineError endOff endAmong positive wide⟩

end Batches

/-! ### The loop and its clock -/

def LoopAction.polls : LoopAction → Option (List PollInput)
  | .tick polls _ _ _ => some polls
  | .fill _ _ => none

/-- The loop of smartNicIoThread, with all the polls its time adjuster made. -/
def timedLoopSystem (std : StdSort) (config : TimeAdjuster.Config) (flows : SmartNicReader)
    (counters : CounterReader) : TransitionSystem (ExportLoop × AdjusterRun) LoopAction where
  initial state := (loopSystem std config flows counters).initial state.1 ∧
    (adjusterRunSystem std config).initial state.2 ∧ state.2.adjuster = state.1.adjuster
  step := (TransitionSystem.composed (loopSystem std config flows counters)
    (adjusterRunSystem std config) some LoopAction.polls).step

section Runs

variable {std : StdSort} {config : TimeAdjuster.Config} {flows : SmartNicReader}
  {counters : CounterReader}

structure Clocked (std : StdSort) (config : TimeAdjuster.Config)
    (state : ExportLoop × AdjusterRun) : Prop where
  reachable : (adjusterRunSystem std config).Reachable state.2
  same : state.2.adjuster = state.1.adjuster

private theorem clocked_step {before after : ExportLoop × AdjusterRun} {action : LoopAction}
    (step : (timedLoopSystem std config flows counters).step before action after)
    (clocked : Clocked std config before) : Clocked std config after := by
  obtain ⟨loopMoves, runMoves⟩ := step
  cases action with
  | tick polls counted reported batch =>
      obtain ⟨entries, _, refreshed, _⟩ := loopMoves
      refine ⟨clocked.reachable.next runMoves, ?_⟩
      rw [runMoves.2, refreshed, ← clocked.same]
      rfl
  | fill flowRecords counterRecords =>
      obtain ⟨_, kept, _⟩ := loopMoves
      change after.2 = before.2 at runMoves
      constructor
      · rw [runMoves]
        exact clocked.reachable
      · rw [runMoves, kept]
        exact clocked.same

theorem clocked_of_reachable {state : ExportLoop × AdjusterRun}
    (reachable : (timedLoopSystem std config flows counters).Reachable state) :
    Clocked std config state := by
  induction reachable with
  | start initial => exact ⟨.start initial.2.1, initial.2.2⟩
  | next _ step ih => exact clocked_step step ih

end Runs

private theorem busyOnce_representable :
    (TimeAdjuster.construct StdSort.insertion {} halfMillisecondPolls).toOption.map
        (fun adjuster => decide (
          (adjuster.refresh []).2.status.driftCalibrated = false ∧
            ∀ record ∈ (flowStore busyOnce.memory.activeBank).records 2 busyOnce.memory,
              (adjuster.refresh []).2.calibration.convert (deviceStart (flowOf record)) ≤
                  int64Max ∧
                int64Min ≤
                  (adjuster.refresh []).2.calibration.convert (deviceEnd (flowOf record)))) =
      some true := by
  decide +kernel

end SflowMiddle.Exporter

/-
A request to stop and the loops that wait for a quiet bank. The thread looks at
`running` between ticks only; inside a tick each reader may wait, and the wait ends
at a zero of the in-use counter and at nothing else. The counters follow a stream of
values, one for each read of them, and the card may answer all other calls as it likes.
-/

import SflowMiddle.Card.Readers

namespace SflowMiddle.Card

open SflowMiddle.Foundation
open Device

def PolledEffect (inUse : Nat → UInt32) (reads : Nat) :
    (call : NfpCall) → call.Reply → Nat → Prop
  | .areaRead area _ length, reply, after =>
      if area.region = .processingMe then
        reply = some (encode 4 (inUse reads).toNat) ∧ after = reads + 1
      else (∃ bytes : List UInt8, reply = some bytes ∧ bytes.length = length) ∧ after = reads
  | _, _, after => after = reads

def polledCard (inUse : Nat → UInt32) : Device Nat NfpCall NfpCall.Reply where
  effect := PolledEffect inUse
  interferes _ _ := False
  safe _ _ := True

/-- Begun after `start` reads of the in-use counters, the call returns after at most `limit`. -/
def LeavesBy {α : Type} (inUse : Nat → UInt32) (program : NfpProgram α) (start limit : Nat) :
    Prop :=
  (polledCard inUse).Ends (fun _ reads => reads ≤ limit) program start

/-- What the loop of `smartNicIoThread` asks of the card between two tests of `running`. -/
def tick (reader : SmartNicReader) (counterReader : CounterReader) :
    NfpProgram (List FlowData × List CounterData) := do
  let flowEntries ← reader.readFlowData
  let counterEntries ← counterReader.readCounterData
  return (flowEntries, counterEntries)

section Calls

variable {inUse : Nat → UInt32} {reads : Nat} {α : Type} {after : α → Nat → Prop}

private theorem polled_advances {result : Nat} {call : NfpCall} {reply : call.Reply}
    (effect : (polledCard inUse).effect reads call reply result) : reads ≤ result := by
  cases call with
  | areaRead area offset length =>
      simp only [polledCard, PolledEffect] at effect
      split at effect
      · exact effect.2 ▸ Nat.le_succ reads
      · exact effect.2 ▸ le_refl reads
  | _ => exact le_of_eq (Eq.symm effect)

/-- A call that does not look at the in-use counters. -/
def NfpCall.Unwatched : NfpCall → Prop
  | .areaRead area _ _ => area.region ≠ .processingMe
  | _ => True

private theorem silent_of_unwatched {result : Nat} {call : NfpCall} (unwatched : call.Unwatched)
    {reply : call.Reply} (effect : (polledCard inUse).effect reads call reply result) :
    result = reads := by
  cases call with
  | areaRead area offset length =>
      simp only [polledCard, PolledEffect] at effect
      rw [if_neg unwatched] at effect
      exact effect.2
  | _ => exact effect

private theorem answered_of_unwatched {call : NfpCall} (unwatched : call.Unwatched) :
    ∃ reply, (polledCard inUse).effect reads call reply reads := by
  cases call with
  | areaRead area offset length =>
      refine ⟨some (List.replicate length 0), ?_⟩
      simp only [polledCard, PolledEffect]
      rw [if_neg unwatched]
      exact ⟨⟨_, rfl, List.length_replicate⟩, trivial⟩
  | areaAlloc region size => exact ⟨none, rfl⟩
  | areaAcquire area => exact ⟨false, rfl⟩
  | areaWrite area offset bytes => exact ⟨false, rfl⟩
  | areaFill area offset value length => exact ⟨false, rfl⟩
  | areaFree area => exact ⟨(), rfl⟩
  | areaReleaseFree area => exact ⟨(), rfl⟩

private theorem call_ends {call : NfpCall} {next : call.Reply → NfpProgram α}
    (unwatched : call.Unwatched)
    (ends : ∀ reply, (polledCard inUse).Ends after (next reply) reads) :
    (polledCard inUse).Ends after (.call call next) reads := by
  obtain ⟨reply, effect⟩ := @answered_of_unwatched inUse reads call unwatched
  refine Ends.call ⟨reply, reads, effect⟩ ?_
  intro reply result effect
  rw [silent_of_unwatched unwatched effect]
  exact ends reply

private theorem openArea_ends {region : Region} {size : Nat} {next : Option Area → NfpProgram α}
    (failed : (polledCard inUse).Ends after (next none) reads)
    (opened : ∀ handle, (polledCard inUse).Ends after (next (some ⟨region, size, handle⟩)) reads) :
    (polledCard inUse).Ends after (openArea region size >>= next) reads := by
  refine call_ends trivial ?_
  intro handle
  cases handle with
  | none => exact failed
  | some handle =>
      refine call_ends trivial ?_
      intro acquired
      cases acquired with
      | false => exact call_ends trivial fun _ => failed
      | true => exact opened handle

private theorem ends_call {call : NfpCall} {reply : call.Reply} {next : call.Reply → NfpProgram α}
    (effect : (polledCard inUse).effect reads call reply reads)
    (ends : (polledCard inUse).Ends after (.call call next) reads) :
    (polledCard inUse).Ends after (next reply) reads :=
  ends.continues (.call reply) effect

private theorem ends_openArea {region : Region} {size : Nat} {next : Option Area → NfpProgram α}
    (ends : (polledCard inUse).Ends after (openArea region size >>= next) reads) :
    (polledCard inUse).Ends after (next (some ⟨region, size, 0⟩)) reads := by
  have granted := @ends_call _ _ _ _ (.areaAlloc region size) (some 0) _ rfl ends
  exact @ends_call _ _ _ _ (.areaAcquire ⟨region, size, 0⟩) true _ rfl granted

private theorem stateRead : (polledCard inUse).effect reads (.areaRead ⟨.curState, 4, 0⟩ 0 4)
    (some [0, 0, 0, 0]) reads := by
  simp [polledCard, PolledEffect]

end Calls

/-! ### The wait -/

section Wait

variable {inUse : Nat → UInt32} {reads : Nat} {α : Type} {after : α → Nat → Prop}
  {bank : Bank} {handle : Nat} {next : Option (List UInt8) → NfpProgram α}

def pollCall (handle : Nat) (bank : Bank) : NfpCall :=
  .areaRead ⟨.processingMe, 8, handle⟩ (4 * bank.val) 4

private theorem pollCall_effect (reply : Option (List UInt8)) (result : Nat) :
    (polledCard inUse).effect reads (pollCall handle bank) reply result ↔
      reply = some (encode 4 (inUse reads).toNat) ∧ result = reads + 1 := by
  simp [polledCard, PolledEffect, pollCall]

private theorem stillInUse_encode (value : UInt32) :
    stillInUse (some (encode 4 value.toNat)) = decide (value ≠ 0) := by
  have bound : value.toNat < 256 ^ 4 := by
    norm_num
    exact value.toNat_lt
  simp [stillInUse, decode_encode bound, ← UInt32.toNat_inj]

private theorem poll_ends {last : Nat} (zero : inUse last = 0) (before : reads ≤ last)
    (ends : ∀ reply result, result ≤ last + 1 →
      (polledCard inUse).Ends after (next reply) result) :
    (polledCard inUse).Ends after (.poll (pollCall handle bank) stillInUse next) reads := by
  induction ahead : last - reads using Nat.strong_induction_on generalizing reads with
  | _ ahead ih =>
      subst ahead
      refine Ends.poll ⟨_, _, (pollCall_effect _ _).mpr ⟨rfl, rfl⟩⟩ ?_
      intro reply result effect
      obtain ⟨rfl, rfl⟩ := (pollCall_effect reply result).mp effect
      unfold afterPoll
      rw [stillInUse_encode]
      split
      · rename_i busy
        have different : reads ≠ last := by
          rintro rfl
          exact of_decide_eq_true busy zero
        exact ih (last - (reads + 1)) (by omega) (by omega) rfl
      · exact ends _ _ (by omega)

private theorem zero_of_poll_ends
    (ends : (polledCard inUse).Ends after (.poll (pollCall handle bank) stillInUse next) reads) :
    ∃ last, reads ≤ last ∧ inUse last = 0 ∧
      (polledCard inUse).Ends after (next (some (encode 4 0))) (last + 1) := by
  generalize polling :
    (.poll (pollCall handle bank) stillInUse next : NfpProgram α) = program at ends
  induction ends with
  | done returned => cases polling
  | @step program reads answered ends ih =>
      subst polling
      have continues := @continues_poll _ NfpCall.Reply _ (pollCall handle bank) stillInUse next
        (some (encode 4 (inUse reads).toNat))
      have effect := (@pollCall_effect inUse reads bank handle _ _).mpr ⟨rfl, rfl⟩
      have ended := ends _ _ _ _ continues effect
      have later := ih _ _ _ _ continues effect
      unfold afterPoll at ended later
      rw [stillInUse_encode] at ended later
      by_cases zero : inUse reads = 0
      · rw [if_neg (by simp [zero]), zero] at ended
        exact ⟨reads, le_refl reads, zero, ended⟩
      · rw [if_pos (by simp [zero])] at later
        obtain ⟨last, order, found, rest⟩ := later rfl
        exact ⟨last, by omega, found, rest⟩

private theorem awaitQuiescence_ends {next : Bool → NfpProgram α} {last : Nat}
    (zero : inUse last = 0)
    (before : reads ≤ last)
    (ends : ∀ quiet result, result ≤ last + 1 →
      (polledCard inUse).Ends after (next quiet) result) :
    (polledCard inUse).Ends after (awaitQuiescence bank >>= next) reads := by
  unfold awaitQuiescence
  rw [Program.bind_assoc]
  refine openArea_ends (ends false reads (by omega)) ?_
  intro handle
  refine @poll_ends inUse reads _ _ bank handle _ last zero before ?_
  intro reply result bound
  exact call_ends trivial fun _ => ends reply.isSome result bound

private theorem zero_of_awaitQuiescence_ends {next : Bool → NfpProgram α}
    (ends : (polledCard inUse).Ends after (awaitQuiescence bank >>= next) reads) :
    ∃ last, reads ≤ last ∧ inUse last = 0 ∧
      (polledCard inUse).Ends after (next true) (last + 1) := by
  unfold awaitQuiescence at ends
  rw [Program.bind_assoc] at ends
  obtain ⟨last, order, zero, left⟩ :=
    @zero_of_poll_ends inUse reads _ _ bank 0 _ (ends_openArea ends)
  exact ⟨last, order, zero, @ends_call _ _ _ _ (.areaReleaseFree _) () _ rfl left⟩

/-- With every area granted the program waits once, and all of it waits for is a zero. -/
structure WaitsOnce {β : Type} (inUse : Nat → UInt32) (program : NfpProgram β) : Prop where
  ends : ∀ {reads last : Nat}, inUse last = 0 → reads ≤ last →
    (polledCard inUse).Ends (fun _ result => result ≤ last + 1) program reads
  waits : ∀ {γ : Type} {after : γ → Nat → Prop} {next : β → NfpProgram γ} {reads : Nat},
    (polledCard inUse).Ends after (program >>= next) reads →
      ∃ last value result, reads ≤ last ∧ inUse last = 0 ∧ last < result ∧
        (polledCard inUse).Ends after (next value) result

private theorem waitsOnce_quiescent {β : Type} {drain : NfpProgram (List β)}
    (silent : ∀ reads, (polledCard inUse).Ends (fun _ result => result = reads) drain reads) :
    WaitsOnce inUse
      (awaitQuiescence bank >>= fun quiet => if quiet then drain else pure []) where
  ends := by
    intro reads last zero before
    refine awaitQuiescence_ends zero before ?_
    intro quiet result bound
    cases quiet with
    | false => exact .done bound
    | true => exact (silent result).weaken fun _ _ same => by omega
  waits := by
    intro γ after next reads ends
    rw [Program.bind_assoc] at ends
    obtain ⟨last, order, zero, quiet⟩ := zero_of_awaitQuiescence_ends ends
    obtain ⟨value, result, later, left⟩ := Ends.reaches_rest polled_advances quiet
    exact ⟨last, value, result, order, zero, later, left⟩

end Wait

/-! ### The flow reader -/

section FlowReader

variable {inUse : Nat → UInt32} {reads : Nat} {α : Type} {after : α → Nat → Prop}
  {keyArea dataArea : Area} {reader : SmartNicReader}

private theorem flowCollect_ends {next : List FlowData → NfpProgram α}
    (keys : keyArea.region ≠ .processingMe) (data : dataArea.region ≠ .processingMe)
    (ends : ∀ result, (polledCard inUse).Ends after (next result) reads) (slots : List Nat)
    (result : List FlowData) :
    (polledCard inUse).Ends after (SmartNicReader.collect keyArea dataArea slots result >>= next)
      reads := by
  induction slots generalizing result with
  | nil => exact ends result
  | cons slot slots ih =>
      refine call_ends keys ?_
      intro key
      cases key with
      | none => exact ih result
      | some key =>
          refine call_ends data ?_
          intro data
          cases data with
          | none => exact ih result
          | some data => exact ih _

private theorem flowDrain_ends (reader : SmartNicReader) (bank : Bank) :
    (polledCard inUse).Ends (fun _ result => result = reads) (reader.drain bank) reads := by
  have nothing : (polledCard inUse).Ends (fun _ result => result = reads)
      (pure [] : NfpProgram (List FlowData)) reads := .done rfl
  refine openArea_ends nothing ?_
  intro semArea
  refine call_ends nofun ?_
  intro semaphores
  cases semaphores with
  | none => exact call_ends trivial fun _ => nothing
  | some semaphores =>
      refine openArea_ends (call_ends trivial fun _ => nothing) ?_
      intro keyArea
      refine openArea_ends
        (call_ends trivial fun _ => call_ends trivial fun _ => nothing) ?_
      intro dataArea
      have keys : Region.flowKey bank ≠ .processingMe := nofun
      have data : Region.flowData bank ≠ .processingMe := nofun
      refine flowCollect_ends keys data ?_ _ []
      intro result
      refine call_ends trivial fun _ => ?_
      refine call_ends trivial fun _ => ?_
      refine call_ends trivial fun _ => ?_
      refine call_ends trivial fun _ => ?_
      refine call_ends trivial fun _ => ?_
      exact call_ends trivial fun _ => .done rfl

private theorem readFlowData_waitsOnce (present : reader.cpp = true)
    (slots : 0 < reader.slotCount) :
    WaitsOnce inUse reader.readFlowData where
  ends := by
    intro reads last zero before
    have nothing : (polledCard inUse).Ends (fun _ result => result ≤ last + 1)
        (pure [] : NfpProgram (List FlowData)) reads := .done (by omega)
    unfold SmartNicReader.readFlowData
    split
    · exact nothing
    · refine openArea_ends nothing ?_
      intro staArea
      refine call_ends nofun ?_
      intro staValue
      cases staValue with
      | none => exact call_ends trivial fun _ => nothing
      | some staValue =>
          refine call_ends trivial ?_
          intro written
          refine call_ends trivial fun _ => ?_
          cases written with
          | false => exact nothing
          | true =>
              exact (waitsOnce_quiescent fun _ => flowDrain_ends reader _).ends zero before
  waits := by
    intro γ after next reads ends
    have serves : ¬(reader.cpp = false ∨ reader.slotCount = 0) := by
      simp [present, slots.ne']
    unfold SmartNicReader.readFlowData at ends
    rw [if_neg serves, Program.bind_assoc] at ends
    have opened := ends_openArea ends
    have read := @ends_call inUse reads _ _ (.areaRead ⟨.curState, 4, 0⟩ 0 4) _ _ stateRead opened
    have written := @ends_call inUse reads _ _ (.areaWrite ⟨.curState, 4, 0⟩ 0 _) true _ rfl read
    have released := @ends_call inUse reads _ _ (.areaReleaseFree _) () _ rfl written
    exact (waitsOnce_quiescent fun _ => flowDrain_ends reader _).waits released

end FlowReader

/-! ### The counter reader -/

section CounterReader

variable {inUse : Nat → UInt32} {reads : Nat} {α : Type} {after : α → Nat → Prop}
  {dataArea : Area} {reader : CounterReader}

private theorem counterCollect_ends {next : List CounterData → NfpProgram α}
    (data : dataArea.region ≠ .processingMe)
    (ends : ∀ result, (polledCard inUse).Ends after (next result) reads) (slots : List Nat)
    (result : List CounterData) :
    (polledCard inUse).Ends after (CounterReader.collect dataArea slots result >>= next) reads := by
  induction slots generalizing result with
  | nil => exact ends result
  | cons slot slots ih =>
      refine call_ends data ?_
      intro data
      cases data with
      | none => exact ih result
      | some data => exact ih _

private theorem counterDrain_ends (reader : CounterReader) (bank : Bank) :
    (polledCard inUse).Ends (fun _ result => result = reads) (reader.drain bank) reads := by
  have nothing : (polledCard inUse).Ends (fun _ result => result = reads)
      (pure [] : NfpProgram (List CounterData)) reads := .done rfl
  refine openArea_ends nothing ?_
  intro semArea
  refine call_ends nofun ?_
  intro semaphores
  cases semaphores with
  | none => exact call_ends trivial fun _ => nothing
  | some semaphores =>
      refine openArea_ends (call_ends trivial fun _ => nothing) ?_
      intro dataArea
      have data : Region.counterData bank ≠ .processingMe := nofun
      refine counterCollect_ends data ?_ _ []
      intro result
      refine call_ends trivial fun _ => ?_
      refine call_ends trivial fun _ => ?_
      refine call_ends trivial fun _ => ?_
      exact call_ends trivial fun _ => .done rfl

private theorem readCounterData_waitsOnce (present : reader.cpp = true)
    (slots : 0 < reader.slotCount) :
    WaitsOnce inUse reader.readCounterData where
  ends := by
    intro reads last zero before
    have nothing : (polledCard inUse).Ends (fun _ result => result ≤ last + 1)
        (pure [] : NfpProgram (List CounterData)) reads := .done (by omega)
    unfold CounterReader.readCounterData
    split
    · exact nothing
    · refine openArea_ends nothing ?_
      intro staArea
      refine call_ends nofun ?_
      intro staValue
      refine call_ends trivial fun _ => ?_
      cases staValue with
      | none => exact nothing
      | some staBytes =>
          exact (waitsOnce_quiescent fun _ => counterDrain_ends reader _).ends zero before
  waits := by
    intro γ after next reads ends
    have serves : ¬(reader.cpp = false ∨ reader.slotCount = 0) := by
      simp [present, slots.ne']
    unfold CounterReader.readCounterData at ends
    rw [if_neg serves, Program.bind_assoc] at ends
    have opened := ends_openArea ends
    have read := @ends_call inUse reads _ _ (.areaRead ⟨.curState, 4, 0⟩ 0 4) _ _ stateRead opened
    have released := @ends_call inUse reads _ _ (.areaReleaseFree _) () _ rfl read
    exact (waitsOnce_quiescent fun _ => counterDrain_ends reader _).waits released

end CounterReader

/-! ### A request during a tick -/

section Tick

variable {inUse : Nat → UInt32} {start limit : Nat}

private theorem WaitsOnce.leaves_iff {β : Type} {program : NfpProgram β}
    (once : WaitsOnce inUse program) :
    LeavesBy inUse program start limit ↔
      ∃ last, start ≤ last ∧ last < limit ∧ inUse last = 0 := by
  constructor
  · intro leaves
    unfold LeavesBy at leaves
    rw [← Program.bind_pure program] at leaves
    obtain ⟨last, value, result, order, zero, later, left⟩ := once.waits leaves
    have bound : result ≤ limit := left.returned
    exact ⟨last, order, by omega, zero⟩
  · rintro ⟨last, order, bound, zero⟩
    exact (once.ends zero order).weaken fun _ _ early => by omega

variable {reader : SmartNicReader} {counterReader : CounterReader}

private theorem tick_leaves_iff (flows : WaitsOnce inUse reader.readFlowData)
    (counters : WaitsOnce inUse counterReader.readCounterData) :
    LeavesBy inUse (tick reader counterReader) start limit ↔
      ∃ first second, start ≤ first ∧ first < second ∧ second < limit ∧ inUse first = 0 ∧
        inUse second = 0 := by
  constructor
  · intro leaves
    obtain ⟨first, _, middle, order, firstZero, later, rest⟩ := flows.waits leaves
    obtain ⟨second, _, result, between, secondZero, last, left⟩ := counters.waits rest
    have bound : result ≤ limit := left.returned
    exact ⟨first, second, order, by omega, by omega, firstZero, secondZero⟩
  · rintro ⟨first, second, order, between, bound, firstZero, secondZero⟩
    refine Ends.bind ((flows.ends firstZero order).weaken ?_)
    intro flowEntries middle early
    refine Ends.bind ((counters.ends secondZero (by omega)).weaken ?_)
    intro counterEntries result inTime
    exact .done (by omega)

/-- A request that comes after `stop` reads, during a call or a tick begun after `start` of
them, is honoured within `bound` more reads exactly if the card says zero in time. -/
theorem stop_honoured_iff (present : reader.cpp = true) (slots : 0 < reader.slotCount)
    (counterPresent : counterReader.cpp = true) (counterSlots : 0 < counterReader.slotCount)
    (inUse : Nat → UInt32) (start stop bound : Nat) :
    (LeavesBy inUse reader.readFlowData start (stop + bound) ↔
        ∃ last, start ≤ last ∧ last < stop + bound ∧ inUse last = 0) ∧
      (LeavesBy inUse counterReader.readCounterData start (stop + bound) ↔
        ∃ last, start ≤ last ∧ last < stop + bound ∧ inUse last = 0) ∧
      (LeavesBy inUse (tick reader counterReader) start (stop + bound) ↔
        ∃ first second, start ≤ first ∧ first < second ∧ second < stop + bound ∧
          inUse first = 0 ∧ inUse second = 0) :=
  have flows := readFlowData_waitsOnce present slots
  have counters := readCounterData_waitsOnce counterPresent counterSlots
  ⟨flows.leaves_iff, counters.leaves_iff, tick_leaves_iff flows counters⟩

theorem stop_honoured_in_time :
    LeavesBy (fun read => if read < 3 then 1 else 0)
      (tick { slotCount := 20000 } { slotCount := 2048 }) 0 (2 + 3) :=
  (stop_honoured_iff rfl (by decide) rfl (by decide) _ 0 2 3).2.2.mpr
    ⟨3, 4, by decide, by decide, by decide, rfl, rfl⟩

/-- A context that never leaves: asked to stop before the first read, neither reader nor the
tick is ever done. -/
theorem stop_never_honoured :
    (¬∃ bound, LeavesBy (fun _ => 1) ({ slotCount := 20000 } : SmartNicReader).readFlowData
        0 (0 + bound)) ∧
      (¬∃ bound, LeavesBy (fun _ => 1) ({ slotCount := 2048 } : CounterReader).readCounterData
        0 (0 + bound)) ∧
      ¬∃ bound, LeavesBy (fun _ => 1) (tick { slotCount := 20000 } { slotCount := 2048 })
        0 (0 + bound) := by
  have flows := @readFlowData_waitsOnce (fun _ => 1) { slotCount := 20000 } rfl (by decide)
  have counters := @readCounterData_waitsOnce (fun _ => 1) { slotCount := 2048 } rfl (by decide)
  refine ⟨?_, ?_, ?_⟩
  · rintro ⟨bound, leaves⟩
    obtain ⟨_, _, _, zero⟩ := flows.leaves_iff.mp leaves
    cases zero
  · rintro ⟨bound, leaves⟩
    obtain ⟨_, _, _, zero⟩ := counters.leaves_iff.mp leaves
    cases zero
  · rintro ⟨bound, leaves⟩
    obtain ⟨_, _, _, _, _, zero, _⟩ := (tick_leaves_iff flows counters).mp leaves
    cases zero

end Tick

end SflowMiddle.Card

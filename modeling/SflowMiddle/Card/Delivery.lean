/-
One call of a reader on its own, with any pattern of failing calls. A ready record
is delivered if its reads succeeded and kept if no fill touched it; a slot that is
skipped on a read error is wiped with the rest of the bank all the same. The state
remembers which reads came back in full and which fills took effect.
-/

import SflowMiddle.Card.Outline
import SflowMiddle.Card.Slots

namespace SflowMiddle.Card

open SflowMiddle.Foundation
open Device

structure CallState where
  memory : Memory
  cleared : List Region := []
  fetched : List (Region × Nat) := []

/-- The contexts still inside move the in-use counters, so those may read as anything. -/
def CallEffect (before : CallState) : (call : NfpCall) → call.Reply → CallState → Prop
  | .areaRead area offset length, reply, after =>
      (reply = none ∧ after = before) ∨
        ∃ bytes, reply = some bytes ∧
          (area.region = .processingMe ∨ bytes = before.memory.read area.region offset length) ∧
          after = { before with fetched := (area.region, offset) :: before.fetched }
  | .areaWrite area offset bytes, reply, after =>
      after = { before with memory := before.memory.write area.region offset bytes } ∨
        (reply = false ∧ after = before)
  | .areaFill area offset value length, reply, after =>
      after =
          { before with
            memory := before.memory.fill area.region offset value length
            cleared := area.region :: before.cleared } ∨
        (reply = false ∧ after = before)
  | _, _, after => after = before

def isolatedCard : CardDevice CallState where
  device :=
    { effect := CallEffect
      interferes := fun _ _ => False
      safe := fun _ _ => True }
  housekeeping_silent := by
    intro before call reply after housekeeping effect
    cases call with
    | areaRead | areaWrite | areaFill => cases housekeeping
    | _ => exact effect
  housekeeping_safe := fun _ _ => trivial

theorem isolated_holding (point : CallState → Prop) : isolatedCard.device.Holding point where
  stable := fun _ _ impossible _ => impossible.elim
  safe := fun _ _ => trivial

theorem isolated_moves {before : CallState → Prop} {call : NfpCall}
    {after : call.Reply → CallState → Prop}
    (moves : ∀ reply state result, before state → CallEffect state call reply result →
      after reply result) : isolatedCard.device.Moves before call after where
  safe := fun _ _ => trivial
  moves := moves

/-! ### Delivered or kept -/

section Call

variable (store : Store) (memory : Memory) (slotCount : Nat)

/-- Every ready slot of the bank left the card with exactly its bytes, or is still ready
with its bytes unchanged. -/
def Delivered (carried : List Carried) (after : Memory) : Prop :=
  ∀ slot < slotCount, store.Ready memory slot →
    (∃ item ∈ carried, item.index = .ofNat slot ∧ item.record = store.record memory slot) ∨
      (store.Ready after slot ∧ store.record after slot = store.record memory slot)

/-- All records of the slot came back in full. -/
def Fetched (state : CallState) (slot : Nat) : Prop :=
  ∀ region ∈ store.payload, (region, slot * recordSize) ∈ state.fetched

/-- For every ready slot its records came back (or those of a slot that the 32-bit index
does not tell apart and that holds the same bytes), or no fill destroyed it: the one of the
semaphores had no effect, and those of the records none or nothing to erase. -/
def CallSpares (state : CallState) : Prop :=
  ∀ slot < slotCount, store.Ready memory slot →
    (∃ twin < slotCount, store.Ready memory twin ∧ UInt32.ofNat twin = UInt32.ofNat slot ∧
        store.record memory twin = store.record memory slot ∧ Fetched store state twin) ∨
      (store.semaphores ∉ state.cleared ∧
        ∀ region ∈ store.payload, region ∈ state.cleared →
          memory.read region (slot * recordSize) recordSize = List.replicate recordSize 0)

structure Untouched (state : CallState) : Prop where
  same : ∀ region ∈ store.regions, ∀ position,
    state.memory region position = memory region position
  uncleared : ∀ region ∈ store.regions, region ∉ state.cleared
  unfetched : ∀ region ∈ store.payload, ∀ offset, (region, offset) ∉ state.fetched

structure Settled (carried : List Carried) (state : CallState) : Prop where
  sound : ∀ item ∈ carried, ∃ slot < slotCount, store.Ready memory slot ∧
    item = ⟨.ofNat slot, store.record memory slot⟩ ∧ Fetched store state slot
  complete : ∀ slot < slotCount, store.Ready memory slot → Fetched store state slot →
    ⟨.ofNat slot, store.record memory slot⟩ ∈ carried
  regions : ∀ region ∈ store.regions,
    (region ∉ state.cleared ∧ ∀ position, state.memory region position = memory region position) ∨
      (region ∈ state.cleared ∧ ∀ offset length, offset + length ≤ slotCount * region.entrySize →
        state.memory.read region offset length = List.replicate length 0)

structure Collecting (last : Region) (slots : List Nat) (carried : List Carried)
    (state : CallState) : Prop where
  settled : Settled store memory slotCount carried state
  uncleared : ∀ region ∈ store.regions, region ∉ state.cleared
  ready : ∀ slot ∈ slots, slot < slotCount ∧ store.Ready memory slot
  distinct : slots.Nodup
  unread : ∀ slot ∈ slots, (last, slot * recordSize) ∉ state.fetched

variable {store memory slotCount}

private theorem Untouched.fetch {state : CallState} (untouched : Untouched store memory state)
    {region : Region} (outside : region ∉ store.payload) (offset : Nat) :
    Untouched store memory { state with fetched := (region, offset) :: state.fetched } := by
  refine ⟨untouched.same, untouched.uncleared, ?_⟩
  intro other member position inside
  rcases List.mem_cons.mp inside with same | earlier
  · cases same
    exact outside member
  · exact untouched.unfetched other member position earlier

theorem Untouched.settled {state : CallState} (untouched : Untouched store memory state)
    (nonempty : store.payload ≠ []) : Settled store memory slotCount [] state where
  sound := by simp
  complete := by
    intro slot _ _ fetched
    obtain ⟨region, member⟩ := List.exists_mem_of_ne_nil _ nonempty
    exact absurd (fetched region member) (untouched.unfetched region member _)
  regions := fun region member =>
    Or.inl ⟨untouched.uncleared region member, untouched.same region member⟩

private theorem Fetched.of_cons {state : CallState} {region : Region} {slot other : Nat}
    (different : other ≠ slot)
    (fetched : Fetched store
      { state with fetched := (region, slot * recordSize) :: state.fetched } other) :
    Fetched store state other := by
  intro payload member
  rcases List.mem_cons.mp (fetched payload member) with same | earlier
  · have offsets : other * recordSize = slot * recordSize := congrArg Prod.snd same
    unfold recordSize at offsets
    omega
  · exact earlier

private theorem Fetched.cons {state : CallState} {slot : Nat} (fetched : Fetched store state slot)
    (entry : Region × Nat) :
    Fetched store { state with fetched := entry :: state.fetched } slot :=
  fun region member => List.mem_cons_of_mem entry (fetched region member)

private theorem Settled.fetch_part {carried : List Carried} {state : CallState}
    (settled : Settled store memory slotCount carried state) {region : Region} {slot : Nat}
    (incomplete : ¬ Fetched store
      { state with fetched := (region, slot * recordSize) :: state.fetched } slot) :
    Settled store memory slotCount carried
      { state with fetched := (region, slot * recordSize) :: state.fetched } where
  sound := by
    intro item member
    obtain ⟨origin, bound, ready, same, fetched⟩ := settled.sound item member
    exact ⟨origin, bound, ready, same, fetched.cons _⟩
  complete := by
    intro other bound ready fetched
    by_cases same : other = slot
    · rw [same] at fetched
      exact absurd fetched incomplete
    · exact settled.complete other bound ready (fetched.of_cons same)
  regions := settled.regions

private theorem Settled.fetch_last {carried : List Carried} {state : CallState}
    (settled : Settled store memory slotCount carried state) {region : Region} {slot : Nat}
    (bound : slot < slotCount) (ready : store.Ready memory slot)
    (fetched : Fetched store
      { state with fetched := (region, slot * recordSize) :: state.fetched } slot) :
    Settled store memory slotCount
      (carried ++ [⟨.ofNat slot, store.record memory slot⟩])
      { state with fetched := (region, slot * recordSize) :: state.fetched } where
  sound := by
    intro item member
    rcases List.mem_append.mp member with earlier | appended
    · obtain ⟨origin, originBound, originReady, same, originFetched⟩ :=
        settled.sound item earlier
      exact ⟨origin, originBound, originReady, same, originFetched.cons _⟩
    · exact ⟨slot, bound, ready, List.mem_singleton.mp appended, fetched⟩
  complete := by
    intro other otherBound otherReady otherFetched
    by_cases same : other = slot
    · rw [same]
      exact List.mem_append_right _ (List.mem_singleton_self _)
    · exact List.mem_append_left _
        (settled.complete other otherBound otherReady (otherFetched.of_cons same))
  regions := settled.regions

theorem Settled.fill {carried : List Carried} {state result : CallState}
    (settled : Settled store memory slotCount carried state) {area : Area} {reply : Bool}
    (effect : CallEffect state
      (.areaFill area 0 0 (slotCount * area.region.entrySize)) reply result) :
    Settled store memory slotCount carried result := by
  rcases effect with rfl | ⟨_, rfl⟩
  · refine ⟨settled.sound, settled.complete, ?_⟩
    intro region member
    by_cases same : region = area.region
    · refine Or.inr ⟨by rw [same]; exact List.mem_cons_self, ?_⟩
      intro offset length within
      rw [same] at within ⊢
      exact Memory.read_fill_zero state.memory area.region within
    · rcases settled.regions region member with ⟨uncleared, unchanged⟩ | ⟨cleared, zero⟩
      · refine Or.inl ⟨?_, ?_⟩
        · intro inside
          rcases List.mem_cons.mp inside with equal | earlier
          · exact same equal
          · exact uncleared earlier
        · intro position
          exact (Memory.write_of_ne same 0 _ position).trans (unchanged position)
      · refine Or.inr ⟨List.mem_cons_of_mem _ cleared, ?_⟩
        intro offset length within
        exact (Memory.read_fill_of_ne same 0 0 _ offset length).trans (zero offset length within)
  · exact settled

theorem Settled.delivered_iff (wellFormed : store.WellFormed) {carried : List Carried}
    {state : CallState} (settled : Settled store memory slotCount carried state) :
    Delivered store memory slotCount carried state.memory ↔
      CallSpares store memory slotCount state := by
  have inside : ∀ {slot}, slot < slotCount → slot * recordSize + recordSize ≤
      slotCount * recordSize := by
    intro slot bound
    have next := Nat.mul_le_mul_right recordSize (Nat.succ_le_of_lt bound)
    rw [Nat.succ_mul] at next
    exact next
  constructor
  · intro delivered slot bound ready
    rcases delivered slot bound ready with ⟨item, member, index, record⟩ | ⟨still, unchanged⟩
    · obtain ⟨twin, twinBound, twinReady, same, fetched⟩ := settled.sound item member
      rw [same] at index record
      exact Or.inl ⟨twin, twinBound, twinReady, index, record, fetched⟩
    · refine Or.inr ⟨?_, ?_⟩
      · intro cleared
        rcases settled.regions _ List.mem_cons_self with ⟨uncleared, _⟩ | ⟨_, zero⟩
        · exact uncleared cleared
        · have word := word_zero_of_read
            (zero (4 * slot) 4 (by rw [wellFormed.semaphoreSize]; omega))
          unfold Store.Ready at still
          rw [word] at still
          cases still
      · intro region member cleared
        have within := List.mem_cons_of_mem store.semaphores member
        rcases settled.regions region within with ⟨uncleared, _⟩ | ⟨_, zero⟩
        · exact absurd cleared uncleared
        · rw [← Store.read_of_record_eq unchanged region member]
          exact zero _ _ (by rw [wellFormed.recordSizes region member]; exact inside bound)
  · intro spares slot bound ready
    rcases spares slot bound ready with ⟨twin, twinBound, twinReady, index, record, fetched⟩ |
      ⟨uncleared, harmless⟩
    · exact Or.inl ⟨_, settled.complete twin twinBound twinReady fetched, index, record⟩
    · refine Or.inr ⟨?_, ?_⟩
      · rcases settled.regions _ List.mem_cons_self with ⟨_, unchanged⟩ | ⟨cleared, _⟩
        · unfold Store.Ready
          rw [Memory.word_congr unchanged]
          exact ready
        · exact absurd cleared uncleared
      · apply Store.record_congr
        intro region member
        have within := List.mem_cons_of_mem store.semaphores member
        rcases settled.regions region within with ⟨_, unchanged⟩ | ⟨cleared, zero⟩
        · exact Memory.read_congr fun position _ _ => unchanged position
        · rw [harmless region member cleared]
          exact zero _ _ (by rw [wellFormed.recordSizes region member]; exact inside bound)

/-! ### Steps both readers take -/

theorem Untouched.read {state result : CallState} (untouched : Untouched store memory state)
    {area : Area} (outside : area.region ∉ store.payload) {offset length : Nat}
    {reply : Option (List UInt8)}
    (effect : CallEffect state (.areaRead area offset length) reply result) :
    Untouched store memory result := by
  rcases effect with ⟨_, rfl⟩ | ⟨bytes, _, _, rfl⟩
  · exact untouched
  · exact untouched.fetch outside offset

theorem Untouched.write {state result : CallState} (untouched : Untouched store memory state)
    {area : Area} (outside : area.region ∉ store.regions) {offset : Nat} {bytes : List UInt8}
    {reply : Bool} (effect : CallEffect state (.areaWrite area offset bytes) reply result) :
    Untouched store memory result := by
  rcases effect with rfl | ⟨_, rfl⟩
  · refine ⟨?_, untouched.uncleared, untouched.unfetched⟩
    intro region member position
    have different : region ≠ area.region := fun same => outside (same ▸ member)
    exact (Memory.write_of_ne different offset bytes position).trans
      (untouched.same region member position)
  · exact untouched

private theorem Untouched.collecting (wellFormed : store.WellFormed) {state : CallState}
    (untouched : Untouched store memory state) {last : Region} (lastMember : last ∈ store.payload) :
    Collecting store memory slotCount last
      (haveData slotCount (memory.read store.semaphores 0 (slotCount * 4))) [] state where
  settled := untouched.settled wellFormed.nonempty
  uncleared := untouched.uncleared
  ready := fun slot member => (mem_haveData memory store.semaphores slotCount slot).mp member
  distinct := nodup_haveData _ _
  unread := fun _ _ => untouched.unfetched last lastMember _

theorem Collecting.skip {last : Region} {slot : Nat} {slots : List Nat} {carried : List Carried}
    {state : CallState}
    (collecting : Collecting store memory slotCount last (slot :: slots) carried state) :
    Collecting store memory slotCount last slots carried state where
  settled := collecting.settled
  uncleared := collecting.uncleared
  ready := fun other member => collecting.ready other (List.mem_cons_of_mem slot member)
  distinct := (List.nodup_cons.mp collecting.distinct).2
  unread := fun other member => collecting.unread other (List.mem_cons_of_mem slot member)

theorem Collecting.fetch_part {last region : Region} {slot : Nat} {slots : List Nat}
    {carried : List Carried} {state : CallState}
    (collecting : Collecting store memory slotCount last (slot :: slots) carried state)
    (lastMember : last ∈ store.payload) (different : last ≠ region) :
    Collecting store memory slotCount last (slot :: slots) carried
      { state with fetched := (region, slot * recordSize) :: state.fetched } := by
  have unread : ∀ other ∈ slot :: slots, (last, other * recordSize) ∉
      (region, slot * recordSize) :: state.fetched := by
    intro other member inside
    rcases List.mem_cons.mp inside with same | earlier
    · exact different (congrArg Prod.fst same)
    · exact collecting.unread other member earlier
  refine ⟨collecting.settled.fetch_part ?_, collecting.uncleared, collecting.ready,
    collecting.distinct, unread⟩
  intro fetched
  exact unread slot List.mem_cons_self (fetched last lastMember)

private theorem Collecting.fetch_last {last : Region} {slot : Nat} {slots : List Nat}
    {carried : List Carried} {state : CallState}
    (collecting : Collecting store memory slotCount last (slot :: slots) carried state)
    (others : ∀ region ∈ store.payload, region = last ∨
      (region, slot * recordSize) ∈ state.fetched) :
    Collecting store memory slotCount last slots
      (carried ++ [⟨.ofNat slot, store.record memory slot⟩])
      { state with fetched := (last, slot * recordSize) :: state.fetched } := by
  obtain ⟨bound, ready⟩ := collecting.ready slot List.mem_cons_self
  obtain ⟨fresh, distinct⟩ := List.nodup_cons.mp collecting.distinct
  refine ⟨collecting.settled.fetch_last bound ready ?_, collecting.uncleared, ?_, distinct, ?_⟩
  · intro region member
    rcases others region member with same | earlier
    · rw [same]
      exact List.mem_cons_self
    · exact List.mem_cons_of_mem _ earlier
  · exact fun other member => collecting.ready other (List.mem_cons_of_mem slot member)
  · intro other member inside
    rcases List.mem_cons.mp inside with same | earlier
    · have offsets : other * recordSize = slot * recordSize := congrArg Prod.snd same
      have equal : other = slot := by
        unfold recordSize at offsets
        omega
      exact fresh (equal ▸ member)
    · exact collecting.unread other (List.mem_cons_of_mem slot member) earlier

theorem Collecting.read {last : Region} {slots : List Nat} {carried : List Carried}
    {state : CallState} (collecting : Collecting store memory slotCount last slots carried state)
    {region : Region} (member : region ∈ store.payload) (offset length : Nat) :
    state.memory.read region offset length = memory.read region offset length := by
  have within := List.mem_cons_of_mem store.semaphores member
  rcases collecting.settled.regions region within with ⟨_, unchanged⟩ | ⟨cleared, _⟩
  · exact Memory.read_congr fun position _ _ => unchanged position
  · exact absurd cleared (collecting.uncleared region within)

theorem Untouched.readSemaphores (wellFormed : store.WellFormed) {last : Region}
    (lastMember : last ∈ store.payload) (notInUse : store.semaphores ≠ .processingMe)
    {state result : CallState} (untouched : Untouched store memory state) {area : Area}
    (semaphores : area.region = store.semaphores) {reply : Option (List UInt8)}
    (effect : CallEffect state (.areaRead area 0 (slotCount * 4)) reply result) :
    (reply = none ∧ Untouched store memory result) ∨
      ∃ bytes, reply = some bytes ∧
        Collecting store memory slotCount last (haveData slotCount bytes) [] result := by
  have after := untouched.read (by rw [semaphores]; exact wellFormed.apart) effect
  rcases effect with ⟨failed, _⟩ | ⟨bytes, answered, inUse | read, _⟩
  · exact Or.inl ⟨failed, after⟩
  · exact absurd (semaphores.symm.trans inUse) notInUse
  · have same : bytes = memory.read store.semaphores 0 (slotCount * 4) := by
      rw [read, semaphores]
      exact Memory.read_congr fun position _ _ => untouched.same _ List.mem_cons_self position
    rw [same] at answered
    exact Or.inr ⟨_, answered, after.collecting wellFormed lastMember⟩

theorem Collecting.readLast {last : Region} {slot : Nat} {slots : List Nat}
    {carried : List Carried} {state result : CallState}
    (collecting : Collecting store memory slotCount last (slot :: slots) carried state)
    (lastMember : last ∈ store.payload) (notInUse : last ≠ .processingMe)
    (others : ∀ region ∈ store.payload, region = last ∨
      (region, slot * recordSize) ∈ state.fetched)
    {size handle : Nat} {reply : Option (List UInt8)}
    (effect : CallEffect state
      (.areaRead ⟨last, size, handle⟩ (slot * recordSize) recordSize) reply result) :
    (reply = none ∧ Collecting store memory slotCount last slots carried result) ∨
      (reply = some (memory.read last (slot * recordSize) recordSize) ∧
        Collecting store memory slotCount last slots
          (carried ++ [⟨.ofNat slot, store.record memory slot⟩]) result) := by
  rcases effect with ⟨failed, rfl⟩ | ⟨bytes, answered, inUse | read, rfl⟩
  · exact Or.inl ⟨failed, collecting.skip⟩
  · exact absurd inUse notInUse
  · rw [read, collecting.read lastMember] at answered
    exact Or.inr ⟨answered, collecting.fetch_last others⟩

end Call

/-- The wait for a quiet bank, at a point its reads do not disturb. -/
theorem isolated_readInUse {point failed : CallState → Prop} {bank : Bank} {handle : Nat}
    (kept : ∀ (reply : Option (List UInt8)) state result, point state →
      CallEffect state (.areaRead ⟨.processingMe, 8, handle⟩ (4 * bank.val) 4) reply result →
      point result)
    (gaveUp : ∀ state, point state → failed state) :
    isolatedCard.device.Moves point (.areaRead ⟨.processingMe, 8, handle⟩ (4 * bank.val) 4)
      (fun reply => if stillInUse reply then point
        else if reply.isSome then point else failed) := by
  apply isolated_moves
  intro reply state result holds effect
  have after := kept reply state result holds effect
  split
  · exact after
  · split
    · exact after
    · exact gaveUp result after

end SflowMiddle.Card

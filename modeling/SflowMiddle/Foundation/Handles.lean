/-
Handles with a life cycle: a call may allocate one, acquire it, use it and free it.
A table keeps the state of every handle, and a handle may be granted again once it
is freed. A disciplined program makes no call its handles are not in the state for,
and has put the table back when it returns. What a program holds at a point is a
list of leases, and each kind of call has one rule for it.
-/

import Mathlib.Data.List.Nodup
import SflowMiddle.Foundation.DeviceProgram

namespace SflowMiddle.Foundation

inductive HandleState (Info : Type) where
  | freed
  | allocated (info : Info)
  | acquired (info : Info)
  deriving DecidableEq, Repr

/-- The state of every handle and how often it was granted and given back. -/
structure HandleTable (Handle Info : Type) where
  state : Handle → HandleState Info
  allocations : Handle → Nat
  frees : Handle → Nat

/-- What a call is to handles, and what its reply decides. -/
inductive HandleUse (Handle Info Reply : Type) where
  | alloc (info : Info) (granted : Reply → Option Handle)
  | acquire (handle : Handle) (info : Info) (succeeded : Reply → Bool)
  | access (handle : Handle) (info : Info) (within : Prop)
  | free (handle : Handle) (info : Info)
  | releaseFree (handle : Handle) (info : Info)

section Table

variable {Handle Info : Type} [DecidableEq Handle]

def HandleTable.grant (table : HandleTable Handle Info) (handle : Handle) (info : Info) :
    HandleTable Handle Info :=
  { table with
    state := Function.update table.state handle (.allocated info)
    allocations := Function.update table.allocations handle (table.allocations handle + 1) }

def HandleTable.acquire (table : HandleTable Handle Info) (handle : Handle) (info : Info) :
    HandleTable Handle Info :=
  { table with state := Function.update table.state handle (.acquired info) }

def HandleTable.discard (table : HandleTable Handle Info) (handle : Handle) :
    HandleTable Handle Info :=
  { table with
    state := Function.update table.state handle .freed
    frees := Function.update table.frees handle (table.frees handle + 1) }

namespace HandleUse

variable {Reply : Type}

/-- The state the handle must be in, and for an access its bounds. -/
def Legal (table : HandleTable Handle Info) : HandleUse Handle Info Reply → Prop
  | .alloc _ _ => True
  | .acquire handle info _ => table.state handle = .allocated info
  | .access handle info within => table.state handle = .acquired info ∧ within
  | .free handle info => table.state handle = .allocated info
  | .releaseFree handle info => table.state handle = .acquired info

/-- An allocation that succeeds grants some handle that is not in use. -/
def Leaves (before : HandleTable Handle Info) (use : HandleUse Handle Info Reply)
    (reply : Reply) (after : HandleTable Handle Info) : Prop :=
  match use with
  | .alloc info granted =>
      match granted reply with
      | none => after = before
      | some handle => before.state handle = .freed ∧ after = before.grant handle info
  | .acquire handle info succeeded =>
      after = if succeeded reply then before.acquire handle info else before
  | .access _ _ _ => after = before
  | .free handle _ => after = before.discard handle
  | .releaseFree handle _ => after = before.discard handle

end HandleUse

end Table

/-! ### Leases -/

structure Lease (Handle Info : Type) where
  handle : Handle
  info : Info
  acquired : Bool

variable {Handle Info : Type}

def Lease.state (lease : Lease Handle Info) : HandleState Info :=
  if lease.acquired then .acquired lease.info else .allocated lease.info

theorem Lease.state_ne_freed (lease : Lease Handle Info) : lease.state ≠ .freed := by
  unfold Lease.state
  split
  · exact fun same => by cases same
  · exact fun same => by cases same

theorem Lease.handle_ne_of_notMem {held : List (Lease Handle Info)} {lease : Lease Handle Info}
    {handle : Handle} (absent : handle ∉ held.map Lease.handle) (member : lease ∈ held) :
    lease.handle ≠ handle := by
  intro same
  rw [← same] at absent
  exact absent (List.mem_map_of_mem member)

section Owns

variable [DecidableEq Handle]

/-- Beyond the table it started from the program holds these leases and nothing else. -/
structure Owns (start : HandleTable Handle Info) (held : List (Lease Handle Info))
    (table : HandleTable Handle Info) : Prop where
  apart : (held.map Lease.handle).Nodup
  fresh : ∀ lease ∈ held, start.state lease.handle = .freed
  leased : ∀ lease ∈ held, table.state lease.handle = lease.state
  others : ∀ handle, handle ∉ held.map Lease.handle → table.state handle = start.state handle
  balance : ∀ handle, table.allocations handle + start.frees handle =
    start.allocations handle + table.frees handle + (held.map Lease.handle).count handle

namespace Owns

variable {start table : HandleTable Handle Info} {held other : List (Lease Handle Info)}
  {lease : Lease Handle Info} {handle : Handle} {info : Info}

private theorem nothing (start : HandleTable Handle Info) : Owns start [] start where
  apart := List.nodup_nil
  fresh _ member := (List.not_mem_nil member).elim
  leased _ member := (List.not_mem_nil member).elim
  others _ _ := rfl
  balance _ := rfl

private theorem perm (same : held.Perm other) (owns : Owns start held table) :
    Owns start other table where
  apart := (same.map Lease.handle).nodup_iff.mp owns.apart
  fresh lease member := owns.fresh lease (same.mem_iff.mpr member)
  leased lease member := owns.leased lease (same.mem_iff.mpr member)
  others handle absent :=
    owns.others handle fun member => absent ((same.map Lease.handle).mem_iff.mp member)
  balance handle := by
    rw [owns.balance handle, (same.map Lease.handle).count_eq]

private theorem notMem_of_freed (owns : Owns start held table)
    (unused : table.state handle = .freed) :
    handle ∉ held.map Lease.handle := by
  intro member
  obtain ⟨lease, leaseMember, rfl⟩ := List.mem_map.mp member
  exact lease.state_ne_freed ((owns.leased lease leaseMember).symm.trans unused)

private theorem grant (owns : Owns start held table) (unused : table.state handle = .freed)
    (info : Info) :
    Owns start (⟨handle, info, false⟩ :: held) (table.grant handle info) := by
  have absent := owns.notMem_of_freed unused
  constructor
  · exact List.nodup_cons.mpr ⟨absent, owns.apart⟩
  · intro lease member
    rcases List.mem_cons.mp member with new | old
    · rw [new, ← unused]
      exact (owns.others handle absent).symm
    · exact owns.fresh lease old
  · intro lease member
    rcases List.mem_cons.mp member with new | old
    · rw [new]
      exact Function.update_self _ _ _
    · exact (Function.update_of_ne (Lease.handle_ne_of_notMem absent old) _ _).trans
        (owns.leased lease old)
  · intro asked outside
    rw [List.map_cons, List.mem_cons, not_or] at outside
    exact (Function.update_of_ne outside.1 _ _).trans (owns.others asked outside.2)
  · intro asked
    have before := owns.balance asked
    rw [List.map_cons, List.count_cons]
    by_cases same : asked = handle
    · rw [same] at before ⊢
      have counted : (table.grant handle info).allocations handle =
          table.allocations handle + 1 := Function.update_self _ _ _
      rw [counted, if_pos (by simp)]
      change _ = start.allocations handle + table.frees handle + _
      omega
    · have uncounted : (table.grant handle info).allocations asked = table.allocations asked :=
        Function.update_of_ne same _ _
      rw [uncounted, if_neg (by simpa using Ne.symm same)]
      exact before

private theorem acquire (owns : Owns start (⟨handle, info, false⟩ :: held) table) :
    Owns start (⟨handle, info, true⟩ :: held) (table.acquire handle info) := by
  have absent : handle ∉ held.map Lease.handle := (List.nodup_cons.mp owns.apart).1
  have first : start.state handle = .freed := owns.fresh ⟨handle, info, false⟩ List.mem_cons_self
  constructor
  · exact owns.apart
  · intro lease member
    rcases List.mem_cons.mp member with new | old
    · rw [new]
      exact first
    · exact owns.fresh lease (List.mem_cons_of_mem _ old)
  · intro lease member
    rcases List.mem_cons.mp member with new | old
    · rw [new]
      exact Function.update_self _ _ _
    · exact (Function.update_of_ne (Lease.handle_ne_of_notMem absent old) _ _).trans
        (owns.leased lease (List.mem_cons_of_mem _ old))
  · intro asked outside
    have different : asked ≠ handle := fun same => outside (same ▸ List.mem_cons_self)
    exact (Function.update_of_ne different _ _).trans (owns.others asked outside)
  · exact owns.balance

private theorem discard (owns : Owns start (lease :: held) table) :
    Owns start held (table.discard lease.handle) := by
  obtain ⟨absent, apart⟩ := List.nodup_cons.mp owns.apart
  constructor
  · exact apart
  · exact fun kept member => owns.fresh kept (List.mem_cons_of_mem _ member)
  · intro kept member
    exact (Function.update_of_ne (Lease.handle_ne_of_notMem absent member) _ _).trans
      (owns.leased kept (List.mem_cons_of_mem _ member))
  · intro asked outside
    by_cases same : asked = lease.handle
    · rw [same]
      exact (Function.update_self _ _ _).trans (owns.fresh lease List.mem_cons_self).symm
    · refine (Function.update_of_ne same _ _).trans (owns.others asked ?_)
      rw [List.map_cons, List.mem_cons, not_or]
      exact ⟨same, outside⟩
  · intro asked
    have before := owns.balance asked
    rw [List.map_cons, List.count_cons] at before
    by_cases same : asked = lease.handle
    · rw [same] at before ⊢
      have counted : (table.discard lease.handle).frees lease.handle =
          table.frees lease.handle + 1 := Function.update_self _ _ _
      rw [if_pos (by simp)] at before
      rw [counted]
      change table.allocations lease.handle + _ = _
      omega
    · have uncounted : (table.discard lease.handle).frees asked = table.frees asked :=
        Function.update_of_ne same _ _
      rw [if_neg (by simpa using Ne.symm same)] at before
      rw [uncounted]
      exact before

private theorem restored (owns : Owns start [] table) :
    table.state = start.state ∧ ∀ handle, table.allocations handle + start.frees handle =
      start.allocations handle + table.frees handle :=
  ⟨funext fun handle => owns.others handle (List.not_mem_nil),
    fun handle => owns.balance handle⟩

end Owns

end Owns

/-! ### Disciplined programs -/

section Discipline

variable [DecidableEq Handle] {Op : Type} {Reply : Op → Type} {α : Type}

/-- The handles alone: whatever else a call does, its reply may be any. -/
def handleDevice (uses : (op : Op) → HandleUse Handle Info (Reply op)) :
    Device (HandleTable Handle Info) Op Reply where
  effect before op reply after := (uses op).Leaves before reply after
  interferes _ _ := False
  safe table next := ∀ op, next = some op → (uses op).Legal table

/-- Every call finds its handle in the state it needs, and a run that returns leaves every
handle as it found it, given back as often as it was granted. -/
structure Disciplined (uses : (op : Op) → HandleUse Handle Info (Reply op))
    (program : Program Op Reply α) : Prop where
  legal : ∀ start rest table op, (handleDevice uses).Reaches program start rest table →
    rest.issues = some op → (uses op).Legal table
  restored : ∀ start value table, (handleDevice uses).Returns program start value table →
    table.state = start.state ∧ ∀ handle, table.allocations handle + start.frees handle =
      start.allocations handle + table.frees handle

variable {uses : (op : Op) → HandleUse Handle Info (Reply op)}
  {start : HandleTable Handle Info} {held rest : List (Lease Handle Info)}
  {after : α → HandleTable Handle Info → Prop}

private theorem handleDevice_holding (assertion : HandleTable Handle Info → Prop) :
    (handleDevice uses).Holding assertion where
  stable _ _ interferes := interferes.elim
  safe _ _ _ impossible := by cases impossible

theorem disciplined_of_meets {program : Program Op Reply α}
    (meets : ∀ start, (handleDevice uses).Meets program (Owns start [])
      (fun _ => Owns start [])) : Disciplined uses program where
  legal start _ _ op reaches issued :=
    (meets start).safe_of_reaches reaches (Owns.nothing start) op issued
  restored start _ _ returns :=
    ((meets start).returns returns (Owns.nothing start)).restored

theorem meets_return {value : α} (owned : ∀ table, Owns start held table → after value table) :
    (handleDevice uses).Meets (pure value : Program Op Reply α) (Owns start held) after :=
  Device.Meets.done (handleDevice_holding _) owned

section Calls

variable {op : Op} {next : Reply op → Program Op Reply α} {handle : Handle} {info : Info}

theorem meets_alloc {granted : Reply op → Option Handle} (use : uses op = .alloc info granted)
    (refused : ∀ reply, granted reply = none →
      (handleDevice uses).Meets (next reply) (Owns start held) after)
    (leased : ∀ reply handle, granted reply = some handle →
      (handleDevice uses).Meets (next reply) (Owns start (⟨handle, info, false⟩ :: held)) after) :
    (handleDevice uses).Meets (.call op next) (Owns start held) after := by
  have moves : (handleDevice uses).Moves (Owns start held) op
      (fun reply => match granted reply with
        | none => Owns start held
        | some handle => Owns start (⟨handle, info, false⟩ :: held)) := by
    refine ⟨fun table _ other issued => ?_, ?_⟩
    · cases issued
      rw [use]
      trivial
    · intro reply table result owns effect
      change (uses op).Leaves table reply result at effect
      rw [use] at effect
      dsimp only [HandleUse.Leaves] at effect
      cases outcome : granted reply with
      | none =>
          rw [outcome] at effect
          rw [effect]
          exact owns
      | some handle =>
          rw [outcome] at effect
          rw [effect.2]
          exact owns.grant effect.1 info
  refine Device.Meets.call (handleDevice_holding _) moves ?_
  intro reply
  cases outcome : granted reply with
  | none => exact refused reply outcome
  | some handle => exact leased reply handle outcome

theorem meets_acquire {succeeded : Reply op → Bool}
    (use : uses op = .acquire handle info succeeded)
    (refused : ∀ reply, succeeded reply = false →
      (handleDevice uses).Meets (next reply) (Owns start (⟨handle, info, false⟩ :: held)) after)
    (acquired : ∀ reply, succeeded reply = true →
      (handleDevice uses).Meets (next reply) (Owns start (⟨handle, info, true⟩ :: held)) after) :
    (handleDevice uses).Meets (.call op next) (Owns start (⟨handle, info, false⟩ :: held))
      after := by
  have moves : (handleDevice uses).Moves (Owns start (⟨handle, info, false⟩ :: held)) op
      (fun reply => Owns start (⟨handle, info, succeeded reply⟩ :: held)) := by
    refine ⟨fun table owns other issued => ?_, ?_⟩
    · cases issued
      rw [use]
      exact owns.leased _ List.mem_cons_self
    · intro reply table result owns effect
      change (uses op).Leaves table reply result at effect
      rw [use] at effect
      unfold HandleUse.Leaves at effect
      rw [effect]
      cases succeeded reply with
      | false => exact owns
      | true => exact owns.acquire
  refine Device.Meets.call (handleDevice_holding _) moves ?_
  intro reply
  cases outcome : succeeded reply with
  | false => exact refused reply outcome
  | true => exact acquired reply outcome

private theorem moves_access {within : Prop} (use : uses op = .access handle info within)
    (member : ⟨handle, info, true⟩ ∈ held) (inside : within) :
    (handleDevice uses).Moves (Owns start held) op (fun _ => Owns start held) where
  safe := by
    intro table owns other issued
    cases issued
    rw [use]
    exact ⟨owns.leased _ member, inside⟩
  moves := by
    intro reply table result owns effect
    change (uses op).Leaves table reply result at effect
    rw [use] at effect
    rw [show result = table from effect]
    exact owns

theorem meets_access {within : Prop} (use : uses op = .access handle info within)
    (member : ⟨handle, info, true⟩ ∈ held) (inside : within)
    (continued : ∀ reply, (handleDevice uses).Meets (next reply) (Owns start held) after) :
    (handleDevice uses).Meets (.call op next) (Owns start held) after :=
  Device.Meets.call (handleDevice_holding _) (moves_access use member inside) continued

/-- Accesses repeated until a reply ends them, however many there are. -/
theorem meets_polled_access {within : Prop} {again : Reply op → Bool}
    (use : uses op = .access handle info within)
    (member : ⟨handle, info, true⟩ ∈ held) (inside : within)
    (continued : ∀ reply, (handleDevice uses).Meets (next reply) (Owns start held) after) :
    (handleDevice uses).Meets (.poll op again next) (Owns start held) after := by
  have moves : (handleDevice uses).Moves (Owns start held) op
      (fun reply => if again reply then Owns start held else Owns start held) := by
    simp only [ite_self]
    exact moves_access use member inside
  exact Device.Meets.poll (handleDevice_holding _) moves fun reply _ => continued reply

/-- Giving a handle back, by the call its state asks for. -/
theorem meets_discard {lease : Lease Handle Info} (order : held.Perm (lease :: rest))
    (use : uses op =
      if lease.acquired then .releaseFree lease.handle lease.info
      else .free lease.handle lease.info)
    (continued : ∀ reply, (handleDevice uses).Meets (next reply) (Owns start rest) after) :
    (handleDevice uses).Meets (.call op next) (Owns start held) after := by
  have moves : (handleDevice uses).Moves (Owns start held) op (fun _ => Owns start rest) := by
    refine ⟨fun table owns other issued => ?_, ?_⟩
    · have state := (owns.perm order).leased lease List.mem_cons_self
      unfold Lease.state at state
      cases issued
      rw [use]
      split
      · rename_i acquired
        rwa [if_pos acquired] at state
      · rename_i allocated
        rwa [if_neg allocated] at state
    · intro reply table result owns effect
      change (uses op).Leaves table reply result at effect
      rw [use] at effect
      have given : result = table.discard lease.handle := by
        split at effect
        · exact effect
        · exact effect
      rw [given]
      exact (owns.perm order).discard
  exact Device.Meets.call (handleDevice_holding _) moves continued

end Calls

end Discipline

end SflowMiddle.Foundation

/-
`std::map` as a strictly ascending association list that carries its order. The
only write is `operator[]` followed by an update of the referenced value; an
absent key first receives the default value.
-/

import Mathlib.Order.Defs.LinearOrder
import Mathlib.Tactic

namespace SflowMiddle.Foundation

variable {Key Value : Type} [LinearOrder Key]

def lookupEntry (key : Key) : List (Key × Value) → Option Value
  | [] => none
  | (other, value) :: rest => if key = other then some value else lookupEntry key rest

def updateEntry (key : Key) (fresh : Value) (change : Value → Value) :
    List (Key × Value) → List (Key × Value)
  | [] => [(key, change fresh)]
  | (other, value) :: rest =>
      if key < other then (key, change fresh) :: (other, value) :: rest
      else if key = other then (other, change value) :: rest
      else (other, value) :: updateEntry key fresh change rest

private theorem mem_updateEntry_key {key : Key} {fresh : Value} {change : Value → Value}
    {entries : List (Key × Value)} {entry : Key × Value}
    (member : entry ∈ updateEntry key fresh change entries) :
    entry.1 = key ∨ ∃ old ∈ entries, entry.1 = old.1 := by
  induction entries with
  | nil =>
      rw [updateEntry, List.mem_singleton] at member
      rw [member]
      exact Or.inl rfl
  | cons head rest ih =>
      unfold updateEntry at member
      split at member
      · rcases List.mem_cons.mp member with same | later
        · rw [same]
          exact Or.inl rfl
        · exact Or.inr ⟨entry, later, rfl⟩
      · split at member
        · rename_i equal
          rcases List.mem_cons.mp member with same | later
          · rw [same]
            exact Or.inl equal.symm
          · exact Or.inr ⟨entry, List.mem_cons_of_mem head later, rfl⟩
        · rcases List.mem_cons.mp member with same | later
          · exact Or.inr ⟨head, List.mem_cons_self, by rw [same]⟩
          · rcases ih later with same | ⟨old, oldMember, same⟩
            · exact Or.inl same
            · exact Or.inr ⟨old, List.mem_cons_of_mem head oldMember, same⟩

private theorem updateEntry_ascending {key : Key} {fresh : Value} {change : Value → Value}
    {entries : List (Key × Value)}
    (ascending : entries.Pairwise (fun left right => left.1 < right.1)) :
    (updateEntry key fresh change entries).Pairwise (fun left right => left.1 < right.1) := by
  induction entries with
  | nil => exact List.pairwise_singleton _ _
  | cons head rest ih =>
      have parts := List.pairwise_cons.mp ascending
      unfold updateEntry
      split
      · rename_i below
        refine List.pairwise_cons.mpr ⟨?_, ascending⟩
        intro other member
        rcases List.mem_cons.mp member with same | later
        · rw [same]
          exact below
        · exact below.trans (parts.1 other later)
      · rename_i notBelow
        split
        · exact List.pairwise_cons.mpr ⟨parts.1, parts.2⟩
        · rename_i different
          refine List.pairwise_cons.mpr ⟨?_, ih parts.2⟩
          intro other member
          rcases mem_updateEntry_key member with same | ⟨old, oldMember, same⟩
          · rw [same]
            exact lt_of_le_of_ne (not_lt.mp notBelow) (fun equal => different equal.symm)
          · rw [same]
            exact parts.1 old oldMember

private theorem lookupEntry_of_below {key : Key} {entries : List (Key × Value)}
    (below : ∀ entry ∈ entries, key < entry.1) : lookupEntry key entries = none := by
  induction entries with
  | nil => rfl
  | cons head rest ih =>
      have different : key ≠ head.1 := (below head List.mem_cons_self).ne
      rw [lookupEntry, if_neg different]
      exact ih (fun entry member => below entry (List.mem_cons_of_mem head member))

private theorem lookupEntry_updateEntry_same {key : Key} {fresh : Value} {change : Value → Value}
    {entries : List (Key × Value)}
    (ascending : entries.Pairwise (fun left right => left.1 < right.1)) :
    lookupEntry key (updateEntry key fresh change entries) =
      some (change ((lookupEntry key entries).getD fresh)) := by
  induction entries with
  | nil => simp [updateEntry, lookupEntry]
  | cons head rest ih =>
      have parts := List.pairwise_cons.mp ascending
      unfold updateEntry
      split
      · rename_i below
        have absent : lookupEntry key (head :: rest) = none :=
          lookupEntry_of_below (fun entry member => by
            rcases List.mem_cons.mp member with same | later
            · rw [same]
              exact below
            · exact below.trans (parts.1 entry later))
        rw [absent, lookupEntry, if_pos rfl]
        rfl
      · split
        · rename_i equal
          rw [lookupEntry, if_pos equal, lookupEntry, if_pos equal]
          rfl
        · rename_i different
          rw [lookupEntry, if_neg different, lookupEntry, if_neg different]
          exact ih parts.2

private theorem lookupEntry_updateEntry_of_ne {key other : Key} {fresh : Value}
    {change : Value → Value} (entries : List (Key × Value)) (different : other ≠ key) :
    lookupEntry other (updateEntry key fresh change entries) = lookupEntry other entries := by
  induction entries with
  | nil => simp [updateEntry, lookupEntry, different]
  | cons head rest ih =>
      unfold updateEntry
      split
      · rw [lookupEntry, if_neg different]
      · split
        · rename_i equal
          have headDifferent : other ≠ head.1 := fun same => different (same.trans equal.symm)
          rw [lookupEntry, if_neg headDifferent, lookupEntry, if_neg headDifferent]
        · rw [lookupEntry, lookupEntry, ih]

private theorem mem_iff_lookupEntry {key : Key} {value : Value} {entries : List (Key × Value)}
    (ascending : entries.Pairwise (fun left right => left.1 < right.1)) :
    (key, value) ∈ entries ↔ lookupEntry key entries = some value := by
  induction entries with
  | nil => simp [lookupEntry]
  | cons head rest ih =>
      have parts := List.pairwise_cons.mp ascending
      rw [List.mem_cons, lookupEntry, ih parts.2]
      by_cases same : key = head.1
      · have absent : lookupEntry key rest = none :=
          lookupEntry_of_below (fun entry member => by
            rw [same]
            exact parts.1 entry member)
        rw [if_pos same, absent]
        constructor
        · intro found
          rcases found with equal | impossible
          · rw [← equal]
          · cases impossible
        · intro equal
          exact Or.inl (Prod.ext same (Option.some.inj equal).symm)
      · rw [if_neg same]
        constructor
        · intro found
          rcases found with equal | later
          · exact absurd (congrArg Prod.fst equal) same
          · exact later
        · exact Or.inr

private theorem sum_updateEntry {key : Key} {fresh : Value} {change : Value → Value}
    {measure : Value → Nat} {amount : Nat}
    (grows : ∀ value, measure (change value) = measure value + amount)
    (empty : measure fresh = 0) (entries : List (Key × Value)) :
    ((updateEntry key fresh change entries).map fun entry => measure entry.2).sum =
      (entries.map fun entry => measure entry.2).sum + amount := by
  induction entries with
  | nil => simp [updateEntry, grows, empty]
  | cons head rest ih =>
      unfold updateEntry
      split
      · simp only [List.map_cons, List.sum_cons, grows, empty]
        omega
      · split
        · simp only [List.map_cons, List.sum_cons, grows]
          omega
        · simp only [List.map_cons, List.sum_cons, ih]
          omega

private theorem flatMap_updateEntry_perm {Item : Type} {key : Key} {fresh : Value}
    {change : Value → Value} {items : Key → Value → List Item} {added : List Item}
    (grows : ∀ value, (items key (change value)).Perm (items key value ++ added))
    (empty : items key fresh = []) (entries : List (Key × Value)) :
    ((updateEntry key fresh change entries).flatMap fun entry => items entry.1 entry.2).Perm
      ((entries.flatMap fun entry => items entry.1 entry.2) ++ added) := by
  have new := grows fresh
  rw [empty, List.nil_append] at new
  induction entries with
  | nil => simpa [updateEntry] using new
  | cons head rest ih =>
      unfold updateEntry
      split
      · exact (new.append_right _).trans List.perm_append_comm
      · split
        · rename_i same
          have grown := (grows head.2).append_right
            (rest.flatMap fun entry => items entry.1 entry.2)
          rw [same, List.append_assoc] at grown
          rw [List.flatMap_cons, List.flatMap_cons, List.append_assoc]
          exact grown.trans (List.perm_append_comm.append_left _)
        · simp only [List.flatMap_cons, List.append_assoc]
          exact ih.append_left _

private theorem updateEntry_perm {key : Key} {fresh : Value} {change : Value → Value}
    {entries : List (Key × Value)} (absent : ∀ entry ∈ entries, entry.1 ≠ key) :
    (updateEntry key fresh change entries).Perm ((key, change fresh) :: entries) := by
  induction entries with
  | nil => exact .refl _
  | cons head rest ih =>
      have later := ih fun entry member => absent entry (List.mem_cons_of_mem head member)
      unfold updateEntry
      split
      · exact .refl _
      · rw [if_neg (Ne.symm (absent head List.mem_cons_self))]
        exact (later.cons head).trans (.swap _ _ rest)

structure OrderedMap (Key Value : Type) [LinearOrder Key] where
  entries : List (Key × Value)
  ascending : entries.Pairwise (fun left right => left.1 < right.1)

namespace OrderedMap

def empty : OrderedMap Key Value := ⟨[], List.Pairwise.nil⟩

def find? (map : OrderedMap Key Value) (key : Key) : Option Value :=
  lookupEntry key map.entries

def isEmpty (map : OrderedMap Key Value) : Bool := map.entries.isEmpty

/-- `map[key]`, default-inserted when absent, then changed in place. -/
def modify (map : OrderedMap Key Value) (key : Key) (fresh : Value)
    (change : Value → Value) : OrderedMap Key Value :=
  ⟨updateEntry key fresh change map.entries, updateEntry_ascending map.ascending⟩

@[simp]
theorem find?_modify_same (map : OrderedMap Key Value) (key : Key) (fresh : Value)
    (change : Value → Value) :
    (map.modify key fresh change).find? key = some (change ((map.find? key).getD fresh)) :=
  lookupEntry_updateEntry_same map.ascending

theorem find?_modify_of_ne (map : OrderedMap Key Value) {key other : Key} (fresh : Value)
    (change : Value → Value) (different : other ≠ key) :
    (map.modify key fresh change).find? other = map.find? other :=
  lookupEntry_updateEntry_of_ne map.entries different

theorem isEmpty_false_of_find? {map : OrderedMap Key Value} {key : Key} {value : Value}
    (found : map.find? key = some value) : map.isEmpty = false := by
  cases shape : map.entries with
  | nil =>
      rw [find?, shape] at found
      cases found
  | cons head rest =>
      rw [isEmpty, shape]
      rfl

theorem mem_entries_iff {map : OrderedMap Key Value} {key : Key} {value : Value} :
    (key, value) ∈ map.entries ↔ map.find? key = some value :=
  mem_iff_lookupEntry map.ascending

/-- Written once under each of its names, a list of entries is what the map holds. -/
def ofList (items : List (Key × Value)) : OrderedMap Key Value :=
  items.foldl (fun map item => map.modify item.1 item.2 fun _ => item.2) empty

theorem entries_ofList_perm {items : List (Key × Value)}
    (distinct : (items.map Prod.fst).Nodup) : (ofList items).entries.Perm items := by
  induction items using List.reverseRecOn with
  | nil => exact .refl _
  | append_singleton items last ih =>
      rw [List.map_append, List.nodup_append] at distinct
      obtain ⟨earlier, _, apart⟩ := distinct
      have known := ih earlier
      have absent : ∀ entry ∈ (ofList items).entries, entry.1 ≠ last.1 := by
        intro entry member
        exact apart _ (List.mem_map_of_mem (known.mem_iff.mp member)) _ (by simp)
      have written : ofList (items ++ [last]) =
          (ofList items).modify last.1 last.2 fun _ => last.2 := List.foldl_concat _ _ _ _
      rw [written]
      exact (updateEntry_perm absent).trans ((known.cons last).trans
        (List.perm_append_singleton last items).symm)

/-- Entries under distinct names, in the order of their names, are determined as a set. -/
theorem eq_of_perm_of_names {Name Item : Type} {items others : List (Name × Item)}
    (permuted : items.Perm others)
    (names : items.map Prod.fst = others.map Prod.fst)
    (distinct : (items.map Prod.fst).Nodup) : items = others := by
  induction items generalizing others with
  | nil => exact permuted.nil_eq
  | cons item rest ih =>
      cases others with
      | nil => cases names
      | cons other more =>
          obtain ⟨name, later⟩ := List.cons_eq_cons.mp names
          obtain ⟨absent, distinctLater⟩ := List.nodup_cons.mp distinct
          have same : item = other := by
            rcases List.mem_cons.mp (permuted.mem_iff.mp List.mem_cons_self) with same | inRest
            · exact same
            · exact absurd (later ▸ List.mem_map_of_mem inRest) absent
          subst same
          rw [ih (permuted.cons_inv) later distinctLater]

theorem ofList_cancel {items others : List (Key × Value)}
    (distinct : (items.map Prod.fst).Nodup) (names : items.map Prod.fst = others.map Prod.fst)
    (same : (ofList items).entries = (ofList others).entries) : items = others := by
  have permuted := (entries_ofList_perm distinct).symm
  rw [same] at permuted
  exact eq_of_perm_of_names (permuted.trans (entries_ofList_perm (names ▸ distinct))) names distinct

def keys (map : OrderedMap Key Value) : List Key := map.entries.map Prod.fst

private theorem keys_ascending (map : OrderedMap Key Value) : map.keys.Pairwise (· < ·) :=
  List.pairwise_map.mpr map.ascending

theorem mem_keys_iff {map : OrderedMap Key Value} {key : Key} :
    key ∈ map.keys ↔ (map.find? key).isSome := by
  rw [Option.isSome_iff_exists]
  constructor
  · intro member
    obtain ⟨entry, present, same⟩ := List.mem_map.mp member
    rw [← same]
    exact ⟨entry.2, mem_entries_iff.mp present⟩
  · intro found
    obtain ⟨value, found⟩ := found
    exact List.mem_map.mpr ⟨(key, value), mem_entries_iff.mpr found, rfl⟩

theorem mem_keys_modify {map : OrderedMap Key Value} {key other : Key} {fresh : Value}
    {change : Value → Value} :
    other ∈ (map.modify key fresh change).keys ↔ other = key ∨ other ∈ map.keys := by
  rw [mem_keys_iff, mem_keys_iff]
  by_cases same : other = key
  · rw [same, find?_modify_same]
    simp
  · rw [find?_modify_of_ne map fresh change same]
    simp [same]

theorem keys_eq_of_mem_iff {map other : OrderedMap Key Value}
    (same : ∀ key, key ∈ map.keys ↔ key ∈ other.keys) : map.keys = other.keys := by
  have permuted : map.keys.Perm other.keys :=
    (List.perm_ext_iff_of_nodup (map.keys_ascending.imp ne_of_lt)
      (other.keys_ascending.imp ne_of_lt)).mpr same
  exact permuted.eq_of_pairwise (fun _ _ _ _ below above => absurd above below.asymm)
    map.keys_ascending other.keys_ascending

private theorem ext_find? {map other : OrderedMap Key Value}
    (same : ∀ key, map.find? key = other.find? key) : map = other := by
  have permuted : map.entries.Perm other.entries := by
    refine (List.perm_ext_iff_of_nodup (map.ascending.imp ?_) (other.ascending.imp ?_)).mpr ?_
    · exact fun below equal => absurd below (equal ▸ lt_irrefl _)
    · exact fun below equal => absurd below (equal ▸ lt_irrefl _)
    · intro entry
      exact mem_entries_iff.trans (same entry.1 ▸ mem_entries_iff.symm)
  have entries : map.entries = other.entries :=
    permuted.eq_of_pairwise (fun _ _ _ _ below above => absurd above below.asymm) map.ascending
      other.ascending
  cases map
  cases other
  simp_all

/-! ### Writing many entries -/

def insertAll (map : OrderedMap Key Value) (items : List (Key × Value)) : OrderedMap Key Value :=
  items.foldl (fun map item => map.modify item.1 item.2 fun _ => item.2) map

theorem insertAll_append (map : OrderedMap Key Value) (items others : List (Key × Value)) :
    map.insertAll (items ++ others) = (map.insertAll items).insertAll others :=
  List.foldl_append

private theorem find?_insertAll (map : OrderedMap Key Value) (items : List (Key × Value))
    (key : Key) :
    (map.insertAll items).find? key = ((ofList items).find? key).or (map.find? key) := by
  induction items using List.reverseRecOn with
  | nil => rfl
  | append_singleton items last ih =>
      have written : ofList (items ++ [last]) =
          (ofList items).modify last.1 last.2 fun _ => last.2 := List.foldl_concat _ _ _ _
      rw [insertAll_append, written]
      change ((map.insertAll items).modify last.1 last.2 fun _ => last.2).find? key = _
      by_cases same : key = last.1
      · rw [same, find?_modify_same, find?_modify_same]
        rfl
      · rw [find?_modify_of_ne _ _ _ same, find?_modify_of_ne _ _ _ same, ih]

private theorem ofList_entries (map : OrderedMap Key Value) : ofList map.entries = map := by
  have distinct : (map.entries.map Prod.fst).Nodup := map.keys_ascending.imp ne_of_lt
  apply ext_find?
  intro key
  apply Option.ext
  intro value
  rw [← mem_entries_iff, ← mem_entries_iff]
  exact (entries_ofList_perm distinct).mem_iff

/-- Entries that are collected in a map of their own before they are written make no difference. -/
theorem insertAll_collected (map : OrderedMap Key Value) (items : List (Key × Value)) :
    map.insertAll (ofList items).entries = map.insertAll items := by
  apply ext_find?
  intro key
  rw [find?_insertAll, find?_insertAll, ofList_entries]

theorem isEmpty_iff_of_keys {Entry : Type} {map : OrderedMap Key Value}
    {entries : List Entry} {keyOf : Entry → Key}
    (keys : ∀ key, key ∈ map.keys ↔ ∃ entry ∈ entries, keyOf entry = key) :
    map.isEmpty = true ↔ entries = [] := by
  have empty : map.isEmpty = true ↔ ∀ key, key ∉ map.keys := by
    rw [← List.eq_nil_iff_forall_not_mem, isEmpty, List.isEmpty_iff]
    exact List.map_eq_nil_iff.symm
  rw [empty, List.eq_nil_iff_forall_not_mem]
  constructor
  · intro none entry member
    exact none (keyOf entry) ((keys _).mpr ⟨entry, member, rfl⟩)
  · intro none key present
    obtain ⟨entry, member, _⟩ := (keys key).mp present
    exact none entry member

def total (measure : Value → Nat) (map : OrderedMap Key Value) : Nat :=
  (map.entries.map fun entry => measure entry.2).sum

theorem total_modify {measure : Value → Nat} {change : Value → Value} {fresh : Value}
    {amount : Nat} (grows : ∀ value, measure (change value) = measure value + amount)
    (empty : measure fresh = 0) (map : OrderedMap Key Value) (key : Key) :
    (map.modify key fresh change).total measure = map.total measure + amount :=
  sum_updateEntry grows empty map.entries

def collect {Item : Type} (items : Key → Value → List Item) (map : OrderedMap Key Value) :
    List Item :=
  map.entries.flatMap fun entry => items entry.1 entry.2

theorem collect_modify_perm {Item : Type} {items : Key → Value → List Item}
    {change : Value → Value} {fresh : Value} {key : Key} {added : List Item}
    (grows : ∀ value, (items key (change value)).Perm (items key value ++ added))
    (empty : items key fresh = []) (map : OrderedMap Key Value) :
    ((map.modify key fresh change).collect items).Perm (map.collect items ++ added) :=
  flatMap_updateEntry_perm grows empty map.entries

end OrderedMap

end SflowMiddle.Foundation

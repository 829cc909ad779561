/-
Compact JSON can be read back in one way only. A text that starts with the dump of a
value starts with the dump of no other value, provided that what follows a number is
not a digit; nothing has to be known of the end of the text. Names stand for
themselves, so they are without quotes.
-/

import SflowMiddle.Foundation.CompactJson

namespace SflowMiddle.Foundation

namespace Json

mutual

/-- No name contains a quote. -/
def Plain : Json → Prop
  | .number _ => True
  | .array items => PlainItems items
  | .object members => PlainMembers members

def PlainItems : List Json → Prop
  | [] => True
  | item :: rest => item.Plain ∧ PlainItems rest

def PlainMembers : List (String × Json) → Prop
  | [] => True
  | member :: rest => PlainMember member ∧ PlainMembers rest

def PlainMember : String × Json → Prop
  | (name, value) => '"' ∉ name.toList ∧ value.Plain

end

/-- A number may end here. -/
def Stops (rest : List Char) : Prop :=
  ∀ letter ∈ rest.head?, letter.isDigit = false

theorem stops_nil : Stops [] := by simp [Stops]

theorem stops_cons {letter : Char} (delimiter : letter.isDigit = false) (rest : List Char) :
    Stops (letter :: rest) := by
  simp [Stops, delimiter]

/-! ### Numbers -/

theorem digits_cancel {first second : List Char}
    (firstDigits : ∀ letter ∈ first, letter.isDigit = true)
    (secondDigits : ∀ letter ∈ second, letter.isDigit = true) {rest other : List Char}
    (stops : Stops rest) (otherStops : Stops other) (same : first ++ rest = second ++ other) :
    first = second ∧ rest = other := by
  induction first generalizing second with
  | nil =>
      cases second with
      | nil => exact ⟨rfl, same⟩
      | cons letter more =>
          rw [List.nil_append] at same
          have digit := secondDigits letter List.mem_cons_self
          rw [stops letter (by simp [same])] at digit
          cases digit
  | cons letter more ih =>
      cases second with
      | nil =>
          rw [List.nil_append] at same
          have digit := firstDigits letter List.mem_cons_self
          rw [otherStops letter (by simp [← same])] at digit
          cases digit
      | cons head tail =>
          obtain ⟨rfl, later⟩ := List.cons_eq_cons.mp same
          obtain ⟨rfl, rests⟩ := ih
            (fun other member => firstDigits other (List.mem_cons_of_mem letter member))
            (fun other member => secondDigits other (List.mem_cons_of_mem letter member)) later
          exact ⟨rfl, rests⟩

theorem toList_natCast (value : Nat) : (toString (value : Int)).toList = Nat.toDigits 10 value :=
  String.toList_ofList

theorem toList_negSucc (value : Nat) :
    (toString (Int.negSucc value)).toList = '-' :: Nat.toDigits 10 (value + 1) := by
  have sign : toString (Int.negSucc value) = "-" ++ toString ((value + 1 : Nat) : Int) := rfl
  rw [sign, String.toList_append, toList_natCast]
  rfl

theorem digits_of_natCast (value : Nat) :
    ∀ letter ∈ Nat.toDigits 10 value, letter.isDigit = true :=
  fun _ member => Nat.isDigit_of_mem_toDigits (by decide) (by decide) member

theorem toDigits_injective {first second : Nat}
    (same : Nat.toDigits 10 first = Nat.toDigits 10 second) : first = second := by
  have read := congrArg (fun digits => Nat.ofDigitChars 10 digits 0) same
  rwa [Nat.ofDigitChars_ten_toDigits, Nat.ofDigitChars_ten_toDigits] at read

theorem toDigits_head (value : Nat) : ∃ letter rest, Nat.toDigits 10 value = letter :: rest ∧
    letter.isDigit = true := by
  cases digits : Nat.toDigits 10 value with
  | nil =>
      have some := @Nat.length_toDigits_pos 10 value
      rw [digits] at some
      cases some
  | cons letter rest =>
      refine ⟨letter, rest, rfl, digits_of_natCast value letter ?_⟩
      rw [digits]
      exact List.mem_cons_self

theorem unsigned {value magnitude : Nat} {rest other : List Char} :
    Nat.toDigits 10 value ++ rest ≠ '-' :: Nat.toDigits 10 magnitude ++ other := by
  intro same
  obtain ⟨letter, more, digits, digit⟩ := toDigits_head value
  rw [digits] at same
  rw [(List.cons_eq_cons.mp same).1] at digit
  cases digit

theorem number_cancel {first second : Int} {rest other : List Char} (stops : Stops rest)
    (otherStops : Stops other)
    (same : (toString first).toList ++ rest = (toString second).toList ++ other) :
    first = second ∧ rest = other := by
  cases first with
  | ofNat first =>
      cases second with
      | ofNat second =>
          change (toString (first : Int)).toList ++ _ =
            (toString (second : Int)).toList ++ _ at same
          rw [toList_natCast, toList_natCast] at same
          obtain ⟨digits, rests⟩ := digits_cancel (digits_of_natCast first)
            (digits_of_natCast second) stops otherStops same
          exact ⟨congrArg Int.ofNat (toDigits_injective digits), rests⟩
      | negSucc second =>
          change (toString (first : Int)).toList ++ _ = _ at same
          rw [toList_natCast, toList_negSucc] at same
          exact absurd same unsigned
  | negSucc first =>
      cases second with
      | ofNat second =>
          change _ = (toString (second : Int)).toList ++ _ at same
          rw [toList_natCast, toList_negSucc] at same
          exact absurd same.symm unsigned
      | negSucc second =>
          rw [toList_negSucc, toList_negSucc] at same
          obtain ⟨digits, rests⟩ := digits_cancel (digits_of_natCast (first + 1))
            (digits_of_natCast (second + 1)) stops otherStops (List.cons_eq_cons.mp same).2
          exact ⟨congrArg Int.negSucc (Nat.succ.inj (toDigits_injective digits)), rests⟩

/-! ### Values -/

/-- The first character tells the kind of a value. -/
def Starts : Json → Char → Prop
  | .number _, letter => letter.isDigit = true ∨ letter = '-'
  | .array _, letter => letter = '['
  | .object _, letter => letter = '\x7b'

theorem dump_array (items : List Json) (rest : List Char) :
    (array items).dump.toList ++ rest = '[' :: ((dumpItems items).toList ++ ']' :: rest) := by
  simp [dump]

theorem dump_object (members : List (String × Json)) (rest : List Char) :
    (object members).dump.toList ++ rest =
      '\x7b' :: ((dumpMembers members).toList ++ '\x7d' :: rest) := by
  simp [dump]

theorem dump_items (item : Json) (items : List Json) (rest : List Char) :
    (dumpItems (item :: items)).toList ++ rest =
      item.dump.toList ++ ((dumpMoreItems items).toList ++ rest) := by
  simp [dumpItems]

theorem dump_moreItems (item : Json) (items : List Json) (rest : List Char) :
    (dumpMoreItems (item :: items)).toList ++ rest =
      ',' :: (item.dump.toList ++ ((dumpMoreItems items).toList ++ rest)) := by
  simp [dumpMoreItems]

theorem dump_members (member : String × Json) (members : List (String × Json))
    (rest : List Char) : (dumpMembers (member :: members)).toList ++ rest =
      (dumpMember member).toList ++ ((dumpMoreMembers members).toList ++ rest) := by
  simp [dumpMembers]

theorem dump_moreMembers (member : String × Json) (members : List (String × Json))
    (rest : List Char) : (dumpMoreMembers (member :: members)).toList ++ rest =
      ',' :: ((dumpMember member).toList ++ ((dumpMoreMembers members).toList ++ rest)) := by
  simp [dumpMoreMembers]

theorem dump_member (name : String) (value : Json) (rest : List Char) :
    (dumpMember (name, value)).toList ++ rest =
      '"' :: (name.toList ++ '"' :: ':' :: (value.dump.toList ++ rest)) := by
  simp [dumpMember]

theorem stops_moreItems (items : List Json) (rest : List Char) :
    Stops ((dumpMoreItems items).toList ++ ']' :: rest) := by
  cases items with
  | nil => exact stops_cons (by decide) rest
  | cons item items =>
      rw [dump_moreItems]
      exact stops_cons (by decide) _

theorem stops_moreMembers (members : List (String × Json)) (rest : List Char) :
    Stops ((dumpMoreMembers members).toList ++ '\x7d' :: rest) := by
  cases members with
  | nil => exact stops_cons (by decide) rest
  | cons member members =>
      rw [dump_moreMembers]
      exact stops_cons (by decide) _

theorem dump_head (value : Json) : ∃ letter rest, value.dump.toList = letter :: rest ∧
    value.Starts letter := by
  cases value with
  | number value =>
      cases value with
      | ofNat value =>
          obtain ⟨letter, rest, digits, digit⟩ := toDigits_head value
          exact ⟨letter, rest, (toList_natCast value).trans digits, Or.inl digit⟩
      | negSucc value => exact ⟨_, _, toList_negSucc value, Or.inr rfl⟩
  | array items => exact ⟨_, _, List.append_nil _ ▸ dump_array items [], rfl⟩
  | object members => exact ⟨_, _, List.append_nil _ ▸ dump_object members [], rfl⟩

theorem dump_ne_closing (value : Json) {rest other : List Char} :
    value.dump.toList ++ rest ≠ ']' :: other := by
  intro same
  obtain ⟨letter, more, text, starts⟩ := value.dump_head
  rw [text] at same
  rw [(List.cons_eq_cons.mp same).1] at starts
  cases value with
  | number value => rcases starts with digit | sign <;> simp at *
  | array items => simp [Starts] at starts
  | object members => simp [Starts] at starts

theorem name_cancel {first second : List Char} (plain : '"' ∉ first) (other : '"' ∉ second)
    {rest more : List Char} (same : first ++ '"' :: rest = second ++ '"' :: more) :
    first = second ∧ rest = more := by
  induction first generalizing second with
  | nil =>
      cases second with
      | nil => exact ⟨rfl, (List.cons_eq_cons.mp same).2⟩
      | cons letter tail =>
          rw [(List.cons_eq_cons.mp same).1] at other
          exact absurd List.mem_cons_self other
  | cons letter tail ih =>
      cases second with
      | nil =>
          rw [← (List.cons_eq_cons.mp same).1] at plain
          exact absurd List.mem_cons_self plain
      | cons head body =>
          obtain ⟨rfl, later⟩ := List.cons_eq_cons.mp same
          obtain ⟨rfl, rests⟩ := ih (fun member => plain (List.mem_cons_of_mem letter member))
            (fun member => other (List.mem_cons_of_mem letter member)) later
          exact ⟨rfl, rests⟩

/-- Values of different kinds do not start alike. -/
theorem starts_same {first second : Json} {rest more : List Char}
    (same : first.dump.toList ++ rest = second.dump.toList ++ more) :
    ∃ letter, first.Starts letter ∧ second.Starts letter := by
  obtain ⟨letter, tail, text, starts⟩ := first.dump_head
  obtain ⟨head, body, other, begins⟩ := second.dump_head
  rw [text, other] at same
  rw [(List.cons_eq_cons.mp same).1] at starts
  exact ⟨head, starts, begins⟩

mutual

theorem dump_cancel (first second : Json) (plain : first.Plain) (other : second.Plain)
    {rest more : List Char} (stops : Stops rest) (moreStops : Stops more)
    (same : first.dump.toList ++ rest = second.dump.toList ++ more) :
    first = second ∧ rest = more := by
  obtain ⟨letter, starts, begins⟩ := starts_same same
  match first, second with
  | .number value, .number read =>
      obtain ⟨rfl, rests⟩ := number_cancel stops moreStops same
      exact ⟨rfl, rests⟩
  | .array items, .array read =>
      rw [dump_array, dump_array] at same
      obtain ⟨rfl, rests⟩ := dumpItems_cancel items read plain other (List.cons_eq_cons.mp same).2
      exact ⟨rfl, rests⟩
  | .object members, .object read =>
      rw [dump_object, dump_object] at same
      obtain ⟨rfl, rests⟩ := dumpMembers_cancel members read plain other
        (List.cons_eq_cons.mp same).2
      exact ⟨rfl, rests⟩
  | .number _, .array _ | .number _, .object _ | .array _, .number _ | .array _, .object _
  | .object _, .number _ | .object _, .array _ => simp_all [Starts]

theorem dumpItems_cancel (first second : List Json) (plain : PlainItems first)
    (other : PlainItems second) {rest more : List Char}
    (same : (dumpItems first).toList ++ ']' :: rest = (dumpItems second).toList ++ ']' :: more) :
    first = second ∧ rest = more := by
  match first, second with
  | [], [] => exact ⟨rfl, (List.cons_eq_cons.mp same).2⟩
  | [], item :: items =>
      rw [dump_items] at same
      exact absurd same.symm (dump_ne_closing item)
  | item :: items, [] =>
      rw [dump_items] at same
      exact absurd same (dump_ne_closing item)
  | item :: items, head :: tail =>
      rw [dump_items, dump_items] at same
      obtain ⟨rfl, later⟩ := dump_cancel item head plain.1 other.1 (stops_moreItems items rest)
        (stops_moreItems tail more) same
      obtain ⟨rfl, rests⟩ := dumpMoreItems_cancel items tail plain.2 other.2 later
      exact ⟨rfl, rests⟩

theorem dumpMoreItems_cancel (first second : List Json) (plain : PlainItems first)
    (other : PlainItems second) {rest more : List Char}
    (same : (dumpMoreItems first).toList ++ ']' :: rest =
      (dumpMoreItems second).toList ++ ']' :: more) :
    first = second ∧ rest = more := by
  match first, second with
  | [], [] => exact ⟨rfl, (List.cons_eq_cons.mp same).2⟩
  | [], item :: items =>
      rw [dump_moreItems] at same
      cases (List.cons_eq_cons.mp same).1
  | item :: items, [] =>
      rw [dump_moreItems] at same
      cases (List.cons_eq_cons.mp same).1
  | item :: items, head :: tail =>
      rw [dump_moreItems, dump_moreItems] at same
      obtain ⟨rfl, later⟩ := dump_cancel item head plain.1 other.1 (stops_moreItems items rest)
        (stops_moreItems tail more) (List.cons_eq_cons.mp same).2
      obtain ⟨rfl, rests⟩ := dumpMoreItems_cancel items tail plain.2 other.2 later
      exact ⟨rfl, rests⟩

theorem dumpMembers_cancel (first second : List (String × Json)) (plain : PlainMembers first)
    (other : PlainMembers second) {rest more : List Char}
    (same : (dumpMembers first).toList ++ '\x7d' :: rest =
      (dumpMembers second).toList ++ '\x7d' :: more) :
    first = second ∧ rest = more := by
  match first, second with
  | [], [] => exact ⟨rfl, (List.cons_eq_cons.mp same).2⟩
  | [], (name, value) :: members =>
      rw [dump_members, dump_member] at same
      cases (List.cons_eq_cons.mp same).1
  | (name, value) :: members, [] =>
      rw [dump_members, dump_member] at same
      cases (List.cons_eq_cons.mp same).1
  | member :: members, head :: tail =>
      rw [dump_members, dump_members] at same
      obtain ⟨rfl, later⟩ := dumpMember_cancel member head plain.1 other.1
        (stops_moreMembers members rest) (stops_moreMembers tail more) same
      obtain ⟨rfl, rests⟩ := dumpMoreMembers_cancel members tail plain.2 other.2 later
      exact ⟨rfl, rests⟩

theorem dumpMoreMembers_cancel (first second : List (String × Json)) (plain : PlainMembers first)
    (other : PlainMembers second) {rest more : List Char}
    (same : (dumpMoreMembers first).toList ++ '\x7d' :: rest =
      (dumpMoreMembers second).toList ++ '\x7d' :: more) :
    first = second ∧ rest = more := by
  match first, second with
  | [], [] => exact ⟨rfl, (List.cons_eq_cons.mp same).2⟩
  | [], member :: members =>
      rw [dump_moreMembers] at same
      cases (List.cons_eq_cons.mp same).1
  | member :: members, [] =>
      rw [dump_moreMembers] at same
      cases (List.cons_eq_cons.mp same).1
  | member :: members, head :: tail =>
      rw [dump_moreMembers, dump_moreMembers] at same
      obtain ⟨rfl, later⟩ := dumpMember_cancel member head plain.1 other.1
        (stops_moreMembers members rest) (stops_moreMembers tail more)
        (List.cons_eq_cons.mp same).2
      obtain ⟨rfl, rests⟩ := dumpMoreMembers_cancel members tail plain.2 other.2 later
      exact ⟨rfl, rests⟩

theorem dumpMember_cancel (first second : String × Json) (plain : PlainMember first)
    (other : PlainMember second) {rest more : List Char} (stops : Stops rest)
    (moreStops : Stops more)
    (same : (dumpMember first).toList ++ rest = (dumpMember second).toList ++ more) :
    first = second ∧ rest = more := by
  match first, second with
  | (name, value), (label, read) =>
      rw [dump_member, dump_member] at same
      obtain ⟨names, later⟩ := name_cancel plain.1 other.1 (List.cons_eq_cons.mp same).2
      obtain ⟨rfl, rests⟩ := dump_cancel value read plain.2 other.2 stops moreStops
        (List.cons_eq_cons.mp later).2
      rw [String.toList_inj.mp names]
      exact ⟨rfl, rests⟩

end

/-- Two plain values with the same text are the same. -/
theorem dump_injective {first second : Json} (plain : first.Plain) (other : second.Plain)
    (same : first.dump = second.dump) : first = second := by
  refine (@dump_cancel first second plain other [] [] stops_nil stops_nil ?_).1
  rw [same]

/-! ### Objects by their members -/

theorem plainItems_iff {items : List Json} : PlainItems items ↔ ∀ item ∈ items, item.Plain := by
  induction items with
  | nil => simp [PlainItems]
  | cons item rest ih => simp [PlainItems, ih]

theorem plainMembers_iff {members : List (String × Json)} :
    PlainMembers members ↔ ∀ member ∈ members, PlainMember member := by
  induction members with
  | nil => simp [PlainMembers]
  | cons member rest ih => simp [PlainMembers, ih]

theorem plain_ofMembers {members : List (String × Json)}
    (distinct : (members.map Prod.fst).Nodup) (plain : PlainMembers members) :
    (ofMembers members).Plain := by
  refine plainMembers_iff.mpr ?_
  intro member present
  exact plainMembers_iff.mp plain member
    ((OrderedMap.entries_ofList_perm distinct).mem_iff.mp present)

/-- Objects that were assigned the same names are equal only if the values are. -/
theorem ofMembers_cancel {members others : List (String × Json)}
    (same : ofMembers members = ofMembers others) (distinct : (members.map Prod.fst).Nodup)
    (names : members.map Prod.fst = others.map Prod.fst) : members = others :=
  OrderedMap.ofList_cancel distinct names (object.inj same)

end Json

end SflowMiddle.Foundation

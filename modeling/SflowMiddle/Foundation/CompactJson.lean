/-
JSON values and their compact text: no blanks, integers in decimal, the members of an
object in the order of their names. Names stand for themselves, so they are without
quotes, backslashes and control characters. The size of a text is that of its parts.
-/

import SflowMiddle.Foundation.OrderedMap
import Mathlib.Data.String.Basic
import Mathlib.Data.Nat.Digits.Lemmas

namespace SflowMiddle.Foundation

inductive Json where
  | number (value : Int)
  | array (items : List Json)
  | object (members : List (String × Json))

namespace Json

mutual

def dump : Json → String
  | .number value => toString value
  | .array items => "[" ++ dumpItems items ++ "]"
  | .object members => "\x7b" ++ dumpMembers members ++ "\x7d"

def dumpItems : List Json → String
  | [] => ""
  | item :: rest => item.dump ++ dumpMoreItems rest

def dumpMoreItems : List Json → String
  | [] => ""
  | item :: rest => "," ++ item.dump ++ dumpMoreItems rest

def dumpMembers : List (String × Json) → String
  | [] => ""
  | member :: rest => dumpMember member ++ dumpMoreMembers rest

def dumpMoreMembers : List (String × Json) → String
  | [] => ""
  | member :: rest => "," ++ dumpMember member ++ dumpMoreMembers rest

def dumpMember : String × Json → String
  | (name, value) => "\"" ++ name ++ "\":" ++ value.dump

end

/-- An object whose members are assigned one after the other. -/
def ofMembers (members : List (String × Json)) : Json :=
  .object (OrderedMap.ofList members).entries

example : (ofMembers [("src", .number 3), ("dst", .array [.number (-4), .number 12])]).dump =
    "\x7b\"dst\":[-4,12],\"src\":3\x7d" := by
  decide

/-! ### Sizes -/

def size (value : Json) : Nat := value.dump.utf8ByteSize

def width (value : Int) : Nat := (toString value).utf8ByteSize

def memberSize (member : String × Json) : Nat := member.1.utf8ByteSize + member.2.size

theorem size_number (value : Int) : (number value).size = width value := rfl

theorem size_dumpMoreItems (items : List Json) :
    (dumpMoreItems items).utf8ByteSize = (items.map fun item => item.size + 1).sum := by
  have comma : ",".utf8ByteSize = 1 := rfl
  induction items with
  | nil => rfl
  | cons item rest ih =>
      simp only [dumpMoreItems, String.utf8ByteSize_append, comma, ih, List.map_cons,
        List.sum_cons, size]
      omega

theorem size_array {items : List Json} (nonempty : items ≠ []) :
    (array items).size = 1 + (items.map fun item => item.size + 1).sum := by
  have opening : "[".utf8ByteSize = 1 := rfl
  have closing : "]".utf8ByteSize = 1 := rfl
  cases items with
  | nil => exact absurd rfl nonempty
  | cons item rest =>
      have more := size_dumpMoreItems rest
      simp only [size, dump, dumpItems, String.utf8ByteSize_append, opening, closing,
        List.map_cons, List.sum_cons] at more ⊢
      omega

theorem size_dumpMember (member : String × Json) :
    (dumpMember member).utf8ByteSize = memberSize member + 3 := by
  have quote : "\"".utf8ByteSize = 1 := rfl
  have colon : "\":".utf8ByteSize = 2 := rfl
  obtain ⟨name, value⟩ := member
  simp only [dumpMember, String.utf8ByteSize_append, quote, colon, memberSize, size]
  omega

theorem size_dumpMoreMembers (members : List (String × Json)) :
    (dumpMoreMembers members).utf8ByteSize =
      (members.map fun member => memberSize member + 4).sum := by
  have comma : ",".utf8ByteSize = 1 := rfl
  induction members with
  | nil => rfl
  | cons member rest ih =>
      simp only [dumpMoreMembers, String.utf8ByteSize_append, comma, size_dumpMember, ih,
        List.map_cons, List.sum_cons]
      omega

theorem size_object {members : List (String × Json)} (nonempty : members ≠ []) :
    (object members).size = 1 + (members.map fun member => memberSize member + 4).sum := by
  have opening : "\x7b".utf8ByteSize = 1 := rfl
  have closing : "\x7d".utf8ByteSize = 1 := rfl
  cases members with
  | nil => exact absurd rfl nonempty
  | cons member rest =>
      have more := size_dumpMoreMembers rest
      simp only [size, dump, dumpMembers, String.utf8ByteSize_append, opening, closing,
        size_dumpMember, List.map_cons, List.sum_cons] at more ⊢
      omega

theorem size_ofMembers {members : List (String × Json)} (nonempty : members ≠ [])
    (distinct : (members.map Prod.fst).Nodup) :
    (ofMembers members).size = 1 + (members.map fun member => memberSize member + 4).sum := by
  have permuted := OrderedMap.entries_ofList_perm distinct
  have present : (OrderedMap.ofList members).entries ≠ [] := by
    intro empty
    rw [empty] at permuted
    exact nonempty permuted.nil_eq.symm
  unfold ofMembers
  rw [size_object present, (permuted.map _).sum_eq]

/-! ### Widths -/

theorem utf8ByteSize_ofList_of_digits {digits : List Char}
    (decimal : ∀ digit ∈ digits, digit.isDigit = true) :
    (String.ofList digits).utf8ByteSize = digits.length := by
  induction digits with
  | nil => rfl
  | cons digit rest ih =>
      have later := ih fun other member => decimal other (List.mem_cons_of_mem digit member)
      have ascii : digit.utf8Size = 1 := by
        have first := (Char.isDigit_iff_toNat.mp (decimal digit List.mem_cons_self)).2
        have last : '9'.toNat = 57 := rfl
        rw [Char.utf8Size_eq_one_iff, UInt32.le_iff_toNat_le]
        change digit.toNat ≤ 127
        omega
      rw [String.ofList_cons, String.utf8ByteSize_append, String.utf8ByteSize_singleton, later,
        ascii, List.length_cons, Nat.add_comm]

theorem width_natCast (value : Nat) : width value = (Nat.toDigits 10 value).length :=
  utf8ByteSize_ofList_of_digits fun _ member =>
    Nat.isDigit_of_mem_toDigits (by decide) (by decide) member

theorem width_natCast_le {value digits : Nat} (positive : 0 < digits)
    (bound : value < 10 ^ digits) : width value ≤ digits := by
  rw [width_natCast]
  exact (Nat.length_toDigits_le_iff (by decide) positive).mpr bound

theorem width_negSucc (value : Nat) : width (.negSucc value) = 1 + width (value + 1 : Nat) :=
  String.utf8ByteSize_append

theorem width_pos (value : Int) : 0 < width value := by
  cases value with
  | ofNat value =>
      have written := width_natCast value
      have digits := @Nat.length_toDigits_pos 10 value
      change 0 < width (value : Int)
      omega
  | negSucc value =>
      rw [width_negSucc]
      omega

theorem width_le {value : Int} {digits : Nat} (positive : 0 < digits)
    (bound : value.natAbs < 10 ^ digits) : width value ≤ digits + 1 := by
  cases value with
  | ofNat value =>
      have written : width (value : Int) ≤ digits := width_natCast_le positive bound
      exact Nat.le_succ_of_le written
  | negSucc value =>
      have written : width (value + 1 : Nat) ≤ digits := width_natCast_le positive bound
      rw [width_negSucc]
      omega

end Json

end SflowMiddle.Foundation

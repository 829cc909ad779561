/-
Little-endian fields at the front of a byte string. Reading a field consumes its
bytes, and writing the value back restores exactly the bytes that were read.
-/

import Mathlib.Data.List.Basic
import Mathlib.Tactic

namespace SflowMiddle.Foundation

def decode : List UInt8 → Nat
  | [] => 0
  | byte :: rest => byte.toNat + 256 * decode rest

def encode : Nat → Nat → List UInt8
  | 0, _ => []
  | width + 1, value => UInt8.ofNat (value % 256) :: encode width (value / 256)

@[simp]
theorem length_encode (width value : Nat) : (encode width value).length = width := by
  induction width generalizing value with
  | zero => rfl
  | succ width ih => simp [encode, ih]

private theorem decode_lt (bytes : List UInt8) : decode bytes < 256 ^ bytes.length := by
  induction bytes with
  | nil => simp [decode]
  | cons byte rest ih =>
      have low := byte.toNat_lt
      rw [List.length_cons, pow_succ, decode]
      omega

private theorem encode_decode (bytes : List UInt8) :
    encode bytes.length (decode bytes) = bytes := by
  induction bytes with
  | nil => rfl
  | cons byte rest ih =>
      have low := byte.toNat_lt
      have split : (byte.toNat + 256 * decode rest) / 256 = decode rest := by omega
      have lowest : (byte.toNat + 256 * decode rest) % 256 = byte.toNat := by omega
      rw [List.length_cons, decode, encode, split, lowest, ih]
      simp

theorem decode_encode {width value : Nat} (bound : value < 256 ^ width) :
    decode (encode width value) = value := by
  induction width generalizing value with
  | zero =>
      have zero : value = 0 := by simpa using bound
      rw [zero]
      rfl
  | succ width ih =>
      have upper : value / 256 < 256 ^ width := by
        rw [Nat.div_lt_iff_lt_mul (by norm_num), ← pow_succ]
        exact bound
      have lowest : (UInt8.ofNat (value % 256)).toNat = value % 256 := by simp
      rw [encode, decode, ih upper, lowest]
      omega

/-- The little-endian field of `width` bytes at an offset. -/
def field (bytes : List UInt8) (offset width : Nat) : Nat :=
  decode ((bytes.drop offset).take width)

theorem field_lt (bytes : List UInt8) (offset width : Nat) :
    field bytes offset width < 256 ^ width :=
  (decode_lt _).trans_le (Nat.pow_le_pow_right (by norm_num) (List.length_take_le _ _))

private theorem encode_field {bytes : List UInt8} {offset width : Nat}
    (within : offset + width ≤ bytes.length) :
    encode width (field bytes offset width) = (bytes.drop offset).take width := by
  have exactly : ((bytes.drop offset).take width).length = width := by
    rw [List.length_take, List.length_drop]
    omega
  have restored := encode_decode ((bytes.drop offset).take width)
  rw [exactly] at restored
  exact restored

theorem slice_append_drop (bytes : List UInt8) (offset width : Nat) :
    (bytes.drop offset).take width ++ bytes.drop (offset + width) = bytes.drop offset := by
  rw [← List.drop_drop, List.take_append_drop]

private theorem decode_append (front back : List UInt8) :
    decode (front ++ back) = decode front + 256 ^ front.length * decode back := by
  induction front with
  | nil => simp [decode]
  | cons byte rest ih =>
      rw [List.cons_append, decode, decode, ih, List.length_cons, pow_succ]
      ring

theorem encode_add (low high value : Nat) :
    encode (low + high) value = encode low value ++ encode high (value / 256 ^ low) := by
  induction low generalizing value with
  | zero => simp [encode]
  | succ low ih =>
      have divided : value / 256 ^ (low + 1) = value / 256 / 256 ^ low := by
        rw [Nat.div_div_eq_div_mul, pow_succ']
      rw [Nat.add_right_comm, encode, encode, ih, divided, List.cons_append]

theorem encode_mod (width value : Nat) :
    encode width (value % 256 ^ width) = encode width value := by
  induction width generalizing value with
  | zero => rfl
  | succ width ih =>
      have lowest : value % 256 ^ (width + 1) % 256 = value % 256 :=
        Nat.mod_mod_of_dvd _ (dvd_pow_self 256 (Nat.succ_ne_zero width))
      have others : value % 256 ^ (width + 1) / 256 = value / 256 % 256 ^ width := by
        rw [pow_succ', Nat.mod_mul_right_div_self]
      rw [encode, encode, lowest, others, ih]

theorem take_behind (width value : Nat) (rest : List UInt8) (length : Nat) :
    (encode width value ++ rest).take (width + length) =
      encode width value ++ rest.take length := by
  have whole : (encode width value).take (width + length) = encode width value :=
    List.take_of_length_le (by simp)
  rw [List.take_append, whole, length_encode, Nat.add_sub_cancel_left]

theorem field_behind (width value : Nat) (rest : List UInt8) (offset wide : Nat) :
    field (encode width value ++ rest) (width + offset) wide = field rest offset wide := by
  unfold field
  rw [← List.drop_drop]
  congr 3
  exact List.drop_left' (length_encode width value)

theorem field_written {width value : Nat} (bound : value < 256 ^ width) (rest : List UInt8) :
    field (encode width value ++ rest) 0 width = value := by
  have written : (encode width value ++ rest).take width = encode width value :=
    List.take_left' (length_encode width value)
  unfold field
  rw [List.drop_zero, written, decode_encode bound]

theorem field_later {width offset : Nat} (behind : width ≤ offset) (value : Nat)
    (rest : List UInt8) (wide : Nat) :
    field (encode width value ++ rest) offset wide = field rest (offset - width) wide := by
  obtain ⟨skipped, rfl⟩ := Nat.exists_eq_add_of_le behind
  rw [field_behind, Nat.add_sub_cancel_left]

private theorem field_encode {width value : Nat} (bound : value < 256 ^ width) :
    field (encode width value) 0 width = value := by
  have written := field_written bound []
  rwa [List.append_nil] at written

theorem field_add {bytes : List UInt8} {offset low high : Nat}
    (within : offset + low ≤ bytes.length) :
    field bytes offset (low + high) =
      field bytes offset low + 256 ^ low * field bytes (offset + low) high := by
  have width : ((bytes.drop offset).take low).length = low := by
    rw [List.length_take, List.length_drop]
    omega
  unfold field
  rw [List.take_add, decode_append, width, List.drop_drop]

section Written

variable (rest : List UInt8)

@[simp]
theorem field_written_uint16 (value : UInt16) :
    field (encode 2 value.toNat ++ rest) 0 2 = value.toNat :=
  field_written value.toNat_lt rest

@[simp]
theorem field_written_uint32 (value : UInt32) :
    field (encode 4 value.toNat ++ rest) 0 4 = value.toNat :=
  field_written value.toNat_lt rest

@[simp]
theorem field_written_uint64 (value : UInt64) :
    field (encode 8 value.toNat ++ rest) 0 8 = value.toNat :=
  field_written value.toNat_lt rest

end Written

@[simp]
theorem field_encode_uint32 (value : UInt32) :
    field (encode 4 value.toNat) 0 4 = value.toNat :=
  field_encode value.toNat_lt

theorem encode_uint16_field {bytes : List UInt8} {offset : Nat}
    (within : offset + 2 ≤ bytes.length) :
    encode 2 (UInt16.ofNat (field bytes offset 2)).toNat = (bytes.drop offset).take 2 := by
  rw [UInt16.toNat_ofNat_of_lt' (field_lt bytes offset 2), encode_field within]

theorem encode_uint32_field {bytes : List UInt8} {offset : Nat}
    (within : offset + 4 ≤ bytes.length) :
    encode 4 (UInt32.ofNat (field bytes offset 4)).toNat = (bytes.drop offset).take 4 := by
  rw [UInt32.toNat_ofNat_of_lt' (field_lt bytes offset 4), encode_field within]

theorem encode_uint64_field {bytes : List UInt8} {offset : Nat}
    (within : offset + 8 ≤ bytes.length) :
    encode 8 (UInt64.ofNat (field bytes offset 8)).toNat = (bytes.drop offset).take 8 := by
  rw [UInt64.toNat_ofNat_of_lt' (field_lt bytes offset 8), encode_field within]

end SflowMiddle.Foundation

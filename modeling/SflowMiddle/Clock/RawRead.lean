/-
`readRaw` of src/MacClockReader.cpp, down to the bytes of the mac_time symbol. The
layout of the conversion fields is guessed: three interpretations are tried in order,
and the first that could be a conversion is taken. What is decoded is compared here
with what each layout writes.
-/

import SflowMiddle.Clock.MacClockReader
import SflowMiddle.Foundation.LittleEndian

namespace SflowMiddle.Clock

open SflowMiddle.Foundation

/-! ### Reading the symbol -/

def readLe16 (bytes : List UInt8) (offset : Nat) : UInt16 :=
  .ofNat (field bytes offset 2)

def readLe32 (bytes : List UInt8) (offset : Nat) : UInt32 :=
  .ofNat (field bytes offset 4)

def HasValidConversion (state : MacTimeStateHost) : Prop :=
  state.convMult ≠ 0 ∧ state.convRshift.toNat < 32

instance (state : MacTimeStateHost) : Decidable (HasValidConversion state) :=
  inferInstanceAs (Decidable (_ ∧ _))

/-- `expectedSize_`, which the constructor compares with `sizeof(MacTimeStateHost)`. -/
def expectedSize : Nat := 20

/-- The resolved symbol; the constructor throws on a size that is known and too small. -/
structure MacTimeSymbol where
  size : Nat
  mandatory : size = 0 ∨ 16 ≤ size

def MacTimeSymbol.bytesToRead (symbol : MacTimeSymbol) : Nat :=
  if 20 ≤ symbol.size then 20 else if 16 ≤ symbol.size then 16 else expectedSize

/-- What the area calls return; a read leaves its bytes in the buffer. -/
structure AreaReplies where
  allocated : Bool
  acquireStatus : Int
  read : Nat → Int × List UInt8

/-- The zeroed buffer after a read. -/
def rawBuffer (size : Nat) (bytes : List UInt8) : List UInt8 :=
  (bytes ++ List.replicate size 0).take size

def packedState (raw : List UInt8) : MacTimeStateHost where
  macTimeS := readLe32 raw 0
  macTimeNs := readLe32 raw 4
  meTime := readLe32 raw 8
  convMult := (readLe16 raw 12).toUInt32
  convRshift := (readLe16 raw 14).toUInt32

def swappedState (raw : List UInt8) : MacTimeStateHost :=
  { packedState raw with
    convMult := (readLe16 raw 14).toUInt32
    convRshift := (readLe16 raw 12).toUInt32 }

def alignedState (raw : List UInt8) : MacTimeStateHost :=
  { packedState raw with
    convMult := readLe32 raw 12
    convRshift := readLe32 raw 16 }

/-- An image no interpretation explains is passed on as packed. -/
def interpret (bytesToRead : Nat) (raw : List UInt8) : MacTimeStateHost :=
  if HasValidConversion (packedState raw) then packedState raw
  else if HasValidConversion (swappedState raw) then swappedState raw
  else if 20 ≤ bytesToRead ∧ HasValidConversion (alignedState raw) then alignedState raw
  else packedState raw

def readRaw (symbol : MacTimeSymbol) (replies : AreaReplies) : RawRead :=
  if replies.allocated = false then .error .areaAllocFailed
  else if replies.acquireStatus < 0 then .error .areaAcquireFailed
  else
    let bytesRead := replies.read symbol.bytesToRead
    if bytesRead.1 ≠ symbol.bytesToRead then .error .shortRead
    else .ok (interpret symbol.bytesToRead (rawBuffer symbol.bytesToRead bytesRead.2))

/-- An area over these bytes of memory whose calls succeed. -/
def areaOver (memory : List UInt8) : AreaReplies where
  allocated := true
  acquireStatus := 0
  read length := (length, memory.take length)

theorem MacTimeSymbol.bytesToRead_cases (symbol : MacTimeSymbol) :
    symbol.bytesToRead = 16 ∨ symbol.bytesToRead = 20 := by
  unfold bytesToRead expectedSize
  split
  · exact Or.inr rfl
  · split
    · exact Or.inl rfl
    · exact Or.inr rfl

private theorem readRaw_areaOver {symbol : MacTimeSymbol} {memory : List UInt8}
    (enough : symbol.bytesToRead ≤ memory.length) :
    readRaw symbol (areaOver memory) =
      .ok (interpret symbol.bytesToRead (memory.take symbol.bytesToRead)) := by
  have whole : rawBuffer symbol.bytesToRead (memory.take symbol.bytesToRead) =
      memory.take symbol.bytesToRead := by
    unfold rawBuffer
    exact List.take_left' (List.length_take_of_le enough)
  simp [readRaw, areaOver, whole]

/-! ### Writing a state -/

/-- Where the multiplier and the shift are: two 16-bit fields in either order, or the
32-bit fields of the host structure. -/
inductive Layout where
  | packed
  | swapped
  | aligned
  deriving DecidableEq, Repr

namespace Layout

def length : Layout → Nat
  | .packed => 16
  | .swapped => 16
  | .aligned => 20

def Represents (layout : Layout) (state : MacTimeStateHost) : Prop :=
  layout = .aligned ∨ (state.convMult.toNat < 2 ^ 16 ∧ state.convRshift.toNat < 2 ^ 16)

def image (layout : Layout) (state : MacTimeStateHost) : List UInt8 :=
  encode 4 state.macTimeS.toNat ++ (encode 4 state.macTimeNs.toNat ++
    (encode 4 state.meTime.toNat ++
      match layout with
      | .packed => encode 2 state.convMult.toNat ++ encode 2 state.convRshift.toNat
      | .swapped => encode 2 state.convRshift.toNat ++ encode 2 state.convMult.toNat
      | .aligned => encode 4 state.convMult.toNat ++ encode 4 state.convRshift.toNat))

/-- No interpretation tried before the layout's own explains the image differently. -/
def Unmistakable (state : MacTimeStateHost) : Layout → Prop
  | .packed => True
  | .swapped =>
      state.convRshift.toNat = 0 ∨ 32 ≤ state.convMult.toNat ∨
        state.convMult.toNat = state.convRshift.toNat
  | .aligned =>
      (state.convMult.toNat < 2 ^ 16 ∧ state.convRshift.toNat = 0) ∨
        (2 ^ 21 ≤ state.convMult.toNat ∧ 32 ≤ state.convMult.toNat % 2 ^ 16)

instance (state : MacTimeStateHost) (layout : Layout) : Decidable (layout.Unmistakable state) :=
  match layout with
  | .packed => inferInstanceAs (Decidable True)
  | .swapped => inferInstanceAs (Decidable (_ ∨ _))
  | .aligned => inferInstanceAs (Decidable (_ ∨ _))

end Layout

/-! ### The three interpretations of one image -/

/-- The time fields, the two 16-bit words of the conversion and what follows them. -/
def wireImage (state : MacTimeStateHost) (first second : Nat) (rest : List UInt8) :
    List UInt8 :=
  encode 4 state.macTimeS.toNat ++ (encode 4 state.macTimeNs.toNat ++
    (encode 4 state.meTime.toNat ++ (encode 2 first ++ (encode 2 second ++ rest))))

def withConversion (state : MacTimeStateHost) (mult rshift : Nat) : MacTimeStateHost :=
  { state with convMult := .ofNat mult, convRshift := .ofNat rshift }

private theorem withConversion_eq_iff {state : MacTimeStateHost} {mult rshift : Nat}
    (multBound : mult < 2 ^ 32) (rshiftBound : rshift < 2 ^ 32) :
    withConversion state mult rshift = state ↔
      mult = state.convMult.toNat ∧ rshift = state.convRshift.toNat := by
  constructor
  · intro same
    have mults := congrArg (fun other => other.convMult.toNat) same
    have rshifts := congrArg (fun other => other.convRshift.toNat) same
    simp only [withConversion, UInt32.toNat_ofNat_of_lt' multBound,
      UInt32.toNat_ofNat_of_lt' rshiftBound] at mults rshifts
    exact ⟨mults, rshifts⟩
  · intro same
    rw [same.1, same.2]
    simp [withConversion]

private theorem hasValidConversion_withConversion {state : MacTimeStateHost} {mult rshift : Nat}
    (multBound : mult < 2 ^ 32) (rshiftBound : rshift < 2 ^ 32) :
    HasValidConversion (withConversion state mult rshift) ↔ mult ≠ 0 ∧ rshift < 32 := by
  have zero : UInt32.ofNat mult ≠ 0 ↔ mult ≠ 0 := by
    rw [Ne, ← UInt32.toNat_inj, UInt32.toNat_ofNat_of_lt' multBound]
    rfl
  unfold HasValidConversion withConversion
  rw [zero, UInt32.toNat_ofNat_of_lt' rshiftBound]

section Interpretations

variable {state : MacTimeStateHost} {first second : Nat} {rest : List UInt8}

private theorem field_words (offset width : Nat) :
    field (wireImage state first second rest) (12 + offset) width =
      field (encode 2 first ++ (encode 2 second ++ rest)) offset width := by
  unfold wireImage
  rw [show 12 + offset = 4 + (4 + (4 + offset)) by omega, field_behind, field_behind,
    field_behind]

private theorem field_second (offset width : Nat) :
    field (wireImage state first second rest) (14 + offset) width =
      field (encode 2 second ++ rest) offset width := by
  rw [show 14 + offset = 12 + (2 + offset) by omega, field_words, field_behind]

private theorem field_rest (offset width : Nat) :
    field (wireImage state first second rest) (16 + offset) width = field rest offset width := by
  rw [show 16 + offset = 14 + (2 + offset) by omega, field_second, field_behind]

private theorem length_wireImage :
    (wireImage state first second rest).length = 16 + rest.length := by
  simp only [wireImage, List.length_append, length_encode]
  omega

private theorem take_wireImage (length : Nat) :
    (wireImage state first second rest).take (16 + length) =
      wireImage state first second (rest.take length) := by
  unfold wireImage
  rw [show 16 + length = 4 + (4 + (4 + (2 + (2 + length)))) by omega, take_behind, take_behind,
    take_behind, take_behind, take_behind]

variable (firstBound : first < 2 ^ 16) (secondBound : second < 2 ^ 16)

include firstBound in
private theorem readLe16_first :
    (readLe16 (wireImage state first second rest) 12).toUInt32 = .ofNat first := by
  unfold readLe16
  rw [(field_words 0 2).trans (field_written firstBound _), UInt16.toUInt32_ofNat' firstBound]

include secondBound in
private theorem readLe16_second :
    (readLe16 (wireImage state first second rest) 14).toUInt32 = .ofNat second := by
  unfold readLe16
  rw [(field_second 0 2).trans (field_written secondBound _),
    UInt16.toUInt32_ofNat' secondBound]

include firstBound secondBound

private theorem packedState_wireImage :
    packedState (wireImage state first second rest) = withConversion state first second := by
  have seconds : field (wireImage state first second rest) 0 4 = state.macTimeS.toNat :=
    field_written state.macTimeS.toNat_lt _
  have nanoseconds : field (wireImage state first second rest) 4 4 = state.macTimeNs.toNat := by
    unfold wireImage
    exact (field_behind 4 _ _ 0 4).trans (field_written state.macTimeNs.toNat_lt _)
  have me : field (wireImage state first second rest) 8 4 = state.meTime.toNat := by
    unfold wireImage
    rw [field_behind 4 _ _ 4 4]
    exact (field_behind 4 _ _ 0 4).trans (field_written state.meTime.toNat_lt _)
  unfold packedState withConversion
  rw [readLe16_first firstBound, readLe16_second secondBound]
  unfold readLe32
  rw [seconds, nanoseconds, me]
  simp

private theorem swappedState_wireImage :
    swappedState (wireImage state first second rest) = withConversion state second first := by
  unfold swappedState
  rw [packedState_wireImage firstBound secondBound, readLe16_first firstBound,
    readLe16_second secondBound]
  rfl

private theorem alignedState_wireImage :
    alignedState (wireImage state first second rest) =
      withConversion state (first + 2 ^ 16 * second) (field rest 0 4) := by
  have low : field (wireImage state first second rest) 12 2 = first :=
    (field_words 0 2).trans (field_written firstBound _)
  have high : field (wireImage state first second rest) 14 2 = second :=
    (field_second 0 2).trans (field_written secondBound _)
  have mult : field (wireImage state first second rest) 12 4 = first + 2 ^ 16 * second := by
    have within : 12 + 2 ≤ (wireImage state first second rest).length := by
      rw [length_wireImage]
      omega
    have parts := @field_add _ 12 2 2 within
    rw [low, high] at parts
    exact parts
  unfold alignedState readLe32
  rw [packedState_wireImage firstBound secondBound, mult, field_rest 0 4]
  rfl

/-- Which interpretation is taken, by the two words and the field behind them. -/
private theorem interpret_wireImage (bytesToRead : Nat) :
    interpret bytesToRead (wireImage state first second rest) =
      if first ≠ 0 ∧ second < 32 then withConversion state first second
      else if second ≠ 0 ∧ first < 32 then withConversion state second first
      else if 20 ≤ bytesToRead ∧ first + 2 ^ 16 * second ≠ 0 ∧ field rest 0 4 < 32 then
        withConversion state (first + 2 ^ 16 * second) (field rest 0 4)
      else withConversion state first second := by
  have multBound : first + 2 ^ 16 * second < 2 ^ 32 := by omega
  have rshiftBound : field rest 0 4 < 2 ^ 32 := field_lt rest 0 4
  unfold interpret
  rw [packedState_wireImage firstBound secondBound, swappedState_wireImage firstBound secondBound,
    alignedState_wireImage firstBound secondBound]
  simp only [hasValidConversion_withConversion (show first < 2 ^ 32 by omega)
      (show second < 2 ^ 32 by omega),
    hasValidConversion_withConversion (show second < 2 ^ 32 by omega)
      (show first < 2 ^ 32 by omega),
    hasValidConversion_withConversion multBound rshiftBound]

end Interpretations

/-! ### Decoding what was written -/

/-- Every layout is two words of 16 bits and then what follows them. -/
def Layout.words : Layout → MacTimeStateHost → Nat × Nat
  | .packed, state => (state.convMult.toNat, state.convRshift.toNat)
  | .swapped, state => (state.convRshift.toNat, state.convMult.toNat)
  | .aligned, state => (state.convMult.toNat % 2 ^ 16, state.convMult.toNat / 2 ^ 16)

def Layout.behind : Layout → MacTimeStateHost → List UInt8
  | .packed, _ => []
  | .swapped, _ => []
  | .aligned, state => encode 4 state.convRshift.toNat

namespace Layout

private theorem image_append (layout : Layout) (state : MacTimeStateHost) (rest : List UInt8) :
    layout.image state ++ rest =
      wireImage state (layout.words state).1 (layout.words state).2
        (layout.behind state ++ rest) := by
  cases layout with
  | packed => simp [image, words, behind, wireImage]
  | swapped => simp [image, words, behind, wireImage]
  | aligned =>
      have halves : encode 4 state.convMult.toNat =
          encode 2 (state.convMult.toNat % 2 ^ 16) ++ encode 2 (state.convMult.toNat / 2 ^ 16) :=
        (encode_add 2 2 _).trans
          (congrArg (fun low => low ++ _) (encode_mod 2 state.convMult.toNat).symm)
      simp only [image, words, behind, wireImage, halves, List.append_assoc]

private theorem words_lt {layout : Layout} {state : MacTimeStateHost}
    (represented : layout.Represents state) :
    (layout.words state).1 < 2 ^ 16 ∧ (layout.words state).2 < 2 ^ 16 := by
  have mult := state.convMult.toNat_lt
  cases layout with
  | packed =>
      obtain other | bounds := represented
      · cases other
      · exact bounds
  | swapped =>
      obtain other | bounds := represented
      · cases other
      · exact bounds.symm
  | aligned =>
      constructor
      · exact Nat.mod_lt _ (by norm_num)
      · change state.convMult.toNat / 2 ^ 16 < 2 ^ 16
        omega

end Layout

section Decoding

variable {state : MacTimeStateHost} {rest : List UInt8}

private theorem interpret_packed (represented : Layout.packed.Represents state)
    (valid : HasValidConversion state) (bytesToRead : Nat) :
    interpret bytesToRead
      (wireImage state state.convMult.toNat state.convRshift.toNat rest) = state := by
  have bounds : state.convMult.toNat < 2 ^ 16 ∧ state.convRshift.toNat < 2 ^ 16 :=
    Layout.words_lt represented
  have accepted : state.convMult.toNat ≠ 0 ∧ state.convRshift.toNat < 32 :=
    ⟨fun zero => valid.1 (UInt32.toNat_inj.mp zero), valid.2⟩
  rw [interpret_wireImage bounds.1 bounds.2, if_pos accepted,
    withConversion_eq_iff state.convMult.toNat_lt state.convRshift.toNat_lt]
  exact ⟨rfl, rfl⟩

/-- The words in the other order are taken as packed when the multiplier could be a shift. -/
private theorem interpret_swapped_iff (represented : Layout.swapped.Represents state)
    (valid : HasValidConversion state) (bytesToRead : Nat) :
    interpret bytesToRead
        (wireImage state state.convRshift.toNat state.convMult.toNat rest) = state ↔
      state.convRshift.toNat = 0 ∨ 32 ≤ state.convMult.toNat ∨
        state.convMult.toNat = state.convRshift.toNat := by
  have bounds : state.convRshift.toNat < 2 ^ 16 ∧ state.convMult.toNat < 2 ^ 16 :=
    Layout.words_lt represented
  have accepted : state.convMult.toNat ≠ 0 ∧ state.convRshift.toNat < 32 :=
    ⟨fun zero => valid.1 (UInt32.toNat_inj.mp zero), valid.2⟩
  rw [interpret_wireImage bounds.1 bounds.2]
  by_cases mistaken : state.convRshift.toNat ≠ 0 ∧ state.convMult.toNat < 32
  · rw [if_pos mistaken, withConversion_eq_iff state.convRshift.toNat_lt state.convMult.toNat_lt]
    omega
  · rw [if_neg mistaken, if_pos accepted,
      withConversion_eq_iff state.convMult.toNat_lt state.convRshift.toNat_lt]
    omega

/-- The 32-bit multiplier has to look like neither pair of words, unless the packed reading
of it loses nothing. -/
private theorem interpret_aligned_iff (valid : HasValidConversion state) {bytesToRead : Nat}
    (whole : 20 ≤ bytesToRead) (behind : field rest 0 4 = state.convRshift.toNat) :
    interpret bytesToRead
        (wireImage state (state.convMult.toNat % 2 ^ 16) (state.convMult.toNat / 2 ^ 16) rest) =
          state ↔
      (state.convMult.toNat < 2 ^ 16 ∧ state.convRshift.toNat = 0) ∨
        (2 ^ 21 ≤ state.convMult.toNat ∧ 32 ≤ state.convMult.toNat % 2 ^ 16) := by
  have multBound := state.convMult.toNat_lt
  have nonzero : state.convMult.toNat ≠ 0 := fun zero => valid.1 (UInt32.toNat_inj.mp zero)
  have shift : state.convRshift.toNat < 32 := valid.2
  have joined : state.convMult.toNat % 2 ^ 16 + 2 ^ 16 * (state.convMult.toNat / 2 ^ 16) =
      state.convMult.toNat := Nat.mod_add_div _ _
  have lowBound : state.convMult.toNat % 2 ^ 16 < 2 ^ 16 := Nat.mod_lt _ (by norm_num)
  have highBound : state.convMult.toNat / 2 ^ 16 < 2 ^ 16 := by omega
  rw [interpret_wireImage lowBound highBound, behind, joined]
  generalize state.convMult.toNat % 2 ^ 16 = low at *
  generalize state.convMult.toNat / 2 ^ 16 = high at *
  by_cases packed : low ≠ 0 ∧ high < 32
  · rw [if_pos packed, withConversion_eq_iff (by omega) (by omega)]
    omega
  · rw [if_neg packed]
    by_cases swapped : high ≠ 0 ∧ low < 32
    · rw [if_pos swapped, withConversion_eq_iff (by omega) (by omega)]
      omega
    · rw [if_neg swapped, if_pos ⟨whole, nonzero, shift⟩,
        withConversion_eq_iff multBound (by omega)]
      omega

end Decoding

/-- A read of the image a layout writes gives back the state if and only if no earlier
interpretation explains the image differently. -/
theorem readRaw_image_iff {layout : Layout} {state : MacTimeStateHost} {symbol : MacTimeSymbol}
    {rest : List UInt8} (represented : layout.Represents state)
    (valid : HasValidConversion state) (fits : layout.length ≤ symbol.bytesToRead)
    (enough : symbol.bytesToRead ≤ (layout.image state ++ rest).length) :
    readRaw symbol (areaOver (layout.image state ++ rest)) = .ok state ↔
      layout.Unmistakable state := by
  obtain ⟨more, length⟩ : ∃ more, symbol.bytesToRead = 16 + more := by
    apply Nat.exists_eq_add_of_le
    cases layout <;> exact le_trans (by decide) fits
  have lengths := symbol.bytesToRead_cases
  rw [readRaw_areaOver enough, Except.ok.injEq, layout.image_append, length, take_wireImage]
  rw [length] at fits lengths
  cases layout with
  | packed => exact iff_of_true (interpret_packed represented valid _) trivial
  | swapped => exact interpret_swapped_iff represented valid _
  | aligned =>
      have four : more = 4 := by
        change 20 ≤ 16 + more at fits
        omega
      subst four
      have shift : field ((encode 4 state.convRshift.toNat ++ rest).take 4) 0 4 =
          state.convRshift.toNat := by
        rw [take_behind 4 _ rest 0]
        exact field_written state.convRshift.toNat_lt _
      exact interpret_aligned_iff valid le_rfl shift

def wholeSymbol : MacTimeSymbol := ⟨20, Or.inr (by decide)⟩

def stateOf (mult rshift : UInt32) : MacTimeStateHost := ⟨100, 5, 7, mult, rshift⟩

/-- A 32-bit multiplier large enough in both halves. -/
theorem readRaw_image_wide :
    readRaw wholeSymbol (areaOver (Layout.aligned.image (stateOf 2097184 4) ++ [])) =
      .ok (stateOf 2097184 4) :=
  (readRaw_image_iff (Or.inl rfl) (by decide) (by decide) (by decide)).mpr (by decide)

/-- A small 32-bit multiplier loses its shift, and small exchanged words are exchanged. -/
theorem images_misread :
    (HasValidConversion (stateOf 25 4) ∧ Layout.aligned.Represents (stateOf 25 4) ∧
      readRaw wholeSymbol (areaOver (Layout.aligned.image (stateOf 25 4))) =
        .ok (stateOf 25 0)) ∧
    (HasValidConversion (stateOf 25 4) ∧ Layout.swapped.Represents (stateOf 25 4) ∧
      readRaw ⟨16, Or.inr le_rfl⟩ (areaOver (Layout.swapped.image (stateOf 25 4))) =
        .ok (stateOf 4 25)) ∧
    stateOf 25 0 ≠ stateOf 25 4 ∧ stateOf 4 25 ≠ stateOf 25 4 := by
  refine ⟨⟨by decide, Or.inl rfl, ?_⟩, ⟨by decide, Or.inr (by decide), ?_⟩, by decide, by decide⟩
  · decide
  · decide

end SflowMiddle.Clock

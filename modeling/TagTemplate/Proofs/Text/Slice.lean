import TagTemplate.Text.Bytes

/-! Slices of a text between byte positions, which exist only between whole characters. -/

namespace TagTemplate.Text

/-- Whether a byte position lies between two characters of a text or at one of its ends. -/
def Boundary (text : String) (position : Nat) : Prop :=
  (⟨position⟩ : String.Pos.Raw).IsValid text

instance (text : String) (position : Nat) : Decidable (Boundary text position) :=
  inferInstanceAs (Decidable ((⟨position⟩ : String.Pos.Raw).IsValid text))

/-- The part of a text between two byte positions, if both are boundaries in this order. -/
def slice? (text : String) (start stop : Nat) : Option String :=
  if inside : Boundary text start ∧ Boundary text stop ∧ start ≤ stop then
    some (text.extract (text.pos ⟨start⟩ inside.1) (text.pos ⟨stop⟩ inside.2.1))
  -- Cutting through a character, or from back to front, is what would break a reader of slices.
  else none

/-- Where one part of a text ends and the rest begins is a boundary. -/
theorem boundary_append (front back : String) : Boundary (front ++ back) front.utf8ByteSize :=
  String.Pos.Raw.isValid_rawEndPos.append_right back

/-- The start of a text is a boundary. -/
theorem boundary_zero (text : String) : Boundary text 0 :=
  String.Pos.Raw.isValid_zero

/-- The end of a text is a boundary. -/
theorem boundary_end (text : String) : Boundary text text.utf8ByteSize :=
  String.Pos.Raw.isValid_rawEndPos

/-- The boundaries of a text are the sizes of what can stand at its front. -/
theorem boundary_iff {text : String} {position : Nat} :
    Boundary text position ↔
      ∃ front back, text = front ++ back ∧ front.utf8ByteSize = position := by
  constructor
  · -- A valid position splits the text into what is before it and what is behind it.
    intro valid
    have splits := (text.pos ⟨position⟩ valid).splits
    have offset := congrArg String.Pos.Raw.byteIdx splits.offset_eq_rawEndPos
    exact ⟨_, _, splits.eq_append, offset.symm⟩
  · rintro ⟨front, back, rfl, rfl⟩
    exact boundary_append front back

/-- No boundary lies beyond the end of a text. -/
theorem Boundary.le {text : String} {position : Nat} (boundary : Boundary text position) :
    position ≤ text.utf8ByteSize := by
  -- The text goes on behind the boundary, or ends there.
  obtain ⟨front, back, rfl, rfl⟩ := boundary_iff.mp boundary
  simp

/-- The part between two others is the slice between their boundaries. -/
theorem slice?_append (front raw back : String) :
    slice? (front ++ raw ++ back) front.utf8ByteSize (front.utf8ByteSize + raw.utf8ByteSize) =
      some raw := by
  have start : Boundary (front ++ raw ++ back) front.utf8ByteSize := by
    rw [String.append_assoc]
    exact boundary_append front (raw ++ back)
  have stop : Boundary (front ++ raw ++ back) (front.utf8ByteSize + raw.utf8ByteSize) := by
    rw [← String.utf8ByteSize_append]
    exact boundary_append (front ++ raw) back
  -- The bytes of the three parts follow each other, so those in the middle are the bytes of `raw`.
  have bytes : (front ++ raw ++ back).toByteArray.extract front.utf8ByteSize
      (front.utf8ByteSize + raw.utf8ByteSize) = raw.toByteArray := by
    have behind := ByteArray.extract_append_size_add (a := front.toByteArray)
      (b := raw.toByteArray ++ back.toByteArray) (i := 0) (j := raw.utf8ByteSize)
    rw [Nat.add_zero, ByteArray.extract_append_eq_left String.size_toByteArray.symm] at behind
    rw [String.append_assoc, String.toByteArray_append, String.toByteArray_append]
    exact behind
  rw [slice?, dif_pos ⟨start, stop, by omega⟩, Option.some.injEq, ← String.toByteArray_inj]
  exact bytes

/-- A slice of a text is what stands between a front and a back of it. -/
theorem slice?_eq_some_iff {text raw : String} {start stop : Nat} :
    slice? text start stop = some raw ↔
      ∃ front back, text = front ++ raw ++ back ∧ front.utf8ByteSize = start ∧
        start + raw.utf8ByteSize = stop := by
  constructor
  · intro sliced
    by_cases inside : Boundary text start ∧ Boundary text stop ∧ start ≤ stop
    · obtain ⟨startValid, stopValid, ordered⟩ := inside
      -- Both positions split the text, and the first one splits the front of the second.
      have first := (text.pos ⟨start⟩ startValid).splits
      have second := (text.pos ⟨stop⟩ stopValid).splits
      obtain ⟨between, whole, _⟩ := (first.le_iff_exists_eq_append second).mp ordered
      have startSize := congrArg String.Pos.Raw.byteIdx first.offset_eq_rawEndPos
      have stopSize := congrArg String.Pos.Raw.byteIdx second.offset_eq_rawEndPos
      have same := second.eq_append
      rw [whole] at same stopSize
      generalize (text.sliceTo (text.pos ⟨start⟩ startValid)).copy = front at *
      generalize (text.sliceFrom (text.pos ⟨stop⟩ stopValid)).copy = back at *
      change start = front.utf8ByteSize at startSize
      change stop = (front ++ between).utf8ByteSize at stopSize
      rw [String.utf8ByteSize_append] at stopSize
      subst startSize stopSize
      -- What stands between the two positions is therefore the slice.
      have cut := slice?_append front between back
      rw [← same, sliced, Option.some.injEq] at cut
      subst cut
      exact ⟨front, back, same, rfl, rfl⟩
    · simp [slice?, inside] at sliced
  · rintro ⟨front, back, rfl, rfl, rfl⟩
    exact slice?_append front raw back

/-- The whole text is the slice between its ends. -/
theorem slice?_whole (text : String) : slice? text 0 text.utf8ByteSize = some text :=
  slice?_eq_some_iff.mpr ⟨"", "", by simp, by simp, by simp⟩

/-- Between a boundary and itself there is the empty slice. -/
theorem slice?_self {text : String} {position : Nat} (boundary : Boundary text position) :
    slice? text position position = some "" := by
  -- Nothing stands between the front and the back.
  obtain ⟨front, back, rfl, rfl⟩ := boundary_iff.mp boundary
  simpa using slice?_append front "" back

/-- A text has one front of each size. -/
theorem eq_of_append_eq_append {front back left right : String}
    (same : front ++ back = left ++ right) (size : front.utf8ByteSize = left.utf8ByteSize) :
    front = left ∧ back = right := by
  -- Both fronts are the slice between the same two positions.
  have one := slice?_append "" front back
  have other := slice?_append "" left right
  simp only [String.empty_append, String.utf8ByteSize_empty, Nat.zero_add] at one other
  rw [same, size, other, Option.some.injEq] at one
  subst one
  exact ⟨rfl, String.append_right_inj _ |>.mp same⟩

/-- Two adjacent slices make up one. -/
theorem slice?_trans {text left right : String} {start middle stop : Nat}
    (first : slice? text start middle = some left)
    (second : slice? text middle stop = some right) :
    slice? text start stop = some (left ++ right) := by
  -- The two splits of the text agree at the middle, because fronts of one size are the same.
  obtain ⟨front, back, rfl, rfl, rfl⟩ := slice?_eq_some_iff.mp first
  obtain ⟨whole, rest, same, size, rfl⟩ := slice?_eq_some_iff.mp second
  obtain ⟨rfl, rfl⟩ := eq_of_append_eq_append (same.trans String.append_assoc) (by simp [size])
  rw [slice?_eq_some_iff]
  exact ⟨front, rest, by simp only [String.append_assoc], rfl, by simp; omega⟩

/-- A slice lies between two boundaries, of which it tells the distance. -/
theorem boundary_of_slice? {text raw : String} {start stop : Nat}
    (sliced : slice? text start stop = some raw) :
    Boundary text start ∧ Boundary text stop ∧ start + raw.utf8ByteSize = stop := by
  -- Both ends of the slice are where some front of the text ends.
  obtain ⟨front, back, rfl, rfl, rfl⟩ := slice?_eq_some_iff.mp sliced
  refine ⟨?_, ?_, rfl⟩
  · exact boundary_iff.mpr ⟨front, raw ++ back, String.append_assoc, rfl⟩
  · exact boundary_iff.mpr ⟨front ++ raw, back, rfl, by simp⟩

/-- The number of bytes of some characters. -/
def bytes (text : List Char) : Nat :=
  (String.ofList text).utf8ByteSize

/-- No characters take no bytes. -/
@[simp] theorem bytes_nil : bytes [] = 0 :=
  rfl

/-- The bytes of two parts add up. -/
@[simp] theorem bytes_append (left right : List Char) :
    bytes (left ++ right) = bytes left + bytes right := by
  rw [bytes, String.ofList_append, String.utf8ByteSize_append, bytes, bytes]

/-- Only no characters take no bytes. -/
theorem bytes_pos {text : List Char} (filled : text ≠ []) : 0 < bytes text := by
  rw [Nat.pos_iff_ne_zero, bytes, Ne, String.utf8ByteSize_eq_zero_iff, String.ofList_eq_empty_iff]
  exact filled

/-- The characters between two others are the slice between their boundaries. -/
theorem slice?_ofList (front raw back : List Char) :
    slice? (String.ofList (front ++ raw ++ back)) (bytes front) (bytes front + bytes raw) =
      some (String.ofList raw) := by
  rw [String.ofList_append, String.ofList_append]
  exact slice?_append _ _ _

/-- Between two boundaries in order there is a slice. -/
theorem exists_slice? {text : String} {start stop : Nat} (startValid : Boundary text start)
    (stopValid : Boundary text stop) (ordered : start ≤ stop) :
    ∃ raw, slice? text start stop = some raw :=
  ⟨_, dif_pos ⟨startValid, stopValid, ordered⟩⟩

/-- A boundary inside a slice is a boundary of the whole text. -/
theorem Boundary.shift {text raw : String} {start stop position : Nat}
    (sliced : slice? text start stop = some raw) (boundary : Boundary raw position) :
    Boundary text (start + position) := by
  -- A front of the slice stands behind the front of the text, and makes it longer.
  obtain ⟨front, back, rfl, rfl, rfl⟩ := slice?_eq_some_iff.mp sliced
  obtain ⟨left, right, rfl, rfl⟩ := boundary_iff.mp boundary
  rw [boundary_iff]
  exact ⟨front ++ left, right ++ back, by simp only [String.append_assoc], by simp⟩

end TagTemplate.Text

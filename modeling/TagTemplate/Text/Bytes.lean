/-! Places in a text, counted in bytes of its encoding. -/

namespace TagTemplate.Text

/-- The characters that make up the first `count` bytes, if a character ends there. -/
def takeBytes? : (count : Nat) → List Char → Option (List Char)
  | 0, _ => some []
  | _ + 1, [] => none
  | count + 1, c :: text =>
    -- A count that ends inside the encoding of a character marks no place.
    if c.utf8Size ≤ count + 1 then (takeBytes? (count + 1 - c.utf8Size) text).map (c :: ·) else none

/-- As many bytes as a text has at the front make up that text. -/
theorem takeBytes?_append (front back : List Char) :
    takeBytes? (String.ofList front).utf8ByteSize (front ++ back) = some front := by
  induction front with
  | nil => simp [takeBytes?]
  | cons c front ih =>
    have whole : (String.ofList (c :: front)).utf8ByteSize =
        c.utf8Size + (String.ofList front).utf8ByteSize := by
      simp [String.ofList_cons, String.utf8ByteSize_append]
    rw [whole]
    generalize (String.ofList front).utf8ByteSize = size at *
    -- A character takes at least one byte, so the count is a successor and goes down by its size.
    have pos := c.utf8Size_pos
    obtain ⟨count, succ⟩ : ∃ count, c.utf8Size + size = count + 1 :=
      ⟨c.utf8Size + size - 1, by omega⟩
    have left : count + 1 - c.utf8Size = size := by omega
    rw [List.cons_append, succ, takeBytes?, if_pos (by omega)]
    simp [left, ih]

/-- A line of a text and a column in it, both counted from one. -/
structure Place where
  line : Nat
  column : Nat
  deriving DecidableEq

/-- The place right after a text. -/
def placeAfter (text : List Char) : Place :=
  -- Lines end with a newline, which belongs to the line that it ends.
  ⟨text.count '\n' + 1, (text.reverse.takeWhile (· != '\n')).length + 1⟩

end TagTemplate.Text

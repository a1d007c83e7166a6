/-! Sets of characters as ascending ranges of code points. -/

namespace TagTemplate.Unicode

/-- Ranges of code points, both ends included, in ascending order. -/
abbrev Ranges := List (Nat × Nat)

/-- Whether a code point lies in one of the ranges; the search stops at the first range above it. -/
def Ranges.holds (code : Nat) : Ranges → Bool
  | [] => false
  | (low, high) :: rest => if code < low then false else code ≤ high || Ranges.holds code rest

/-- Whether a character lies in one of the ranges. -/
def Ranges.contains (ranges : Ranges) (c : Char) : Bool :=
  ranges.holds c.toNat

end TagTemplate.Unicode

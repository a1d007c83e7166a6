import TagTemplate.Number.Rounding

/-! Numbers of double precision, as their sixty-four bits. -/

namespace TagTemplate

/-- A number of double precision: a sign, eleven bits of exponent and fifty-two of fraction. -/
structure Binary64 where
  bits : UInt64
  deriving DecidableEq

namespace Binary64

/-- The bits without the sign. -/
def magnitude (x : Binary64) : Nat :=
  x.bits.toNat % Nat.pow 2 63

/-- Whether the sign bit is set. -/
def isNegative (x : Binary64) : Bool :=
  Nat.pow 2 63 ≤ x.bits.toNat

/-- The magnitude of the infinities. -/
def infinityMagnitude : Nat :=
  2047 * Nat.pow 2 52

/-- Whether the bits stand for no number. -/
def isNaN (x : Binary64) : Bool :=
  infinityMagnitude < x.magnitude

/-- Whether the number is infinite. -/
def isInfinite (x : Binary64) : Bool :=
  x.magnitude == infinityMagnitude

/-- Whether the number is zero, of either sign. -/
def isZero (x : Binary64) : Bool :=
  x.magnitude == 0

/-- The number of a sign and a magnitude. -/
def ofMagnitude (negative : Bool) (magnitude : Nat) : Binary64 :=
  ⟨(if negative then magnitude + Nat.pow 2 63 else magnitude).toUInt64⟩

/-- The zero of a sign. -/
def zero (negative : Bool) : Binary64 :=
  ofMagnitude negative 0

/-- The absolute value of a finite number as a multiple of a power of two. -/
def parts (x : Binary64) : Nat × Int :=
  let field : Nat := x.magnitude / Nat.pow 2 52
  let fraction : Nat := x.magnitude % Nat.pow 2 52
  -- The smallest numbers lack the leading digit that all others leave unwritten.
  if field = 0 then (fraction, -1074) else (fraction + Nat.pow 2 52, field - 1075)

/-- The magnitude of a rounded number; too large ones become infinite. -/
def magnitudeOf (significand : Nat) (exponent : Int) : Nat :=
  -- A significand that was rounded up to the next power of two carries into the exponent.
  if significand < Nat.pow 2 52 then significand
  else
    min infinityMagnitude
      ((exponent + 1075).toNat * Nat.pow 2 52 + (significand - Nat.pow 2 52))

/-- The number nearest to `num / den`. -/
def ofQuotient (negative : Bool) (num den : Nat) : Binary64 :=
  if num = 0 then zero negative
  else
    let (significand, exponent) := BinaryFormat.double.round num den
    ofMagnitude negative (magnitudeOf significand exponent)

/-- The number nearest to an integer. -/
def ofInt (value : Int) : Binary64 :=
  ofQuotient (value < 0) value.natAbs 1

/-- The absolute value of a finite number as a quotient. -/
def quotient (x : Binary64) : Nat × Nat :=
  let (significand, exponent) := x.parts
  (significand * Nat.pow 2 exponent.toNat, Nat.pow 2 (-exponent).toNat)

/-- The product of two finite numbers. -/
def mul (x y : Binary64) : Binary64 :=
  ofQuotient (x.isNegative != y.isNegative) (x.quotient.1 * y.quotient.1)
    (x.quotient.2 * y.quotient.2)

/-- The quotient of a finite number by a finite one other than zero. -/
def div (x y : Binary64) : Binary64 :=
  ofQuotient (x.isNegative != y.isNegative) (x.quotient.1 * y.quotient.2)
    (x.quotient.2 * y.quotient.1)

/-- Whether two numbers are equal as numbers: the zeros are, and a NaN equals nothing. -/
def same (x y : Binary64) : Bool :=
  !x.isNaN && !y.isNaN && (x.bits == y.bits || (x.isZero && y.isZero))

/-- The bits as a word whose order is that of the numbers. -/
def orderKey (x : Binary64) : UInt64 :=
  -- Negative numbers grow downwards and lie below all others.
  if x.isNegative then ~~~x.bits else x.bits ^^^ 0x8000000000000000

/-- Whether two numbers are equal, or at most `steps` apart in the order of their bits, which is a
circle. -/
def near (steps : UInt64) (x y : Binary64) : Bool :=
  x.same y || x.orderKey - y.orderKey ≤ steps || y.orderKey - x.orderKey ≤ steps

end Binary64

end TagTemplate

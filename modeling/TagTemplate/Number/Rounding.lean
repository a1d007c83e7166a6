/-! Rounding of quotients to a fixed number of binary digits. -/

namespace TagTemplate

/-- The natural number nearest to `num / den`; a half goes to the even neighbour. -/
def nearestNat (num den : Nat) : Nat :=
  -- The rest decides, compared with half of the divisor.
  let quotient := num / den
  let twice := 2 * (num % den)
  if twice < den then quotient
  else if den < twice then quotient + 1
  else quotient + quotient % 2

/-- The rounded quotient is at most half a unit away from the exact one. -/
theorem nearestNat_near {num den : Nat} (pos : 0 < den) :
    2 * (nearestNat num den * den) ≤ 2 * num + den ∧
      2 * num ≤ 2 * (nearestNat num den * den) + den := by
  have split := Nat.div_add_mod num den
  have small := Nat.mod_lt num pos
  simp only [nearestNat]
  generalize num / den = quotient at *
  generalize num % den = rest at *
  have swap : quotient * den = den * quotient := Nat.mul_comm ..
  -- Below half the quotient stays and above half it grows; at half either one is as near.
  split
  · omega
  · split
    · rw [Nat.add_mul]; omega
    · rcases Nat.mod_two_eq_zero_or_one quotient with even | odd
      · rw [even, Nat.add_zero]; omega
      · rw [odd, Nat.add_mul]; omega

/-- A binary format: how many digits a number has, and the exponent of the last place of the
smallest ones. -/
structure BinaryFormat where
  digits : Nat
  lowest : Int

namespace BinaryFormat

/-- The format of double precision. -/
def double : BinaryFormat :=
  ⟨53, -1074⟩

/-- The quotient `num / (den * 2 ^ exponent)` as numerator and denominator. -/
def scaled (num den : Nat) (exponent : Int) : Nat × Nat :=
  (num * Nat.pow 2 (-exponent).toNat, den * Nat.pow 2 exponent.toNat)

/-- The exponent of the last place in which `num / den` is written. -/
def exponent (format : BinaryFormat) (num den : Nat) : Int :=
  -- The difference of the binary lengths is the exponent or one less than it.
  let guess : Int := max ((num.log2 : Int) - den.log2 - format.digits) format.lowest
  let (num, den) := scaled num den guess
  if num / den < Nat.pow 2 format.digits then guess else guess + 1

/-- The nearest number of the format to `num / den`, as a multiple of a power of two. -/
def round (format : BinaryFormat) (num den : Nat) : Nat × Int :=
  let exponent := format.exponent num den
  let (num, den) := scaled num den exponent
  (nearestNat num den, exponent)

end BinaryFormat

end TagTemplate

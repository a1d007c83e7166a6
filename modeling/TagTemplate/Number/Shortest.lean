import TagTemplate.Number.Binary64

/-! The shortest decimal digits that read back to a number. -/

namespace TagTemplate

/-- Decimal digits with a place for the point: `0.d₁d₂…` times ten to the power `point`. -/
structure DecimalDigits where
  digits : List Char
  point : Int
  deriving DecidableEq

/-- What is done with a number halfway between two candidates of equal length. -/
inductive Tie where
  /-- The candidate with an even last digit is taken. -/
  | even
  /-- The larger candidate is taken. -/
  | up
  deriving DecidableEq

namespace Binary64

/-- The numbers that read back to a finite number other than zero: from `low / den` to `high / den`,
with the number itself at `mid / den`; the ends belong to it if `closed`. -/
structure Interval where
  low : Nat
  mid : Nat
  high : Nat
  den : Nat
  closed : Bool

/-- The interval around the absolute value of a number. Below a power of two the neighbour is
nearer. -/
def interval (x : Binary64) : Interval :=
  let (significand, exponent) := x.parts
  let scale := Nat.pow 2 exponent.toNat
  -- All bounds are multiples of a quarter of the last place.
  let below := if significand = Nat.pow 2 52 ∧ exponent ≠ -1074 then 1 else 2
  ⟨(4 * significand - below) * scale, 4 * significand * scale, (4 * significand + 2) * scale,
    4 * Nat.pow 2 (-exponent).toNat, significand % 2 == 0⟩

namespace Interval

/-- Whether `value / den` lies in the interval. -/
def holds (interval : Interval) (value : Nat) : Bool :=
  if interval.closed then interval.low ≤ value && value ≤ interval.high
  else interval.low < value && value < interval.high

/-- The interval in units of ten to the power `place`. -/
def atPlace (interval : Interval) (place : Int) : Interval :=
  let scale := Nat.pow 10 (-place).toNat
  ⟨interval.low * scale, interval.mid * scale, interval.high * scale,
    interval.den * Nat.pow 10 place.toNat, interval.closed⟩

/-- The whole number of the interval that is nearest to its middle, if there is one. -/
def whole? (interval : Interval) (tie : Tie) : Option Nat :=
  -- Only the two whole numbers next to the middle can be the nearest one.
  let floor := interval.mid / interval.den
  let below := interval.mid - floor * interval.den
  let above := interval.den - below
  match interval.holds (floor * interval.den), interval.holds ((floor + 1) * interval.den) with
  | false, false => none
  | true, false => some floor
  | false, true => some (floor + 1)
  | true, true =>
    if below < above then some floor
    else if above < below then some (floor + 1)
    else match tie with
      | .even => some (floor + floor % 2)
      | .up => some (floor + 1)

/-- The coarsest place at or below `place` that has a number in the interval, with that number. -/
def coarsest (interval : Interval) (tie : Tie) : (fuel : Nat) → (place : Int) → Nat × Int
  | 0, place => (0, place)
  | fuel + 1, place =>
    match (interval.atPlace place).whole? tie with
    | some value => (value, place)
    | none => interval.coarsest tie fuel (place - 1)

end Interval

/-- The shortest digits that read back to a finite number other than zero, and of those the nearest
to it. The search starts above the first digit; doubles never need more than seventeen places. -/
def shortest (x : Binary64) (tie : Tie) : DecimalDigits :=
  let interval := x.interval
  -- The quotient of the logarithms of two and ten is a little less than 0.30103.
  let start : Int := ((interval.mid.log2 : Int) - interval.den.log2 + 1) * 30103 / 100000 + 2
  let (value, place) := interval.coarsest tie 24 start
  let digits := Nat.toDigits 10 value
  ⟨digits, digits.length + place⟩

end Binary64

namespace DecimalDigits

/-- The digits without an exponent: zeros fill the places up to the point, and a point with at least
`places` digits after it is written if any are. -/
def positional (decimal : DecimalDigits) (places : Nat) : String :=
  let ⟨digits, point⟩ := decimal
  let zeros (count : Int) := List.replicate count.toNat '0'
  -- The point may stand before, among or after the digits.
  let whole := if point ≤ 0 then ['0'] else digits.take point.toNat ++ zeros (point - digits.length)
  let fraction := zeros (-point) ++ digits.drop point.toNat
  let fraction := fraction ++ List.replicate (places - fraction.length) '0'
  String.ofList <| if fraction.isEmpty then whole else whole ++ '.' :: fraction

/-- The digits with one of them before the point, and an exponent. -/
def scientific (decimal : DecimalDigits) : String :=
  let exponent := toString (decimal.point - 1)
  match decimal.digits with
  | [] => "0"
  | [digit] => String.ofList [digit] ++ "e" ++ exponent
  | digit :: rest => String.ofList (digit :: '.' :: rest) ++ "e" ++ exponent

end DecimalDigits

end TagTemplate

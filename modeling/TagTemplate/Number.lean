import TagTemplate.Number.Shortest

/-! Numbers in a context. -/

namespace TagTemplate

/-- A number: an integer of a machine word or one of double precision. -/
inductive Number where
  | int (value : Int64)
  | float (value : Binary64)
  deriving DecidableEq

namespace Number

/-- The number in double precision. -/
def toBinary64 : Number → Binary64
  | int value => .ofInt value.toInt
  | float value => value

/-- Whether two numbers count as equal: integers if they are the same, and otherwise if they are at
most two steps apart in double precision. -/
def same : Number → Number → Bool
  | int left, int right => left == right
  | left, right => left.toBinary64.near 2 right.toBinary64

/-- The number in decimal form, never with an exponent. -/
def display : Number → String
  | int value => toString value.toInt
  | float value =>
    let sign := if value.isNegative then "-" else ""
    if value.isNaN then "NaN"
    else if value.isInfinite then sign ++ "Infinity"
    -- Zero is shown without its sign.
    else if value.isZero then "0"
    else sign ++ (value.shortest .up).positional 0

end Number

end TagTemplate

import TagTemplate.Json
import TagTemplate.Text.Hex

/-! Reading JSON text. -/

namespace TagTemplate

/-- Why a text is not JSON. -/
inductive JsonError where
  | unfinished
  | unexpected (c : Char)
  | tooDeep
  | outOfRange
  | invalidEscape
  deriving DecidableEq

/-- The reason in words. -/
def JsonError.reason : JsonError → String
  | unfinished => "the text ends too early"
  | unexpected c => s!"the character '{c}' is out of place"
  | tooDeep => "the text is nested too deeply"
  | outOfRange => "a number is out of range"
  | invalidEscape => "an escape is not valid"

namespace Json

/-- The error at the front of a text. -/
def misplaced {α : Type} : List Char → Except JsonError α
  | [] => .error .unfinished
  | c :: _ => .error (.unexpected c)

/-- The text after white space. -/
def skipBlank (text : List Char) : List Char :=
  text.dropWhile fun c => c == ' ' || c == '\n' || c == '\t' || c == '\r'

/-- The value of four hexadecimal digits. -/
def readCode : List Char → Except JsonError (Nat × List Char)
  | a :: b :: c :: d :: rest =>
    match Text.hexValue? [a, b, c, d] with
    | some code => .ok (code, rest)
    | none => .error .invalidEscape
  | _ => .error .unfinished

/-- Reads the character of a code; one beyond the first plane is written as two codes. -/
def readCodedChar (text : List Char) : Except JsonError (Char × List Char) := do
  let (high, rest) ← readCode text
  if 0xDC00 ≤ high ∧ high ≤ 0xDFFF then .error .invalidEscape
  -- A code outside the surrogates is a character by itself.
  if high < 0xD800 ∨ 0xDBFF < high then return (Char.ofNat high, rest)
  match rest with
  | '\\' :: 'u' :: rest =>
    let (low, rest) ← readCode rest
    if low < 0xDC00 ∨ 0xDFFF < low then .error .invalidEscape
    return (Char.ofNat (0x10000 + (high - 0xD800) * 0x400 + (low - 0xDC00)), rest)
  | _ => .error .invalidEscape

/-- Reads a string after its opening quote. -/
def readText : (fuel : Nat) → List Char → Except JsonError (List Char × List Char)
  | 0, _ => .error .unfinished
  | _, [] => .error .unfinished
  | fuel + 1, c :: rest => do
    if c == '"' then return ([], rest)
    if c < ' ' then .error (.unexpected c)
    let (c, rest) ←
      if c != '\\' then .ok (c, rest)
      else match rest with
        | '"' :: rest => .ok ('"', rest)
        | '\\' :: rest => .ok ('\\', rest)
        | '/' :: rest => .ok ('/', rest)
        | 'b' :: rest => .ok ('\x08', rest)
        | 'f' :: rest => .ok ('\x0C', rest)
        | 'n' :: rest => .ok ('\n', rest)
        | 'r' :: rest => .ok ('\r', rest)
        | 't' :: rest => .ok ('\t', rest)
        | 'u' :: rest => readCodedChar rest
        | [] => .error .unfinished
        | _ => .error .invalidEscape
    let (text, rest) ← readText fuel rest
    return (c :: text, rest)

/-- Digits taken into a significand of a machine word, and how many were left out: once a digit does
not fit, no later one is taken. -/
def significand : (value : Nat) → List Char → Nat × Nat
  | value, [] => (value, 0)
  | value, c :: digits =>
    let next := 10 * value + (c.toNat - '0'.toNat)
    if next < UInt64.size then significand next digits else (value, digits.length + 1)

/-- The number of a significand and a power of ten. The significand and the power are rounded first,
then their product or quotient. -/
def floatOf (negative : Bool) (value : Nat) (exponent : Int) : Except JsonError Binary64 :=
  let start := Binary64.ofQuotient negative value 1
  let power (count : Nat) := Binary64.ofQuotient false (Nat.pow 10 count) 1
  if value = 0 then .ok start
  else if 0 ≤ exponent then
    if 308 < exponent then .error .outOfRange
    else
      let result := start.mul (power exponent.toNat)
      if result.isInfinite then .error .outOfRange else .ok result
  else
    -- Powers beyond 308 have no number of their own, so the quotient is taken in steps.
    let count := (-exponent).toNat
    let shrink (x : Binary64) := x.div (power 308)
    if count ≤ 308 then .ok (start.div (power count))
    else if count ≤ 616 then .ok ((shrink start).div (power (count - 308)))
    else if count ≤ 924 then .ok ((shrink (shrink start)).div (power (count - 616)))
    else .ok (.zero negative)

/-- Reads the exponent of a number, if there is one. -/
def readExponent (text : List Char) : Except JsonError (Option Int × List Char) :=
  let after (rest : List Char) : Except JsonError (Option Int × List Char) :=
    let (negative, rest) := match rest with
      | '-' :: rest => (true, rest)
      | '+' :: rest => (false, rest)
      | rest => (false, rest)
    let digits := rest.takeWhile Char.isDigit
    let value : Int := Nat.ofDigitChars 10 digits 0
    if digits.isEmpty then misplaced rest
    else .ok (some (if negative then -value else value), rest.dropWhile Char.isDigit)
  match text with
  | 'e' :: rest => after rest
  | 'E' :: rest => after rest
  | _ => .ok (none, text)

/-- Reads a number after its sign. -/
def readNumber (negative : Bool) (text : List Char) : Except JsonError (Json × List Char) := do
  let whole := text.takeWhile Char.isDigit
  let rest := text.dropWhile Char.isDigit
  if whole.isEmpty then misplaced rest
  if whole.head? == some '0' && 1 < whole.length then misplaced whole.tail
  let (fraction, rest) ← match rest with
    | '.' :: rest =>
      let fraction := rest.takeWhile Char.isDigit
      let rest := rest.dropWhile Char.isDigit
      if fraction.isEmpty then misplaced rest else .ok (some fraction, rest)
    | rest => .ok (none, rest)
  let (exponent, rest) ← readExponent rest
  let (value, skipped) := significand 0 whole
  if fraction.isNone && exponent.isNone && skipped = 0 then
    if !negative then return (int value, rest)
    -- Zero with a sign, and what lies below the machine word, are kept as floating numbers.
    if value = 0 || Nat.pow 2 63 < value then
      return (float (Binary64.ofQuotient true value 1), rest)
    return (int (-value), rest)
  let digits := fraction.getD []
  let (value, left) := significand value digits
  -- Digits left out before the point raise the exponent, digits taken after it lower it.
  let place : Int := skipped - (digits.length - left : Nat)
  return (float (← floatOf negative value (place + exponent.getD 0)), rest)

/-- How many arrays and objects may stand inside each other. -/
def depthLimit : Nat := 127

mutual

/-- Reads a value, inside at most `depth` more arrays and objects. -/
def readValue : (fuel depth : Nat) → List Char → Except JsonError (Json × List Char)
  | 0, _, _ => .error .unfinished
  | fuel + 1, depth, text =>
    match skipBlank text with
    | 'n' :: 'u' :: 'l' :: 'l' :: rest => .ok (null, rest)
    | 't' :: 'r' :: 'u' :: 'e' :: rest => .ok (bool true, rest)
    | 'f' :: 'a' :: 'l' :: 's' :: 'e' :: rest => .ok (bool false, rest)
    | '"' :: rest => do
      let (text, rest) ← readText (rest.length + 1) rest
      return (string (String.ofList text), rest)
    | '-' :: rest => readNumber true rest
    | '[' :: rest => do
      let depth + 1 := depth | .error .tooDeep
      if let ']' :: rest := skipBlank rest then return (array [], rest)
      let (items, rest) ← readItems fuel depth rest
      return (array items, rest)
    | '{' :: rest => do
      let depth + 1 := depth | .error .tooDeep
      if let '}' :: rest := skipBlank rest then return (object [], rest)
      let (members, rest) ← readMembers fuel depth rest
      return (ofMembers members, rest)
    | c :: rest => if c.isDigit then readNumber false (c :: rest) else .error (.unexpected c)
    | [] => .error .unfinished

/-- Reads the items of an array up to its closing bracket. -/
def readItems : (fuel depth : Nat) → List Char → Except JsonError (List Json × List Char)
  | 0, _, _ => .error .unfinished
  | fuel + 1, depth, text => do
    let (item, rest) ← readValue fuel depth text
    match skipBlank rest with
    | ',' :: rest =>
      let (items, rest) ← readItems fuel depth rest
      return (item :: items, rest)
    | ']' :: rest => return ([item], rest)
    | rest => misplaced rest

/-- Reads the members of an object up to its closing brace. -/
def readMembers : (fuel depth : Nat) → List Char →
    Except JsonError (List (String × Json) × List Char)
  | 0, _, _ => .error .unfinished
  | fuel + 1, depth, text => do
    let '"' :: rest := skipBlank text | misplaced (skipBlank text)
    let (name, rest) ← readText (rest.length + 1) rest
    let ':' :: rest := skipBlank rest | misplaced (skipBlank rest)
    let (value, rest) ← readValue fuel depth rest
    match skipBlank rest with
    | ',' :: rest =>
      let (members, rest) ← readMembers fuel depth rest
      return ((String.ofList name, value) :: members, rest)
    | '}' :: rest => return ([(String.ofList name, value)], rest)
    | rest => misplaced rest

end

/-- Reads a text that holds one JSON value. -/
def ofText (text : String) : Except JsonError Json := do
  let chars := text.toList
  let (json, rest) ← readValue (2 * chars.length + 2) depthLimit chars
  match skipBlank rest with
  | [] => return json
  | c :: _ => .error (.unexpected c)

end Json

end TagTemplate

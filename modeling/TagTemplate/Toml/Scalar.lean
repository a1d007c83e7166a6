import TagTemplate.Text.Hex

/-! The written forms of numbers, truth values and times in TOML. -/

namespace TagTemplate.Toml

/-- Whether a text is a run of digits, with single underscores between digits at most. -/
def isDigits (isDigit : Char → Bool) : List Char → Bool
  | [] => false
  | [c] => isDigit c
  | c :: '_' :: rest => isDigit c && isDigits isDigit rest
  | c :: rest => isDigit c && isDigits isDigit rest

/-- The digits without the underscores between them. -/
def plainDigits (text : List Char) : List Char :=
  text.filter (· != '_')

/-- Whether a text is a whole number without a sign and without needless zeros. -/
def isWhole (text : List Char) : Bool :=
  isDigits Char.isDigit text && (text.length == 1 || text.head? != some '0')

/-- The text after an optional sign. -/
def unsigned : List Char → List Char
  | '+' :: rest => rest
  | '-' :: rest => rest
  | text => text

/-- Whether a text is an integer that fits into two machine words. -/
def isInteger (text : List Char) : Bool :=
  match text with
  | '0' :: 'x' :: digits =>
    isDigits (fun c => (Text.hexDigit? c).isSome) digits &&
      (Text.hexValue? (plainDigits digits)).all (· < Nat.pow 2 128)
  | '0' :: 'o' :: digits =>
    isDigits (fun c => '0' ≤ c && c ≤ '7') digits &&
      Nat.ofDigitChars 8 (plainDigits digits) 0 < Nat.pow 2 128
  | '0' :: 'b' :: digits =>
    isDigits (fun c => c == '0' || c == '1') digits &&
      Nat.ofDigitChars 2 (plainDigits digits) 0 < Nat.pow 2 128
  | _ =>
    let digits := unsigned text
    -- Below zero the limit is that of words with a sign, and above it that of words without.
    let limit := if text.head? == some '-' then Nat.pow 2 127 + 1 else Nat.pow 2 128
    isWhole digits && Nat.ofDigitChars 10 (plainDigits digits) 0 < limit

/-- Whether a text is an exponent after its mark. -/
def isExponent (text : List Char) : Bool :=
  isDigits Char.isDigit (unsigned text)

/-- Whether a text is a number with a fraction or an exponent, or a special number. -/
def isFloat (text : List Char) : Bool :=
  let text := unsigned text
  let isMark (c : Char) := c == 'e' || c == 'E'
  let special := text == ['i', 'n', 'f'] || text == ['n', 'a', 'n']
  let whole := text.takeWhile fun c => c.isDigit || c == '_'
  special || isWhole whole &&
    -- A whole number needs a fraction or an exponent to be of this kind.
    match text.dropWhile fun c => c.isDigit || c == '_' with
    | '.' :: rest =>
      let fraction := rest.takeWhile (!isMark ·)
      isDigits Char.isDigit fraction &&
        match rest.dropWhile (!isMark ·) with
        | [] => true
        | _ :: exponent => isExponent exponent
    | mark :: exponent => isMark mark && isExponent exponent
    | [] => false

/-- The value of a number of exactly `count` digits at the front of a text, and the text after. -/
def fixedNumber? (count : Nat) (text : List Char) : Option (Nat × List Char) :=
  let digits := text.take count
  if digits.length = count && digits.all Char.isDigit then
    some (Nat.ofDigitChars 10 digits 0, text.drop count)
  else none

/-- The number of days in a month. -/
def daysIn (year month : Nat) : Nat :=
  if month = 2 then if year % 4 = 0 ∧ (year % 100 ≠ 0 ∨ year % 400 = 0) then 29 else 28
  else if month = 4 ∨ month = 6 ∨ month = 9 ∨ month = 11 then 30
  else 31

/-- The text after a date, if one stands at the front. -/
def afterDate? (text : List Char) : Option (List Char) := do
  let (year, rest) ← fixedNumber? 4 text
  let '-' :: rest := rest | none
  let (month, rest) ← fixedNumber? 2 rest
  let '-' :: rest := rest | none
  let (day, rest) ← fixedNumber? 2 rest
  guard (1 ≤ month && month ≤ 12 && 1 ≤ day && day ≤ daysIn year month)
  return rest

/-- The text after hours and minutes, if they stand at the front. -/
def afterClock? (text : List Char) : Option (List Char) := do
  let (hour, rest) ← fixedNumber? 2 text
  let ':' :: rest := rest | none
  let (minute, rest) ← fixedNumber? 2 rest
  guard (hour < 24 && minute < 60)
  return rest

/-- The text after a time of day, if one stands at the front; seconds may be left out. -/
def afterTime? (text : List Char) : Option (List Char) := do
  let rest ← afterClock? text
  let ':' :: rest := rest | return rest
  let (second, rest) ← fixedNumber? 2 rest
  guard (second ≤ 60)
  let '.' :: fraction := rest | return rest
  guard ((fraction.takeWhile Char.isDigit).length != 0)
  return fraction.dropWhile Char.isDigit

/-- Whether a text is the offset of a time from universal time. -/
def isOffset (text : List Char) : Bool :=
  match text with
  | ['Z'] => true
  | ['z'] => true
  | '+' :: rest => afterClock? rest == some []
  | '-' :: rest => afterClock? rest == some []
  | _ => false

/-- Whether a text is a date, a time of day, or both, the latter with or without an offset. -/
def isTime (text : List Char) : Bool :=
  match afterDate? text with
  | some [] => true
  | some (separator :: rest) =>
    (separator == 'T' || separator == 't' || separator == ' ') &&
      match afterTime? rest with
      | some [] => true
      | some offset => isOffset offset
      | none => false
  | none => afterTime? text == some []

/-- Whether a text is a value of any of these forms. -/
def isScalar (text : List Char) : Bool :=
  text == ['t', 'r', 'u', 'e'] || text == ['f', 'a', 'l', 's', 'e'] ||
    isInteger text || isFloat text || isTime text

end TagTemplate.Toml

import TagTemplate.Unicode.Blank
import TagTemplate.Unicode.CaseFold
import TagTemplate.Unicode.Digit
import TagTemplate.Unicode.Word

/-! Sets of characters, described by how they are built rather than listed. -/

namespace TagTemplate

/-- A set of characters. -/
inductive CharSet where
  /-- No character. -/
  | empty
  /-- The characters from `low` to `high`, both included. -/
  | span (low high : Char)
  /-- The word characters of all scripts. -/
  | word
  /-- The decimal digits of all scripts. -/
  | digit
  /-- The white space of all scripts. -/
  | blank
  /-- The characters of either set. -/
  | union (left right : CharSet)
  /-- The characters of both sets. -/
  | inter (left right : CharSet)
  /-- The characters outside a set. -/
  | compl (set : CharSet)
  /-- The characters that differ from one of the set only in case. -/
  | anyCase (set : CharSet)
  /-- The characters that differ from one of the set only in the case of a basic Latin letter. -/
  | anyLatinCase (set : CharSet)
  deriving DecidableEq, Inhabited

namespace CharSet

/-- A basic Latin letter in the other case, and any other character unchanged. -/
def swapLatinCase (c : Char) : Char :=
  if c.isUpper then c.toLower else c.toUpper

/-- Whether a character belongs to the set. -/
def contains : CharSet → Char → Bool
  | empty, _ => false
  | span low high, c => low ≤ c && c ≤ high
  | word, c => Unicode.isWord c
  | digit, c => Unicode.isDigit c
  | blank, c => Unicode.isBlank c
  | union left right, c => left.contains c || right.contains c
  | inter left right, c => left.contains c && right.contains c
  | compl set, c => !set.contains c
  -- A character belongs if any of its case variants does.
  | anyCase set, c => (Unicode.caseVariants c).any set.contains
  | anyLatinCase set, c => set.contains c || set.contains (swapLatinCase c)

/-- The set of one character. -/
def single (c : Char) : CharSet :=
  span c c

/-- The set of all characters. -/
def all : CharSet :=
  compl empty

/-- The characters of the left set that the right one lacks. -/
def diff (left right : CharSet) : CharSet :=
  inter left (compl right)

/-- The characters of exactly one of two sets. -/
def symmDiff (left right : CharSet) : CharSet :=
  union (diff left right) (diff right left)

/-- The characters of any set of a list. -/
def unions (sets : List CharSet) : CharSet :=
  match sets with
  | [] => empty
  | [set] => set
  | set :: rest => union set (unions rest)

/-- The basic Latin digits. -/
def latinDigit : CharSet :=
  span '0' '9'

/-- The basic Latin white space. -/
def latinBlank : CharSet :=
  union (span '\t' '\r') (single ' ')

/-- The basic Latin word characters. -/
def latinWord : CharSet :=
  unions [latinDigit, span 'A' 'Z', single '_', span 'a' 'z']

end CharSet

end TagTemplate

import TagTemplate.Pattern.CharSet

/-! Regular expressions with preferences: alternatives are ordered, and repetition prefers more
turns or fewer. -/

namespace TagTemplate

/-- The characters on both sides of a position in a text. -/
structure Site where
  before : Option Char
  after : Option Char
  deriving DecidableEq

/-- A condition on a position that takes no text. -/
inductive Assertion where
  /-- At the start of the text. -/
  | textStart
  /-- At the end of the text. -/
  | textEnd
  /-- At the start of a line. -/
  | lineStart
  /-- At the end of a line. -/
  | lineEnd
  /-- At the start of a line, where a carriage return may end or share in a line break. -/
  | returnLineStart
  /-- At the end of a line, where a carriage return may end or share in a line break. -/
  | returnLineEnd
  /-- Where a character of the set meets one outside it. -/
  | boundary (set : CharSet)
  /-- Where no character of the set meets one outside it. -/
  | interior (set : CharSet)
  /-- Where a run of characters of the set starts. -/
  | wordStart (set : CharSet)
  /-- Where a run of characters of the set ends. -/
  | wordEnd (set : CharSet)
  /-- After a character outside the set. -/
  | afterOther (set : CharSet)
  /-- Before a character outside the set. -/
  | beforeOther (set : CharSet)
  deriving DecidableEq, Inhabited

namespace Site

/-- Whether the character before the position belongs to a set. -/
def isAfter (site : Site) (set : CharSet) : Bool :=
  site.before.any set.contains

/-- Whether the character after the position belongs to a set. -/
def isBefore (site : Site) (set : CharSet) : Bool :=
  site.after.any set.contains

end Site

/-- Whether a condition holds at a position. -/
def Assertion.holds (site : Site) : Assertion → Bool
  | textStart => site.before.isNone
  | textEnd => site.after.isNone
  | lineStart => site.before.isNone || site.before == some '\n'
  | lineEnd => site.after.isNone || site.after == some '\n'
  | returnLineStart =>
    site.before.isNone || site.before == some '\n' ||
      (site.before == some '\r' && site.after != some '\n')
  | returnLineEnd =>
    site.after.isNone || site.after == some '\r' ||
      (site.after == some '\n' && site.before != some '\r')
  | boundary set => site.isAfter set != site.isBefore set
  | interior set => site.isAfter set == site.isBefore set
  | wordStart set => !site.isAfter set && site.isBefore set
  | wordEnd set => site.isAfter set && !site.isBefore set
  | afterOther set => !site.isAfter set
  | beforeOther set => !site.isBefore set

/-- A regular expression. -/
inductive Regex where
  /-- The empty text. -/
  | empty
  /-- One character of a set. -/
  | one (set : CharSet)
  /-- The empty text at a position that meets a condition. -/
  | check (assertion : Assertion)
  /-- One expression after another. -/
  | seq (first second : Regex)
  /-- Either expression, the first one preferred. -/
  | alt (first second : Regex)
  /-- The expression a fixed number of times. -/
  | times (count : Nat) (body : Regex)
  /-- The expression at most so many times, as often as possible if eager. -/
  | upTo (eager : Bool) (count : Nat) (body : Regex)
  /-- The expression once or more, as often as possible if eager. -/
  | plus (eager : Bool) (body : Regex)
  /-- The part of a match that names the whole. -/
  | name (body : Regex)
  deriving DecidableEq, Inhabited

namespace Regex

/-- The expression any number of times: one run of turns or none. -/
def star (eager : Bool) (body : Regex) : Regex :=
  -- A body that takes nothing is tried once, after which the choice to leave remains.
  upTo eager 1 (plus eager body)

/-- The expression at least `low` times. -/
def atLeast (eager : Bool) (low : Nat) (body : Regex) : Regex :=
  match low with
  | 0 => star eager body
  | 1 => plus eager body
  | low + 2 => seq (times (low + 1) body) (plus eager body)

/-- The expression at least `low` times and at most `high` times. -/
def between (eager : Bool) (low high : Nat) (body : Regex) : Regex :=
  seq (times low body) (upTo eager (high - low) body)

/-- The expressions of a list, one after another. -/
def sequence : List Regex → Regex
  | [] => empty
  | [regex] => regex
  | regex :: rest => seq regex (sequence rest)

/-- Any expression of a list, earlier ones preferred. -/
def choice : List Regex → Regex
  | [] => empty
  | [regex] => regex
  | regex :: rest => alt regex (choice rest)

/-- Whether the expression names a part of its matches. -/
def hasName : Regex → Bool
  | empty => false
  | one _ => false
  | check _ => false
  | seq first second => first.hasName || second.hasName
  | alt first second => first.hasName || second.hasName
  -- What is repeated no times at all is no part of the expression.
  | times count body => count != 0 && body.hasName
  | upTo _ count body => count != 0 && body.hasName
  | plus _ body => body.hasName
  | name _ => true

end Regex

end TagTemplate

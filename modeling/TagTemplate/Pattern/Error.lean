/-! The ways in which a text fails to be a pattern. -/

namespace TagTemplate

/-- Why a text is not a pattern. -/
inductive PatternError where
  | unclosedGroup
  | unopenedGroup
  | unclosedClass
  | emptyRepetition
  | unclosedCount
  | invalidCount
  | invalidRange
  | invalidClassItem
  | unfinishedEscape
  | unknownEscape (letter : Char)
  | invalidCode
  | backReference
  | lookAround
  | invalidGroupName
  | repeatedGroupName (name : String)
  | unknownFlag (letter : Char)
  | repeatedFlag
  | danglingNegation
  | unfinishedFlags
  | unknownBoundary
  | partOfCharacter
  | nestedTooDeeply
  | tooLarge
  deriving DecidableEq

/-- The reason in words. -/
def PatternError.reason : PatternError → String
  | unclosedGroup => "a group is not closed"
  | unopenedGroup => "a group is closed that was never opened"
  | unclosedClass => "a character class is not closed"
  | emptyRepetition => "a repetition has nothing to repeat"
  | unclosedCount => "a repetition count is not closed"
  | invalidCount => "a repetition count is not valid"
  | invalidRange => "a character range ends before it starts"
  | invalidClassItem => "a character class holds something other than characters"
  | unfinishedEscape => "an escape ends too early"
  | unknownEscape letter => s!"the escape of '{letter}' has no meaning"
  | invalidCode => "a character code is not valid"
  | backReference => "back references are not supported"
  | lookAround => "look-around is not supported"
  | invalidGroupName => "a group name is not valid"
  | repeatedGroupName name => s!"the group name {name} is used twice"
  | unknownFlag letter => s!"the flag '{letter}' has no meaning"
  | repeatedFlag => "a flag is given twice"
  | danglingNegation => "a flag negation has no flag"
  | unfinishedFlags => "a list of flags is not closed"
  | unknownBoundary => "a word boundary has no known kind"
  | partOfCharacter => "a pattern may not match part of a character"
  | nestedTooDeeply => "a pattern is nested too deeply"
  | tooLarge => "a pattern is too large"

end TagTemplate

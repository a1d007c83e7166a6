import TagTemplate.Unicode.Ranges

/-! White space of all scripts. -/

namespace TagTemplate.Unicode

/-- The ranges of white space, in ascending order. -/
def blankRanges : Ranges :=
  [
    (0x0009, 0x000D), (0x0020, 0x0020), (0x0085, 0x0085), (0x00A0, 0x00A0), (0x1680, 0x1680),
    (0x2000, 0x200A), (0x2028, 0x2029), (0x202F, 0x202F), (0x205F, 0x205F), (0x3000, 0x3000)
  ]

/-- Whether a character is white space. -/
def isBlank (c : Char) : Bool :=
  blankRanges.contains c

end TagTemplate.Unicode

import TagTemplate.Pattern.Error
import TagTemplate.Pattern.Regex
import TagTemplate.Text.Hex
import TagTemplate.Unicode.Letter

/-! Reading the written form of a regular expression. -/

namespace TagTemplate

namespace Pattern

/-- Settings that change how the text after them is read. -/
structure Flags where
  anyCase : Bool := false
  manyLines : Bool := false
  dotAll : Bool := false
  swapEager : Bool := false
  latinOnly : Bool := false
  returns : Bool := false
  spaced : Bool := false

/-- The rest of a text after blanks and comments, which count only in a spaced pattern. -/
def skipSpace (comment : Bool) : List Char → List Char
  | [] => []
  | c :: rest =>
    -- A comment runs to the end of its line.
    if comment then skipSpace (c != '\n') rest
    else if c == '#' then skipSpace true rest
    else if Unicode.isBlank c then skipSpace false rest
    else c :: rest

/-- The rest of a text from the next character that counts. -/
def Flags.advance (flags : Flags) (rest : List Char) : List Char :=
  if flags.spaced then skipSpace false rest else rest

/-- The word characters that boundaries and classes refer to. -/
def Flags.wordSet (flags : Flags) : CharSet :=
  if flags.latinOnly then .latinWord else .word

/-- The set together with the other cases of its characters, if case does not count. -/
def Flags.fold (flags : Flags) (set : CharSet) : CharSet :=
  if !flags.anyCase then set
  else if flags.latinOnly then .anyLatinCase set
  else .anyCase set

/-- A set as an expression; a set of bytes may not reach into characters of several bytes. -/
def Flags.oneOf (flags : Flags) (set : CharSet) : Except PatternError Regex :=
  -- Bytes from 0x80 on occur only as parts of longer characters.
  let reaches := (List.range 0x80).any fun offset => set.contains (Char.ofNat (0x80 + offset))
  if flags.latinOnly && reaches then .error .partOfCharacter else .ok (.one set)

/-- The expression that a dot stands for. -/
def Flags.dot (flags : Flags) : Except PatternError Regex :=
  flags.oneOf <|
    if flags.dotAll then .all
    else if flags.returns then .compl (.union (.single '\n') (.single '\r'))
    else .compl (.single '\n')

/-- The condition that a caret stands for. -/
def Flags.caret (flags : Flags) : Assertion :=
  if !flags.manyLines then .textStart else if flags.returns then .returnLineStart else .lineStart

/-- The condition that a dollar sign stands for. -/
def Flags.dollar (flags : Flags) : Assertion :=
  if !flags.manyLines then .textEnd else if flags.returns then .returnLineEnd else .lineEnd

/-- What an escape stands for. -/
inductive Escape where
  | char (c : Char)
  | set (set : CharSet)
  | check (assertion : Assertion)

/-- The character of a code, if there is one; codes of single bytes stop at the basic characters
when only those are read. -/
def Flags.charOfCode (flags : Flags) (isByte : Bool) (code : Nat) : Except PatternError Escape :=
  if ¬code.isValidChar then .error .invalidCode
  else if flags.latinOnly && isByte && 0x80 ≤ code && code ≤ 0xFF then .error .partOfCharacter
  else .ok (.char (Char.ofNat code))

/-- Reads a character code of a fixed number of digits. -/
def readFixedCode (flags : Flags) (isByte : Bool) :
    (digits : Nat) → (code : Nat) → List Char → Except PatternError (Escape × List Char)
  | 0, code, rest => return (← flags.charOfCode isByte code, rest)
  | _ + 1, _, [] => .error .unfinishedEscape
  | digits + 1, code, c :: rest =>
    match Text.hexDigit? c with
    | some digit => readFixedCode flags isByte digits (16 * code + digit) (flags.advance rest)
    | none => .error .invalidCode

/-- Reads a character code up to a closing brace; `any` says whether a digit was read. -/
def readBracedCode (flags : Flags) (isByte : Bool) :
    (fuel : Nat) → (any : Bool) → (code : Nat) → List Char →
      Except PatternError (Escape × List Char)
  | 0, _, _, _ => .error .unfinishedEscape
  | _, _, _, [] => .error .unfinishedEscape
  | fuel + 1, any, code, c :: rest =>
    if c == '}' then
      if any then return (← flags.charOfCode isByte code, flags.advance rest)
      else .error .invalidCode
    else
      match Text.hexDigit? c with
      | some digit =>
        -- Codes beyond all characters need not be told apart.
        readBracedCode flags isByte fuel true (min (16 * code + digit) 0x110000)
          (flags.advance rest)
      | none => .error .invalidCode

/-- Reads a character code in either form. -/
def readCode (flags : Flags) (isByte : Bool) (digits : Nat) (rest : List Char) :
    Except PatternError (Escape × List Char) :=
  match flags.advance rest with
  | '{' :: rest => readBracedCode flags isByte (rest.length + 1) false 0 (flags.advance rest)
  | rest => readFixedCode flags isByte digits 0 rest

/-- The letters of a word-boundary kind, and the rest after them. -/
def boundaryLetters (flags : Flags) : (fuel : Nat) → List Char → List Char × List Char
  | fuel + 1, c :: rest =>
    if c.isAlpha || c == '-' then
      let (letters, rest) := boundaryLetters flags fuel (flags.advance rest)
      (c :: letters, rest)
    else ([], c :: rest)
  | _, rest => ([], rest)

/-- Reads the kind of a word boundary after its letter, if one is given in braces. -/
def readBoundary (flags : Flags) (rest : List Char) :
    Except PatternError (Escape × List Char) :=
  let plain := (Escape.check (.boundary flags.wordSet), rest)
  match rest with
  | '{' :: inner =>
    match flags.advance inner with
    | [] => .error .unclosedCount
    | c :: inner =>
      -- A brace without letters after it is a repetition, read as the next construct.
      if !(c.isAlpha || c == '-') then .ok plain
      else
        let (letters, after) := boundaryLetters flags (inner.length + 1) (c :: inner)
        match String.ofList letters, after with
        | "start", '}' :: after => .ok (.check (.wordStart flags.wordSet), after)
        | "end", '}' :: after => .ok (.check (.wordEnd flags.wordSet), after)
        | "start-half", '}' :: after => .ok (.check (.afterOther flags.wordSet), after)
        | "end-half", '}' :: after => .ok (.check (.beforeOther flags.wordSet), after)
        | _, _ => .error .unknownBoundary
  | _ => .ok plain

/-- Reads what follows a backslash. -/
def readEscape (flags : Flags) : List Char → Except PatternError (Escape × List Char)
  | [] => .error .unfinishedEscape
  | c :: rest =>
    let set (plain latin : CharSet) : Escape := .set (if flags.latinOnly then latin else plain)
    let other (plain latin : CharSet) : Escape :=
      .set (.compl (if flags.latinOnly then latin else plain))
    match c with
    | 'x' => readCode flags true 2 rest
    | 'u' => readCode flags false 4 rest
    | 'U' => readCode flags false 8 rest
    | 'd' => .ok (set .digit .latinDigit, rest)
    | 'D' => .ok (other .digit .latinDigit, rest)
    | 's' => .ok (set .blank .latinBlank, rest)
    | 'S' => .ok (other .blank .latinBlank, rest)
    | 'w' => .ok (set .word .latinWord, rest)
    | 'W' => .ok (other .word .latinWord, rest)
    | 'a' => .ok (.char '\x07', rest)
    | 'f' => .ok (.char '\x0C', rest)
    | 't' => .ok (.char '\t', rest)
    | 'n' => .ok (.char '\n', rest)
    | 'r' => .ok (.char '\r', rest)
    | 'v' => .ok (.char '\x0B', rest)
    | 'A' => .ok (.check .textStart, rest)
    | 'z' => .ok (.check .textEnd, rest)
    | 'b' => readBoundary flags rest
    | 'B' => .ok (.check (.interior flags.wordSet), rest)
    | '<' => .ok (.check (.wordStart flags.wordSet), rest)
    | '>' => .ok (.check (.wordEnd flags.wordSet), rest)
    | _ =>
      -- Signs stand for themselves; letters and digits are kept for a meaning of their own.
      if c.isDigit then .error .backReference
      else if c.isAlpha || 0x80 ≤ c.toNat then .error (.unknownEscape c)
      else .ok (.char c, rest)

/-- Operations between the parts of a class. -/
inductive ClassOp where
  | inter
  | diff
  | symmDiff

/-- The set that an operation makes of two sets. -/
def ClassOp.apply (op : ClassOp) (left right : CharSet) : CharSet :=
  match op with
  | inter => .inter left right
  | diff => .diff left right
  | symmDiff => .symmDiff left right

/-- A class whose closing bracket has not been read. -/
structure OpenClass where
  negated : Bool
  /-- The left side of an operation whose right side is being read. -/
  pending : Option (CharSet × ClassOp)
  items : List CharSet
  /-- How deep the classes inside are nested. -/
  depth : Nat

namespace OpenClass

/-- The class with one more item. -/
def add (cls : OpenClass) (set : CharSet) : OpenClass :=
  { cls with items := set :: cls.items }

/-- The set read so far, both sides of an operation joined. -/
def joined (cls : OpenClass) (flags : Flags) : CharSet :=
  -- Operations are read from left to right, so all sides before this one are joined already.
  let right := CharSet.unions cls.items.reverse
  match cls.pending with
  | none => right
  | some (left, op) => op.apply (flags.fold left) (flags.fold right)

/-- The class with the items so far as the left side of an operation. -/
def operate (cls : OpenClass) (flags : Flags) (op : ClassOp) : OpenClass :=
  { cls with pending := some (cls.joined flags, op), items := [], depth := cls.depth + 1 }

/-- The set of the finished class. -/
def finish (cls : OpenClass) (flags : Flags) : CharSet :=
  let set := flags.fold (cls.joined flags)
  -- Case is undone before the negation, which leaves out every variant.
  if cls.negated then .compl set else set

end OpenClass

/-- Reads a list of leading hyphens of a class, which stand for themselves. -/
def leadingHyphens (flags : Flags) : (fuel : Nat) → OpenClass → List Char → OpenClass × List Char
  | fuel + 1, cls, '-' :: rest =>
    leadingHyphens flags fuel (cls.add (.single '-')) (flags.advance rest)
  | _, cls, rest => (cls, rest)

/-- Reads the start of a class after its opening bracket: a negation, hyphens, and a closing bracket
that stands for itself. -/
def openClass (flags : Flags) (rest : List Char) : OpenClass × List Char :=
  let rest := flags.advance rest
  let (negated, rest) := match rest with
    | '^' :: rest => (true, flags.advance rest)
    | _ => (false, rest)
  let (cls, rest) := leadingHyphens flags rest.length ⟨negated, none, [], 1⟩ rest
  match cls.items, rest with
  | [], ']' :: rest => (cls.add (.single ']'), flags.advance rest)
  | _, _ => (cls, rest)

/-- The classes with a name between colons. -/
def namedClass? : String → Option CharSet
  | "alnum" => some (.unions [.span '0' '9', .span 'A' 'Z', .span 'a' 'z'])
  | "alpha" => some (.unions [.span 'A' 'Z', .span 'a' 'z'])
  | "ascii" => some (.span '\x00' '\x7F')
  | "blank" => some (.unions [.single '\t', .single ' '])
  | "cntrl" => some (.unions [.span '\x00' '\x1F', .single '\x7F'])
  | "digit" => some (.span '0' '9')
  | "graph" => some (.span '!' '~')
  | "lower" => some (.span 'a' 'z')
  | "print" => some (.span ' ' '~')
  | "punct" => some (.unions [.span '!' '/', .span ':' '@', .span '[' '\x60', .span '\x7B' '~'])
  | "space" => some (.unions [.span '\t' '\r', .single ' '])
  | "upper" => some (.span 'A' 'Z')
  | "word" => some (.unions [.span '0' '9', .span 'A' 'Z', .single '_', .span 'a' 'z'])
  | "xdigit" => some (.unions [.span '0' '9', .span 'A' 'F', .span 'a' 'f'])
  | _ => none

/-- Reads a class with a name between colons after its opening bracket, if there is one. -/
def readNamedClass? : List Char → Option (CharSet × List Char)
  | ':' :: rest =>
    let (negated, rest) := match rest with
      | '^' :: rest => (true, rest)
      | _ => (false, rest)
    match rest.dropWhile (· != ':') with
    | ':' :: ']' :: after =>
      (namedClass? (String.ofList (rest.takeWhile (· != ':')))).map fun set =>
        (if negated then .compl set else set, after)
    | _ => none
  | _ => none

/-- Reads one member of a class. -/
def readMember (flags : Flags) : List Char → Except PatternError (Escape × List Char)
  | [] => .error .unclosedClass
  | '\\' :: rest => readEscape flags rest
  | c :: rest => .ok (.char c, rest)

/-- The set of a member that stands for itself; outside the basic characters a set of bytes has
none. -/
def Flags.memberSet (flags : Flags) : Escape → Except PatternError CharSet
  | .char c =>
    if flags.latinOnly && 0x80 ≤ c.toNat then .error .partOfCharacter else .ok (.single c)
  | .set set => .ok set
  | .check _ => .error .invalidClassItem

/-- The character at an end of a range. -/
def Flags.rangeEnd (flags : Flags) : Escape → Except PatternError Char
  | .char c => if flags.latinOnly && 0x80 ≤ c.toNat then .error .partOfCharacter else .ok c
  | _ => .error .invalidClassItem

/-- Reads a member of a class or a range of them. -/
def readRange (flags : Flags) (rest : List Char) : Except PatternError (CharSet × List Char) := do
  let (low, rest) ← readMember flags rest
  let rest := flags.advance rest
  match rest with
  | [] => .error .unclosedClass
  | '-' :: after =>
    match flags.advance after with
    | [] => .error .unclosedClass
    | c :: _ =>
      -- A hyphen before the end or before another hyphen makes no range.
      if c == ']' || c == '-' then return (← flags.memberSet low, rest)
      let (high, rest) ← readMember flags (flags.advance after)
      let low ← flags.rangeEnd low
      let high ← flags.rangeEnd high
      if high < low then .error .invalidRange
      return (.span low high, rest)
  | _ => return (← flags.memberSet low, rest)

/-- Reads the rest of a class. `inner` is the class being read and `outer` holds those around it;
the result is the set, how deep it is nested, and the text after the closing bracket. -/
def readClass (flags : Flags) :
    (fuel : Nat) → (inner : OpenClass) → (outer : List OpenClass) → List Char →
      Except PatternError (CharSet × Nat × List Char)
  | 0, _, _, _ => .error .unclosedClass
  | fuel + 1, inner, outer, rest =>
    match flags.advance rest with
    | [] => .error .unclosedClass
    | '[' :: rest =>
      -- A class inside a class has a name, or is read like the outer one.
      match readNamedClass? rest with
      | some (set, rest) => readClass flags fuel (inner.add set) outer rest
      | none =>
        let (cls, rest) := openClass flags rest
        readClass flags fuel cls (inner :: outer) rest
    | ']' :: rest =>
      let set := inner.finish flags
      -- A finished class is one more item of the class around it.
      match outer with
      | [] => .ok (set, inner.depth, rest)
      | next :: outer =>
        let next := { next.add set with depth := max next.depth (inner.depth + 1) }
        readClass flags fuel next outer rest
    | '&' :: '&' :: rest => readClass flags fuel (inner.operate flags .inter) outer rest
    | '-' :: '-' :: rest => readClass flags fuel (inner.operate flags .diff) outer rest
    | '~' :: '~' :: rest => readClass flags fuel (inner.operate flags .symmDiff) outer rest
    | rest => do
      let (set, rest) ← readRange flags rest
      readClass flags fuel (inner.add set) outer rest

/-- The digits of a number, which a spaced pattern may spread out, and the rest after them. -/
def countDigits (flags : Flags) : (fuel : Nat) → List Char → List Char × List Char
  | fuel + 1, c :: rest =>
    if c.isDigit then
      let (digits, rest) := countDigits flags fuel (flags.advance rest)
      (c :: digits, rest)
    else ([], c :: rest)
  | _, rest => ([], rest)

/-- Reads a number with blanks around it: nothing where no digit stands. -/
def readCount (flags : Flags) (rest : List Char) : Except PatternError (Option Nat × List Char) :=
  let rest := rest.dropWhile Unicode.isBlank
  let (digits, rest) := countDigits flags rest.length rest
  let rest := flags.advance (rest.dropWhile Unicode.isBlank)
  let value := Nat.ofDigitChars 10 digits 0
  if digits.isEmpty then .ok (none, rest)
  else if value < UInt32.size then .ok (some value, rest)
  else .error .invalidCount

/-- How often something is repeated. -/
structure Repetition where
  low : Nat
  high : Option Nat

/-- Reads a repetition in braces after its opening brace. -/
def readBraces (flags : Flags) (rest : List Char) :
    Except PatternError (Repetition × List Char) := do
  let (low, rest) ← readCount flags (flags.advance rest)
  match rest, low with
  | [], _ => .error .unclosedCount
  | '}' :: rest, some low => return (⟨low, some low⟩, rest)
  | ',' :: rest, some low =>
    match flags.advance rest with
    | [] => .error .unclosedCount
    | '}' :: rest => return (⟨low, none⟩, rest)
    | rest =>
      let (high, rest) ← readCount flags rest
      match high, rest with
      | some high, '}' :: rest =>
        if high < low then .error .invalidCount
        return (⟨low, some high⟩, rest)
      | none, _ => .error .invalidCount
      | _, _ => .error .unclosedCount
  | _, none => .error .invalidCount
  | _, _ => .error .unclosedCount

/-- An expression with how deep it is nested. -/
structure Fragment where
  regex : Regex
  depth : Nat

/-- One item of a sequence; a change of flags stands between expressions and cannot be repeated. -/
inductive Item where
  | fragment (fragment : Fragment)
  | flags

/-- A group whose closing parenthesis has not been read, or the whole pattern. -/
structure OpenGroup where
  /-- The flags to go back to when the group is closed. -/
  outside : Flags
  /-- Whether the group is the naming part of the pattern. -/
  isName : Bool
  /-- The finished branches, last one first. -/
  branches : List Fragment
  /-- The items of the branch being read, last one first. -/
  items : List Item

namespace OpenGroup

/-- An open group with nothing in it. -/
def start (outside : Flags) (isName : Bool) : OpenGroup :=
  ⟨outside, isName, [], []⟩

/-- The branch being read as one expression. -/
def branch (group : OpenGroup) : Fragment :=
  let fragments := group.items.reverse.filterMap fun
    | .fragment fragment => some fragment
    | .flags => none
  -- Items in a row are one level deeper than a single item.
  let deepest := (fragments.map (·.depth)).foldl max 0
  ⟨Regex.sequence (fragments.map (·.regex)),
    if group.items.length < 2 then deepest else deepest + 1⟩

/-- The group with an item added to the branch being read. -/
def add (group : OpenGroup) (regex : Regex) (depth : Nat) : OpenGroup :=
  { group with items := .fragment ⟨regex, depth⟩ :: group.items }

/-- The group with the next branch begun. -/
def nextBranch (group : OpenGroup) : OpenGroup :=
  { group with branches := group.branch :: group.branches, items := [] }

/-- The content of the group as one expression. -/
def content (group : OpenGroup) : Fragment :=
  match group.branches with
  | [] => group.branch
  | branches =>
    let all := (group.branch :: branches).reverse
    ⟨Regex.choice (all.map (·.regex)), (all.map (·.depth)).foldl max 0 + 1⟩

end OpenGroup

/-- The state of reading a pattern: the flags in force, the group being read, the groups around it,
innermost first, and the group names used so far. -/
structure Reading where
  flags : Flags
  group : OpenGroup
  outer : List OpenGroup
  names : List String

namespace Reading

/-- The state with an item added. -/
def add (state : Reading) (regex : Regex) (depth : Nat := 0) : Reading :=
  { state with group := state.group.add regex depth }

/-- The state with the last item repeated. -/
def repeatLast (state : Reading) (eager : Bool) (repetition : Repetition) :
    Except PatternError Reading :=
  match state.group.items with
  | .fragment ⟨regex, depth⟩ :: items =>
    -- A flag can make repetitions lazy, and a question mark eager.
    let eager := eager != state.flags.swapEager
    let regex := match repetition with
      | ⟨low, none⟩ => Regex.atLeast eager low regex
      | ⟨low, some high⟩ => Regex.between eager low high regex
    .ok { state with
      group := { state.group with items := .fragment ⟨regex, depth + 1⟩ :: items } }
  | _ => .error .emptyRepetition

/-- The state inside a new group. -/
def enter (state : Reading) (inside : Flags) (isName : Bool) : Reading :=
  { state with
    flags := inside, group := .start state.flags isName, outer := state.group :: state.outer }

/-- The state after the group being read. -/
def leave (state : Reading) : Except PatternError Reading :=
  match state.outer with
  | [] => .error .unopenedGroup
  | outer :: rest =>
    -- The flags of the group end with it.
    let ⟨regex, depth⟩ := state.group.content
    let regex := if state.group.isName then .name regex else regex
    .ok { state with
      flags := state.group.outside, group := outer.add regex (depth + 1), outer := rest }

end Reading

/-- Whether a question mark stands at the front, which turns eagerness around, and the text after
it. -/
def readEager : List Char → Bool × List Char
  | '?' :: rest => (false, rest)
  | rest => (true, rest)

/-- The flags with the one of a letter set. -/
def Flags.set (flags : Flags) (letter : Char) (value : Bool) : Except PatternError Flags :=
  match letter with
  | 'i' => .ok { flags with anyCase := value }
  | 'm' => .ok { flags with manyLines := value }
  | 's' => .ok { flags with dotAll := value }
  | 'U' => .ok { flags with swapEager := value }
  | 'u' => .ok { flags with latinOnly := !value }
  | 'R' => .ok { flags with returns := value }
  | 'x' => .ok { flags with spaced := value }
  | _ => .error (.unknownFlag letter)

/-- Reads flags up to a colon or a closing parenthesis. `seen` holds the letters read so far and the
hyphen, last one first; the result says whether a colon ended the list. -/
def readFlags (flags : Flags) (seen : List Char) :
    List Char → Except PatternError (Flags × Bool × List Char)
  | [] => .error .unfinishedFlags
  | c :: rest => do
    if c == ':' || c == ')' then
      if seen.head? == some '-' then .error .danglingNegation
      if c == ')' && seen.isEmpty then .error .emptyRepetition
      return (flags, c == ':', rest)
    -- All flags after the hyphen are taken away rather than set.
    let next ← if c == '-' then .ok flags else flags.set c (!seen.contains '-')
    if seen.contains c then .error .repeatedFlag
    readFlags next (c :: seen) rest

/-- Reads a group name up to its closing angle bracket. -/
def readGroupName (rest : List Char) : Except PatternError (String × List Char) :=
  let name := rest.takeWhile (· != '>')
  let isStart (c : Char) := c == '_' || Unicode.isAlphabetic c
  let isPart (c : Char) :=
    isStart c || Unicode.isNumeric c || c == '.' || c == '[' || c == ']'
  match name, rest.dropWhile (· != '>') with
  | first :: others, '>' :: after =>
    if isStart first && others.all isPart then .ok (String.ofList name, after)
    else .error .invalidGroupName
  | _, _ => .error .invalidGroupName

/-- Reads the name of a group and enters it. -/
def readNamedGroup (state : Reading) (rest : List Char) :
    Except PatternError (Reading × List Char) := do
  let (name, rest) ← readGroupName rest
  if state.names.contains name then .error (.repeatedGroupName name)
  let state := { state with names := name :: state.names }
  return (state.enter state.flags (name == "name"), rest)

/-- Reads the start of a group after its opening parenthesis. -/
def readGroup (state : Reading) (rest : List Char) : Except PatternError (Reading × List Char) :=
  match state.flags.advance rest with
  | '?' :: '=' :: _ => .error .lookAround
  | '?' :: '!' :: _ => .error .lookAround
  | '?' :: '<' :: '=' :: _ => .error .lookAround
  | '?' :: '<' :: '!' :: _ => .error .lookAround
  | '?' :: 'P' :: '<' :: rest => readNamedGroup state rest
  | '?' :: '<' :: rest => readNamedGroup state rest
  | '?' :: rest => do
    -- Flags before a colon hold for a group, others for the rest of the group around them.
    let (flags, isGroup, rest) ← readFlags state.flags [] rest
    if isGroup then return (state.enter flags false, rest)
    return ({ state with flags, group.items := .flags :: state.group.items }, rest)
  | rest => .ok (state.enter state.flags false, rest)

/-- Reads one construct. -/
def readItem (state : Reading) (c : Char) (rest : List Char) :
    Except PatternError (Reading × List Char) :=
  let flags := state.flags
  match c with
  | '(' => readGroup state rest
  | ')' => return (← state.leave, rest)
  | '|' => .ok ({ state with group := state.group.nextBranch }, rest)
  | '[' => do
    let (cls, rest) := openClass flags rest
    let (set, depth, rest) ← readClass flags (rest.length + 1) cls [] rest
    return (state.add (← flags.oneOf set) depth, rest)
  | '?' =>
    let (eager, rest) := readEager rest
    return (← state.repeatLast eager ⟨0, some 1⟩, rest)
  | '*' =>
    let (eager, rest) := readEager rest
    return (← state.repeatLast eager ⟨0, none⟩, rest)
  | '+' =>
    let (eager, rest) := readEager rest
    return (← state.repeatLast eager ⟨1, none⟩, rest)
  | '{' => do
    -- That there is nothing to repeat is told before anything about the counts.
    if !state.group.items matches .fragment _ :: _ then .error .emptyRepetition
    let (repetition, rest) ← readBraces flags rest
    let (eager, rest) := readEager (flags.advance rest)
    return (← state.repeatLast eager repetition, rest)
  | '.' => return (state.add (← flags.dot), rest)
  | '^' => .ok (state.add (.check flags.caret), rest)
  | '$' => .ok (state.add (.check flags.dollar), rest)
  | '\\' => do
    let (escape, rest) ← readEscape flags rest
    match escape with
    | .char c => return (state.add (.one (flags.fold (.single c))), rest)
    | .set set => return (state.add (← flags.oneOf set), rest)
    | .check assertion => return (state.add (.check assertion), rest)
  | _ => .ok (state.add (.one (flags.fold (.single c))), rest)

/-- Reads all constructs of a pattern. -/
def readItems : (fuel : Nat) → Reading → List Char → Except PatternError Reading
  | 0, state, _ => .ok state
  | fuel + 1, state, rest =>
    match state.flags.advance rest with
    | [] => .ok state
    | c :: rest => do
      let (state, rest) ← readItem state c rest
      readItems fuel state rest

/-- The greatest depth to which a pattern may be nested. -/
def depthLimit : Nat := 250

/-- The greatest weight that a pattern may have. -/
def weightLimit : Nat := 10 * Nat.pow 2 20

end Pattern

/-- How much room a set takes when its characters are spelled out in bytes. -/
def CharSet.weight : CharSet → Nat
  | empty => 0
  | span _ high => if high.toNat < 0x80 then 0 else 200
  | word => 52000
  | digit => 5000
  | blank => 800
  | union left right => left.weight + right.weight + 8
  | inter left right => min left.weight right.weight
  | compl set => set.weight + 400
  | anyCase set => 2 * set.weight
  | anyLatinCase set => 2 * set.weight

/-- How much room an expression takes when its repetitions are spelled out. -/
def Regex.weight : Regex → Nat
  | empty => 32
  | one set => 32 + set.weight
  | check _ => 32
  | seq first second => first.weight + second.weight
  | alt first second => first.weight + second.weight + 80
  | times count body => count * body.weight
  | upTo _ count body => count * (body.weight + 40)
  | plus _ body => body.weight + 40
  | name body => body.weight + 64

/-- Reads the written form of a regular expression. -/
def Regex.ofText (text : List Char) : Except PatternError Regex := do
  -- Each construct takes a character at least, so the length of the text is enough fuel.
  let start : Pattern.Reading := ⟨{}, .start {} false, [], []⟩
  let state ← Pattern.readItems text.length start text
  if !state.outer.isEmpty then .error .unclosedGroup
  let ⟨regex, depth⟩ := state.group.content
  if Pattern.depthLimit < depth then .error .nestedTooDeeply
  if Pattern.weightLimit < regex.weight then .error .tooLarge
  return regex

end TagTemplate

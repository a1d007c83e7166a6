import TagTemplate.Pattern.Regex

/-! Regular expressions as programs: a flat list of instructions, each at its own address. -/

namespace TagTemplate

/-- One instruction; where nothing else is said, the next one follows. -/
inductive Instruction where
  /-- Take one character of the set. -/
  | read (set : CharSet)
  /-- Go on at either address, the first one preferred. -/
  | fork (first second : Nat)
  /-- Go on at an address. -/
  | jump (target : Nat)
  /-- Go on only where a condition holds. -/
  | check (assertion : Assertion)
  /-- The naming part of the match starts here. -/
  | nameStart
  /-- The naming part of the match ends here. -/
  | nameEnd
  deriving DecidableEq, Inhabited

/-- Instructions by address; every address past the last instruction accepts. -/
abbrev Program := Array Instruction

namespace Regex

/-- The number of instructions of an expression. -/
def size : Regex → Nat
  | empty => 0
  | one _ => 1
  | check _ => 1
  | seq first second => first.size + second.size
  | alt first second => first.size + second.size + 2
  | times count body => count * body.size
  | upTo _ count body => count * (body.size + 1)
  | plus _ body => body.size + 1
  | name body => body.size + 2

/-- A fork that prefers another turn if eager, and leaving otherwise. -/
def turn (eager : Bool) (again leave : Nat) : Instruction :=
  if eager then .fork again leave else .fork leave again

/-- The instructions of an expression whose first one stands at address `start`. -/
def code (start : Nat) : Regex → List Instruction
  | empty => []
  | one set => [.read set]
  | check assertion => [.check assertion]
  | seq first second => first.code start ++ second.code (start + first.size)
  | alt first second =>
    -- The fork and the jump over the second branch take one address each.
    let other := start + first.size + 2
    .fork (start + 1) other :: first.code (start + 1) ++
      .jump (other + second.size) :: second.code other
  | times count body =>
    (List.range count).flatMap fun index => body.code (start + index * body.size)
  | upTo eager count body =>
    -- Each turn may be the last one, and all of them leave to the same place.
    let leave := start + count * (body.size + 1)
    (List.range count).flatMap fun index =>
      let here := start + index * (body.size + 1)
      turn eager (here + 1) leave :: body.code (here + 1)
  | plus eager body =>
    -- The body comes first, so one turn is taken before there is a choice.
    let fork := start + body.size
    body.code start ++ [turn eager start (fork + 1)]
  | name body => .nameStart :: body.code (start + 1) ++ [.nameEnd]

/-- The program of an expression. -/
def program (regex : Regex) : Program :=
  (regex.code 0).toArray

end Regex

end TagTemplate

import TagTemplate.Pattern.Search

/-! What a program prefers at a position, told by the instruction that stands at an address. -/

namespace TagTemplate

namespace Program

/-- The front where `text` starts and the character `before` ends. -/
def frontAt (program : Program) (before : Option Char) : List Char → Front
  | [] => Front.beyond.before program ⟨before, none⟩
  | c :: text => (program.frontAt (some c) text).before program ⟨before, some c⟩

/-- The preferred match from an address on, where `text` starts and the character `before` ends. -/
def hitAt (program : Program) (before : Option Char) (text : List Char) (address : Nat) :
    Option Hit :=
  (program.frontAt before text).hitFrom program address

/-- The preferred matches from all positions of `text`, which follows the character `before`. -/
def hitsAfter (program : Program) : (before : Option Char) → List Char → List (Option Hit)
  | before, [] => [program.hitAt before [] 0]
  | before, c :: text => program.hitAt before (c :: text) 0 :: program.hitsAfter (some c) text

/-- Sweeping the positions of a text that follows a character gives its front and its matches. -/
theorem sweep_after (program : Program) (before : Option Char) (text : List Char) :
    program.sweep ((before :: text.map some).zipWith Site.mk (text.map some ++ [none])) =
      (program.frontAt before text, program.hitsAfter before text) := by
  -- The sweep starts at the end of the text, so the induction does too.
  induction text generalizing before with
  | nil => rfl
  | cons c text ih =>
    have rest := ih (some c)
    unfold sweep at rest ⊢
    simp only [List.map_cons, List.cons_append, List.zipWith_cons_cons, List.foldr_cons] at rest ⊢
    rw [rest]
    rfl

/-- The matches of a text are those from its positions, with nothing before the first one. -/
theorem hits_eq (program : Program) (text : List Char) :
    program.hits text = program.hitsAfter none text := by
  -- At its first position a text has nothing before it.
  rw [hits, sites, sweep_after]

variable {program : Program} {before : Option Char} {text : List Char} {address : Nat}

section Follow

variable {front : Front} {fuel seen : Nat} {note : Hit → Hit} {rest : List (Nat × (Hit → Hit))}

/-- Past the last instruction the match is complete. -/
theorem follow_done (fresh : seen.testBit address = false) (outside : program[address]? = none) :
    front.follow program (fuel + 1) ((address, note) :: rest) seen = some (note .done) := by
  simp [Front.follow, fresh, outside]

/-- A reading instruction gives what the front keeps for it, or else the addresses that wait. -/
theorem follow_read {set : CharSet} (fresh : seen.testBit address = false)
    (here : program[address]? = some (.read set)) :
    front.follow program (fuel + 1) ((address, note) :: rest) seen =
      (front.hits[address]?.join.map note).or
        (front.follow program fuel rest (seen ||| 1 <<< address)) := by
  rw [Front.follow]
  simp only [fresh, here]
  -- The front may hold nothing at the address, or an entry without a match.
  rcases front.hits[address]? with _ | _ | hit <;> rfl

/-- An address that was seen is passed over. -/
theorem follow_seen (met : seen.testBit address = true) :
    front.follow program (fuel + 1) ((address, note) :: rest) seen =
      front.follow program fuel rest seen := by
  simp [Front.follow, met]

/-- A fork puts both of its addresses in front of those that wait. -/
theorem follow_fork {first second : Nat} (fresh : seen.testBit address = false)
    (here : program[address]? = some (.fork first second)) :
    front.follow program (fuel + 1) ((address, note) :: rest) seen =
      front.follow program fuel ((first, note) :: (second, note) :: rest)
        (seen ||| 1 <<< address) := by
  rw [Front.follow]
  simp [fresh, here]

/-- A jump puts its target in front of the addresses that wait. -/
theorem follow_jump {target : Nat} (fresh : seen.testBit address = false)
    (here : program[address]? = some (.jump target)) :
    front.follow program (fuel + 1) ((address, note) :: rest) seen =
      front.follow program fuel ((target, note) :: rest) (seen ||| 1 <<< address) := by
  rw [Front.follow]
  simp [fresh, here]

/-- A check goes on to the next address only where its condition holds. -/
theorem follow_check {assertion : Assertion} (fresh : seen.testBit address = false)
    (here : program[address]? = some (.check assertion)) :
    front.follow program (fuel + 1) ((address, note) :: rest) seen =
      front.follow program fuel
        (if assertion.holds front.site then (address + 1, note) :: rest else rest)
        (seen ||| 1 <<< address) := by
  -- The condition decides whether the next address waits.
  rw [Front.follow]
  by_cases holds : assertion.holds front.site = true <;> simp [fresh, here, holds]

/-- The start of a naming part is noted for the match behind it. -/
theorem follow_nameStart (fresh : seen.testBit address = false)
    (here : program[address]? = some .nameStart) :
    front.follow program (fuel + 1) ((address, note) :: rest) seen =
      front.follow program fuel ((address + 1, note ∘ Hit.startName) :: rest)
        (seen ||| 1 <<< address) := by
  rw [Front.follow]
  simp [fresh, here]

/-- The end of a naming part is noted for the match behind it. -/
theorem follow_nameEnd (fresh : seen.testBit address = false)
    (here : program[address]? = some .nameEnd) :
    front.follow program (fuel + 1) ((address, note) :: rest) seen =
      front.follow program fuel ((address + 1, note ∘ Hit.endName) :: rest)
        (seen ||| 1 <<< address) := by
  rw [Front.follow]
  simp [fresh, here]

end Follow

/-- What a reading instruction takes: a character of its set, and what the next address prefers. -/
def readAt (program : Program) (set : CharSet) (address : Nat) : List Char → Option Hit
  | [] => none
  | c :: text =>
    if set.contains c then (program.hitAt (some c) text (address + 1)).map Hit.grow else none

/-- The front keeps for every reading instruction what it takes. -/
theorem frontAt_read {set : CharSet} (here : program[address]? = some (.read set)) :
    (program.frontAt before text).hits[address]? =
      some (program.readAt set address text) := by
  -- At the end of the text there is no character, and elsewhere the next front tells what follows.
  cases text <;> simp [frontAt, Front.before, here, readAt, hitAt]

/-- Whether a match ends at an address or goes on by reading, without a choice. -/
def Settles (program : Program) (address : Nat) : Prop :=
  ∀ instruction, program[address]? = some instruction → ∃ set, instruction = .read set

/-- An address without a choice gives the same match whenever it is met for the first time as the
last one that waits. -/
theorem follow_settled (settles : program.Settles address) {seen : Nat}
    (fresh : seen.testBit address = false) (fuel : Nat) :
    (program.frontAt before text).follow program (fuel + 1) [(address, id)] seen =
      program.hitAt before text address := by
  -- Nothing waits behind the address, so neither the fuel nor what was seen plays a part.
  have unseen : Nat.testBit 0 address = false := Nat.zero_testBit address
  cases here : program[address]? with
  | none => rw [hitAt, Front.hitFrom, follow_done fresh here, follow_done unseen here]
  | some instruction =>
    obtain ⟨set, rfl⟩ := settles instruction here
    rw [hitAt, Front.hitFrom, follow_read fresh here, follow_read unseen here]
    simp

/-- Past the last instruction the match is complete. -/
theorem hitAt_done (outside : program[address]? = none) :
    program.hitAt before text address = some .done :=
  follow_done (Nat.zero_testBit address) outside

/-- From a reading instruction the match is what that instruction takes. -/
theorem hitAt_read {set : CharSet} (here : program[address]? = some (.read set)) :
    program.hitAt before text address = program.readAt set address text := by
  -- Only this address waits, so the front itself gives the answer.
  rw [hitAt, Front.hitFrom, follow_read (Nat.zero_testBit address) here, frontAt_read here]
  simp

/-- A fork gives the match of its first address, and that of the second where there is none. -/
theorem hitAt_fork {first second : Nat} {set : CharSet}
    (here : program[address]? = some (.fork first second))
    (reads : program[first]? = some (.read set)) (settles : program.Settles second)
    (other : address ≠ second) (different : first ≠ second) :
    program.hitAt before text address =
      (program.hitAt before text first).or (program.hitAt before text second) := by
  have unlike : address ≠ first := by
    rintro rfl
    simp [here] at reads
  -- Neither address was seen when it is met: only the fork and the first address come before.
  have fresh : (0 ||| 1 <<< address).testBit first = false := by
    simp [Nat.one_shiftLeft, unlike]
  have freshAfter : (0 ||| 1 <<< address ||| 1 <<< first).testBit second = false := by
    simp [Nat.one_shiftLeft, other, different]
  rw [hitAt_read reads, hitAt, Front.hitFrom, follow_fork (Nat.zero_testBit address) here,
    follow_read fresh reads, frontAt_read reads, follow_settled settles freshAfter]
  simp

/-- The instruction at an address and those after it, read off the program from there on. -/
theorem getElem?_of_drop {instruction : Instruction} {code : List Instruction}
    (here : program.toList.drop address = instruction :: code) :
    program[address]? = some instruction ∧ program.toList.drop (address + 1) = code := by
  -- The program from the address on has the instruction as its head.
  have tail := congrArg (List.drop 1) here
  have head := congrArg List.head? here
  rw [List.head?_drop, Array.getElem?_toList] at head
  rw [List.drop_drop] at tail
  exact ⟨head, tail⟩

end Program

end TagTemplate

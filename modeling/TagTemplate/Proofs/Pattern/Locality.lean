import TagTemplate.Pattern
import TagTemplate.Proofs.Pattern.Sweep

/-! What a match sees of a text: no more than there is, and without conditions on positions no more
than it takes. -/

namespace TagTemplate

namespace Program

/-- Whether a relation between preferred matches is respected by all that is done with them: a match
may be complete or missing, be preferred to another one, or get a bound of its naming part. -/
structure Respected (relation : Option Hit → Option Hit → Prop) : Prop where
  done : relation (some .done) (some .done)
  missing : relation none none
  choice : ∀ {first first' second second'}, relation first first' → relation second second' →
    relation (first.or second) (first'.or second')
  started : ∀ {hit hit'}, relation hit hit' →
    relation (hit.map Hit.startName) (hit'.map Hit.startName)
  ended : ∀ {hit hit'}, relation hit hit' → relation (hit.map Hit.endName) (hit'.map Hit.endName)

/-- Whether two fronts check conditions alike and are related in what their instructions read. -/
structure Related (program : Program) (relation : Option Hit → Option Hit → Prop)
    (one other : Front) : Prop where
  checks : ∀ {address : Nat} {assertion : Assertion},
    program[address]? = some (.check assertion) →
      assertion.holds one.site = assertion.holds other.site
  reads : ∀ {address : Nat} {set : CharSet}, program[address]? = some (.read set) →
    relation one.hits[address]?.join other.hits[address]?.join

variable {program : Program} {relation : Option Hit → Option Hit → Prop} {one other : Front}

/-- Related fronts prefer related matches, whatever addresses wait. -/
theorem Related.follow (related : program.Related relation one other)
    (respected : Respected relation) {fuel : Nat} {queue : List (Nat × (Hit → Hit))} {seen : Nat}
    (noted : ∀ entry ∈ queue, ∀ {hit hit' : Option Hit}, relation hit hit' →
      relation (hit.map entry.2) (hit'.map entry.2)) :
    relation (one.follow program fuel queue seen) (other.follow program fuel queue seen) := by
  -- Both fronts meet the same addresses in the same order, so each instruction is met by both.
  induction fuel generalizing queue seen with
  | zero => simpa [Front.follow] using respected.missing
  | succ fuel ih =>
    cases queue with
    | nil => simpa using respected.missing
    | cons entry rest =>
      obtain ⟨address, note⟩ := entry
      obtain ⟨first, others⟩ := List.forall_mem_cons.mp noted
      -- Most instructions go on at one address, with the others waiting behind it.
      have next {address : Nat} {note : Hit → Hit} (kept : ∀ {hit hit' : Option Hit},
          relation hit hit' → relation (hit.map note) (hit'.map note)) (seen : Nat) :
          relation (one.follow program fuel ((address, note) :: rest) seen)
            (other.follow program fuel ((address, note) :: rest) seen) :=
        ih (List.forall_mem_cons.mpr ⟨kept, others⟩)
      -- An address that was seen is passed over by both.
      cases met : seen.testBit address with
      | true =>
        rw [follow_seen met, follow_seen met]
        exact ih others
      | false =>
        cases here : program[address]? with
        | none =>
          rw [follow_done met here, follow_done met here]
          exact first respected.done
        | some instruction =>
          cases instruction with
          | read set =>
            rw [follow_read met here, follow_read met here]
            -- What is read here is preferred to all that waits, on both sides.
            exact respected.choice (first (related.reads here)) (ih others)
          | fork left right =>
            rw [follow_fork met here, follow_fork met here]
            exact ih (List.forall_mem_cons.mpr ⟨first, List.forall_mem_cons.mpr ⟨first, others⟩⟩)
          | jump target =>
            rw [follow_jump met here, follow_jump met here]
            exact next first _
          | check assertion =>
            rw [follow_check met here, follow_check met here, related.checks here]
            -- The condition is the same for both, so both go on or both give up this address.
            split
            · exact next first _
            · exact ih others
          | nameStart =>
            rw [follow_nameStart met here, follow_nameStart met here]
            -- The start of the naming part is noted behind what was noted so far.
            refine next (fun held => ?_) _
            simpa using first (respected.started held)
          | nameEnd =>
            rw [follow_nameEnd met here, follow_nameEnd met here]
            refine next (fun held => ?_) _
            simpa using first (respected.ended held)

/-- Related fronts prefer related matches from any address. -/
theorem Related.hitFrom (related : program.Related relation one other)
    (respected : Respected relation) (address : Nat) :
    relation (one.hitFrom program address) (other.hitFrom program address) :=
  -- Only the given address waits at first, with nothing noted.
  related.follow respected (by simp)

end Program

namespace Hit

/-- Whether a match takes no more than a text of some length has, and its naming part starts inside
the match. -/
structure Within (hit : Hit) (length : Nat) : Prop where
  size : hit.size ≤ length
  naming : ∀ {left right : Nat}, hit.naming = .spans left right → left ≤ hit.size

/-- The start of a naming part takes nothing. -/
@[simp] theorem size_startName (hit : Hit) : hit.startName.size = hit.size := by
  unfold startName
  split <;> rfl

/-- The end of a naming part takes nothing. -/
@[simp] theorem size_endName (hit : Hit) : hit.endName.size = hit.size := by
  unfold endName
  split <;> rfl

namespace Within

variable {hit : Hit} {length : Nat}

/-- A naming part that starts here starts inside the match. -/
theorem startName (within : hit.Within length) : hit.startName.Within length := by
  -- Either the part is bounded here, where the whole match is still ahead, or it stays as it was.
  refine ⟨by simpa using within.size, ?_⟩
  unfold Hit.startName
  split
  · rintro _ _ ⟨⟩
    exact Nat.le_refl _
  · exact within.naming

/-- The end of a naming part starts none. -/
theorem endName (within : hit.Within length) : hit.endName.Within length := by
  -- A part that has only an end so far has no start that could lie outside.
  refine ⟨by simpa using within.size, ?_⟩
  unfold Hit.endName
  split
  · simp
  · exact within.naming

/-- With one more character in front, both the text and the match get longer. -/
theorem grow (within : hit.Within length) : hit.grow.Within (length + 1) where
  size := Nat.succ_le_succ within.size
  naming spans := Nat.le_succ_of_le (within.naming spans)

/-- The naming part of a match does not depend on what stands behind the match. -/
theorem nameIn_append {text : List Char} (within : hit.Within text.length) (rest : List Char) :
    hit.nameIn (text ++ rest) = hit.nameIn text := by
  -- Without a complete naming part there is no name in either text.
  unfold nameIn
  split
  · rename_i left right spans
    have inside := within.naming spans
    have size := within.size
    -- The part starts `left` characters before the end of the match and is no longer than that.
    rw [List.drop_append_of_le_length (by omega), List.take_append_of_le_length]
    rw [List.length_drop]
    omega
  · rfl

end Within

end Hit

namespace Program

variable {program : Program}

/-- Lying within a length is respected by all that is done with preferred matches. -/
theorem respected_within (length : Nat) :
    Respected fun found _ => ∀ hit ∈ found, Hit.Within hit length where
  done := by
    rintro _ ⟨⟩
    exact ⟨Nat.zero_le _, by simp [Hit.done]⟩
  missing := by simp
  -- The preferred match is one of the two.
  choice first second hit found := by
    rcases Option.or_eq_some_iff.mp found with found | ⟨_, found⟩
    · exact first hit found
    · exact second hit found
  started within hit found := by
    obtain ⟨inner, held, rfl⟩ := Option.map_eq_some_iff.mp found
    exact (within inner held).startName
  ended within hit found := by
    obtain ⟨inner, held, rfl⟩ := Option.map_eq_some_iff.mp found
    exact (within inner held).endName

/-- A preferred match takes no more than there is. -/
theorem within_of_hitAt {before : Option Char} {text : List Char} {address : Nat} {hit : Hit}
    (found : program.hitAt before text address = some hit) : hit.Within text.length := by
  -- Of the relation only one side is used, so every match is taken as related to itself.
  suffices within : ∀ hit ∈ program.hitAt before text address, hit.Within text.length from
    within hit found
  clear found
  -- A reading instruction takes one character more than what is taken behind it.
  induction text generalizing before address with
  | nil =>
    have related : program.Related (fun found _ => ∀ hit ∈ found, Hit.Within hit 0)
        (program.frontAt before []) (program.frontAt before []) :=
      ⟨fun _ => rfl, fun reads => by simp [frontAt_read reads, readAt]⟩
    exact related.hitFrom (respected_within 0) address
  | cons c text ih =>
    have related : program.Related (fun found _ => ∀ hit ∈ found, Hit.Within hit (c :: text).length)
        (program.frontAt before (c :: text)) (program.frontAt before (c :: text)) := by
      refine ⟨fun _ => rfl, fun {address set} reads => ?_⟩
      rw [frontAt_read reads, Option.join_some, readAt]
      split
      · intro hit taken
        obtain ⟨inner, held, rfl⟩ := Option.map_eq_some_iff.mp taken
        exact (ih inner held).grow
      · simp
    exact related.hitFrom (respected_within _) address

/-- A reading instruction takes a character at least. -/
theorem size_pos_of_readAt {set : CharSet} {address : Nat} {text : List Char} {hit : Hit}
    (taken : program.readAt set address text = some hit) : 0 < hit.size := by
  -- There must be a character to read, which makes the match longer than what follows it.
  cases text with
  | nil => cases taken
  | cons c text =>
    simp only [readAt] at taken
    split at taken
    · obtain ⟨inner, _, rfl⟩ := Option.map_eq_some_iff.mp taken
      exact Nat.succ_pos _
    · cases taken

/-- What is found in a part of a text of some length, if what is found in the whole text fits into
the part: the same. -/
def Kept (length : Nat) (whole part : Option Hit) : Prop :=
  -- A match that does not fit leaves open what is found in the part.
  (∀ hit ∈ whole, hit.size ≤ length) → part = whole

/-- Keeping what fits into a part is respected by all that is done with preferred matches. -/
theorem respected_kept (length : Nat) : Respected (Kept length) where
  done _ := rfl
  missing _ := rfl
  choice {first first' second second'} keepsFirst keepsSecond fits := by
    cases first with
    | some hit =>
      -- The first match is taken in the whole text, so it fits and is taken in the part as well.
      have same : first' = some hit := keepsFirst (by simpa using fits)
      simp [same]
    | none =>
      have same : first' = none := keepsFirst (by simp)
      simpa [same] using keepsSecond (by simpa using fits)
  started keeps fits := by
    rw [keeps fun hit held => by simpa using fits _ (Option.mem_map_of_mem _ held)]
  ended keeps fits := by
    rw [keeps fun hit held => by simpa using fits _ (Option.mem_map_of_mem _ held)]

/-- Whether no instruction of a program checks a condition. -/
def Unconditional (program : Program) : Prop :=
  ∀ assertion, .check assertion ∉ program

namespace Unconditional

/-- Without conditions, what fits into the front part of a text is kept in that part, whatever
stands before it. -/
theorem kept (unconditional : program.Unconditional) (before other : Option Char)
    (part rest : List Char) (address : Nat) :
    Kept part.length (program.hitAt before (part ++ rest) address)
      (program.hitAt other part address) := by
  -- There are no checks that could tell the two fronts apart.
  have checks {one other : Front} {address : Nat} {assertion : Assertion}
      (here : program[address]? = some (.check assertion)) :
      assertion.holds one.site = assertion.holds other.site :=
    absurd (Array.mem_of_getElem? here) (unconditional assertion)
  -- Where the part ends, the whole text may go on, but nothing that is read there fits.
  induction part generalizing before other address with
  | nil =>
    have related : program.Related (Kept 0) (program.frontAt before rest)
        (program.frontAt other []) := by
      refine ⟨checks, fun {address set} reads => ?_⟩
      rw [frontAt_read reads, frontAt_read reads, Option.join_some, Option.join_some]
      intro fits
      cases taken : program.readAt set address rest with
      | none => rfl
      | some hit =>
        have room := fits hit taken
        have size := size_pos_of_readAt taken
        omega
    exact related.hitFrom (respected_kept 0) address
  | cons c part ih =>
    have related : program.Related (Kept (c :: part).length)
        (program.frontAt before (c :: part ++ rest)) (program.frontAt other (c :: part)) := by
      refine ⟨checks, fun {address set} reads => ?_⟩
      rw [frontAt_read reads, frontAt_read reads, Option.join_some, Option.join_some,
        List.cons_append, readAt, readAt]
      split
      · intro fits
        rw [ih (some c) (some c) (address + 1) fun hit held => ?_]
        exact Nat.le_of_succ_le_succ (fits _ (Option.mem_map_of_mem _ held))
      · exact fun _ => rfl
    exact related.hitFrom (respected_kept _) address

/-- Without conditions the same match is preferred whatever stands before the text. -/
theorem hitAt_eq (unconditional : program.Unconditional) (before other : Option Char)
    (text : List Char) (address : Nat) :
    program.hitAt before text address = program.hitAt other text address := by
  -- The text is a part of itself, and all matches fit into it.
  have kept := unconditional.kept other before text [] address
  rw [List.append_nil] at kept
  exact kept fun hit found => (within_of_hitAt found).size

end Unconditional

end Program

namespace Regex

/-- Whether an expression sets a condition on a position anywhere. -/
def conditional : Regex → Bool
  | empty => false
  | one _ => false
  | check _ => true
  | seq first second => first.conditional || second.conditional
  | alt first second => first.conditional || second.conditional
  | times _ body => body.conditional
  | upTo _ _ body => body.conditional
  | plus _ body => body.conditional
  | name body => body.conditional

/-- The choice between another turn and leaving checks no condition. -/
theorem turn_ne_check (eager : Bool) (again leave : Nat) (assertion : Assertion) :
    turn eager again leave ≠ .check assertion := by
  cases eager <;> simp [turn]

/-- Only an expression with a condition has an instruction that checks one. -/
theorem conditional_of_mem_code {regex : Regex} {start : Nat} {assertion : Assertion}
    (mem : .check assertion ∈ regex.code start) : regex.conditional = true := by
  -- The parts of an expression stand at addresses of their own, so the start varies.
  induction regex generalizing start with
  | empty => cases mem
  | one set => simp [code] at mem
  | check condition => rfl
  | seq first second inFirst inSecond =>
    rcases List.mem_append.mp mem with mem | mem
    · simp [conditional, inFirst mem]
    · simp [conditional, inSecond mem]
  | alt first second inFirst inSecond =>
    simp only [code, List.mem_cons, List.mem_append, List.cons_append, reduceCtorEq,
      false_or] at mem
    rcases mem with mem | mem
    · simp [conditional, inFirst mem]
    · simp [conditional, inSecond mem]
  | times count body inBody =>
    -- All copies of the body have its instructions, at addresses of their own.
    obtain ⟨_, _, mem⟩ := List.mem_flatMap.mp mem
    exact inBody mem
  | upTo eager count body inBody =>
    obtain ⟨_, _, mem⟩ := List.mem_flatMap.mp mem
    exact inBody (List.mem_of_ne_of_mem (turn_ne_check _ _ _ _).symm mem)
  | plus eager body inBody =>
    rcases List.mem_append.mp mem with mem | mem
    · exact inBody mem
    · exact absurd (List.mem_singleton.mp mem).symm (turn_ne_check _ _ _ _)
  | name body inBody =>
    simp only [code, List.mem_cons, List.mem_append, List.cons_append, reduceCtorEq, false_or,
      List.not_mem_nil, or_false] at mem
    exact inBody mem

end Regex

/-- A pattern whose expression sets no condition has a program without checks. -/
theorem Pattern.unconditional {pattern : Pattern} (free : pattern.regex.conditional = false) :
    pattern.program.Unconditional := by
  -- The program of a pattern is the code of its expression.
  intro assertion mem
  rw [pattern.program_eq, Regex.program, List.mem_toArray] at mem
  simp [Regex.conditional_of_mem_code mem] at free

end TagTemplate

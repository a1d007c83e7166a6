import TagTemplate.Pattern.Program

/-! Matches by the order of preference. A text is swept from its end to its start; at each position
it is known what every reading instruction would take from there on, so no choice is tried twice. -/

namespace TagTemplate

/-- The naming part of a match as seen from its end backwards, in characters up to that end. -/
inductive Naming where
  /-- No naming part has been met. -/
  | absent
  /-- The naming part ends `right` characters before the end of the match. -/
  | ends (right : Nat)
  /-- The naming part starts `left` and ends `right` characters before the end of the match. -/
  | spans (left right : Nat)
  deriving DecidableEq

/-- What a match takes from a position on. -/
structure Hit where
  size : Nat
  naming : Naming
  deriving DecidableEq

namespace Hit

/-- The match that ends at the position itself. -/
def done : Hit :=
  ⟨0, .absent⟩

/-- The match with one more character in front. -/
def grow (hit : Hit) : Hit :=
  { hit with size := hit.size + 1 }

/-- The match with the end of its naming part here, unless a later naming part is known. -/
def endName (hit : Hit) : Hit :=
  -- The sweep meets the last of several naming parts first, and that one counts.
  match hit.naming with
  | .absent => { hit with naming := .ends hit.size }
  | _ => hit

/-- The match with the start of its naming part here, if that part is still open. -/
def startName (hit : Hit) : Hit :=
  match hit.naming with
  | .ends right => { hit with naming := .spans hit.size right }
  | _ => hit

/-- The naming part of a match that starts where `text` does. -/
def nameIn (hit : Hit) (text : List Char) : Option (List Char) :=
  -- Both ends are counted from the end of the match.
  match hit.naming with
  | .spans left right => some ((text.drop (hit.size - left)).take (left - right))
  | _ => none

end Hit

/-- A position of the sweep, with what each reading instruction would take from there. -/
structure Front where
  site : Site
  hits : Array (Option Hit)

namespace Front

/-- The front beyond the end of a text, where nothing can be taken. -/
def beyond : Front :=
  ⟨⟨none, none⟩, #[]⟩

/-- The preferred match from a list of addresses, each with what is still to be noted about its
match. An address that was seen before is passed over, since all it leads to was tried already;
`seen` holds the addresses as bits. -/
def follow (front : Front) (program : Program) :
    (fuel : Nat) → List (Nat × (Hit → Hit)) → (seen : Nat) → Option Hit
  | 0, _, _ => none
  | _, [], _ => none
  | fuel + 1, (address, note) :: rest, seen =>
    if seen.testBit address then front.follow program fuel rest seen
    else
      let seen := seen ||| 1 <<< address
      match program[address]? with
      -- Past the last instruction the match is complete.
      | none => some (note Hit.done)
      | some (.read _) =>
        -- The sweep has settled already what this instruction takes from here.
        match front.hits[address]? with
        | some (some hit) => some (note hit)
        | _ => front.follow program fuel rest seen
      | some (.fork first second) =>
        -- The preferred address goes in front of all that wait, the other right behind it.
        front.follow program fuel ((first, note) :: (second, note) :: rest) seen
      | some (.jump target) => front.follow program fuel ((target, note) :: rest) seen
      | some (.check assertion) =>
        if assertion.holds front.site
        then front.follow program fuel ((address + 1, note) :: rest) seen
        else front.follow program fuel rest seen
      | some .nameStart =>
        front.follow program fuel ((address + 1, note ∘ Hit.startName) :: rest) seen
      | some .nameEnd =>
        front.follow program fuel ((address + 1, note ∘ Hit.endName) :: rest) seen

/-- Where no address waits there is no match. -/
@[simp] theorem follow_nil (front : Front) (program : Program) (fuel seen : Nat) :
    front.follow program fuel [] seen = none := by
  cases fuel <;> simp [follow]

/-- The preferred match from an address on; each address is entered once and adds two at most. -/
def hitFrom (front : Front) (program : Program) (address : Nat) : Option Hit :=
  front.follow program (2 * program.size + 4) [(address, id)] 0

/-- The front one position before `ahead`. -/
def before (ahead : Front) (program : Program) (site : Site) : Front :=
  -- A reading instruction takes the next character, and goes on from the position after it.
  let take (address : Nat) : Instruction → Option Hit
    | .read set =>
      if site.after.any set.contains then (ahead.hitFrom program (address + 1)).map Hit.grow
      else none
    | _ => none
  ⟨site, program.mapIdx take⟩

end Front

/-- The positions of a text, from its start to its end. -/
def sites (text : List Char) : List Site :=
  (none :: text.map some).zipWith Site.mk (text.map some ++ [none])

namespace Program

/-- The front at the first of some positions that reach to the end of a text, and the preferred
match from each of them. -/
def sweep (program : Program) (sites : List Site) : Front × List (Option Hit) :=
  sites.foldr (fun site (ahead, hits) =>
    -- The preferred match from a position is what the first instruction leads to there.
    let front := ahead.before program site
    (front, front.hitFrom program 0 :: hits)) (Front.beyond, [])

/-- The preferred match from each position of a text. -/
def hits (program : Program) (text : List Char) : List (Option Hit) :=
  (program.sweep (sites text)).2

end Program

end TagTemplate

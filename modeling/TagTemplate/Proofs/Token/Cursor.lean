import Mathlib.Data.List.Chain
import TagTemplate.Proofs.Text.Slice
import TagTemplate.Proofs.Token.Classify

/-! Tokens cut a template into adjacent slices, and a cursor over byte positions finds the same
ones without ever cutting through a character. -/

namespace TagTemplate

/-- Ranges of bytes that lie in order from a position on, without overlap and between boundaries of
a text; they may be empty. -/
inductive Orderly (text : String) : (start : Nat) → List (Nat × Nat) → Prop where
  /-- Nothing is found. -/
  | nil (start : Nat) : Orderly text start []
  /-- The first range is followed by ranges that start no earlier than it ends. -/
  | cons {start first last : Nat} {ranges : List (Nat × Nat)} (after : start ≤ first)
    (ordered : first ≤ last) (firstValid : Text.Boundary text first)
    (lastValid : Text.Boundary text last) (rest : Orderly text last ranges) :
    Orderly text start ((first, last) :: ranges)

/-- A search of texts, known by the ranges of the matches that it finds. -/
structure Search where
  ranges : String → List (Nat × Nat)
  orderly : ∀ text, Orderly text 0 (ranges text)

namespace Cursor

/-- Walks over the ranges that a search found in the slice from `base` on, with everything before
`cursor` done; `others` cuts what lies between the ranges. -/
def walk (template : String) (kind : TokenKind) (others : Nat → Nat → Option (List Token))
    (base stop : Nat) : (cursor : Nat) → List (Nat × Nat) → Option (List Token)
  | cursor, [] => others cursor stop
  | cursor, (first, last) :: ranges =>
    -- An empty match claims nothing and leaves the cursor where it is.
    if first = last then walk template kind others base stop cursor ranges
    else do
      let before ← others cursor (base + first)
      let raw ← Text.slice? template (base + first) (base + last)
      let after ← walk template kind others base stop (base + last) ranges
      return before ++ ⟨kind, raw, base + first⟩ :: after

/-- The tokens between two byte positions of a template, unless a slice on the way there is not to
be had. -/
def tokens (template : String) :
    List (TokenKind × Search) → (start stop : Nat) → Option (List Token)
  | [], start, stop =>
    if start = stop then some []
    else (Text.slice? template start stop).map fun raw => [⟨.text, raw, start⟩]
  | (kind, search) :: rest, start, stop => do
    let text ← Text.slice? template start stop
    walk template kind (tokens template rest) start stop start (search.ranges text)

end Cursor

/-- Tokens that hold the slices of a template between two positions, one right after the other. -/
inductive Adjacent (template : String) : (start stop : Nat) → List Token → Prop where
  /-- Nothing lies between a position and itself. -/
  | nil (position : Nat) : Adjacent template position position []
  /-- The first token holds a slice, and the others go on where it stops. -/
  | cons {token : Token} {rest : List Token} {start stop : Nat} (placed : token.position = start)
    (filled : token.raw ≠ "") (slice : Text.slice? template start token.stop = some token.raw)
    (others : Adjacent template token.stop stop rest) :
    Adjacent template start stop (token :: rest)

namespace Adjacent

variable {template : String}

/-- Adjacent tokens can be put in front of those that go on where they stop. -/
theorem append {start middle stop : Nat} {front back : List Token}
    (left : Adjacent template start middle front) (right : Adjacent template middle stop back) :
    Adjacent template start stop (front ++ back) := by
  -- The first tokens keep their places, so the induction is on them.
  induction left with
  | nil => exact right
  | cons placed filled slice _ ih => exact .cons placed filled slice (ih right)

/-- A slice that is not empty makes one token. -/
theorem single {start stop : Nat} {raw : String} (kind : TokenKind) (different : start ≠ stop)
    (slice : Text.slice? template start stop = some raw) :
    Adjacent template start stop [⟨kind, raw, start⟩] := by
  -- The slice tells the distance of its ends, so one of no text would end where it starts.
  obtain ⟨front, back, _, _, rfl⟩ := Text.slice?_eq_some_iff.mp slice
  have filled : raw ≠ "" := by
    rintro rfl
    simp at different
  exact .cons rfl filled slice (.nil _)

/-- The first of adjacent tokens starts where they start. -/
theorem head {start stop : Nat} {tokens : List Token}
    (adjacent : Adjacent template start stop tokens) :
    ∀ token ∈ tokens.head?, token.position = start := by
  -- Without tokens there is no first one to speak of.
  cases adjacent with
  | nil => simp
  | cons placed => simpa using placed

/-- The last of adjacent tokens stops where they stop. -/
theorem last {start stop : Nat} {tokens : List Token}
    (adjacent : Adjacent template start stop tokens) :
    ∀ token ∈ tokens.getLast?, token.stop = stop := by
  -- The last token of a longer list is the last one of its tail.
  induction adjacent with
  | nil => simp
  | cons _ _ _ others ih =>
    cases others with
    | nil => simp
    | cons => simpa [List.getLast?_cons_cons] using ih

/-- Each of adjacent tokens starts where the one before it stops. -/
theorem chain {start stop : Nat} {tokens : List Token}
    (adjacent : Adjacent template start stop tokens) :
    tokens.IsChain fun left right => right.position = left.stop := by
  -- The rest starts where the first token stops, so its own first token does.
  induction adjacent with
  | nil => exact .nil
  | cons _ _ _ others ih =>
    cases others with
    | nil => exact .singleton _
    | cons placed => exact .cons_cons placed ih

/-- Each of adjacent tokens holds some text, which is the slice at its position. -/
theorem slice {start stop : Nat} {tokens : List Token}
    (adjacent : Adjacent template start stop tokens) :
    ∀ token ∈ tokens, token.raw ≠ "" ∧
      Text.slice? template token.position token.stop = some token.raw := by
  -- Each token brings its slice along.
  induction adjacent with
  | nil => simp
  | cons placed filled slice _ ih =>
    subst placed
    exact List.forall_mem_cons.mpr ⟨⟨filled, slice⟩, ih⟩

/-- The texts of adjacent tokens make up the slice that they cover. -/
theorem join {start stop : Nat} {tokens : List Token}
    (adjacent : Adjacent template start stop tokens) (valid : Text.Boundary template start) :
    Text.slice? template start stop = some (String.join (tokens.map Token.raw)) := by
  -- Slices that meet make up one slice, from the first token to the last.
  induction adjacent with
  | nil => simpa using Text.slice?_self valid
  | cons _ _ slice _ ih =>
    rw [List.map_cons, String.join_cons]
    exact Text.slice?_trans slice (ih (Text.boundary_of_slice? slice).2.1)

end Adjacent

namespace Cursor

variable {template : String}

/-- Whether a way of cutting gives adjacent tokens between any two boundaries in order. -/
def Cuts (template : String) (cut : Nat → Nat → Option (List Token)) : Prop :=
  ∀ start stop, Text.Boundary template start → Text.Boundary template stop → start ≤ stop →
    ∃ tokens, cut start stop = some tokens ∧ Adjacent template start stop tokens

/-- A walk over orderly ranges gives adjacent tokens if what lies between the ranges does. -/
theorem walk_adjacent (kind : TokenKind) {others : Nat → Nat → Option (List Token)}
    (cuts : Cuts template others) {base stop : Nat} {text : String}
    (sliced : Text.slice? template base stop = some text) {start : Nat}
    {ranges : List (Nat × Nat)} (orderly : Orderly text start ranges) {cursor : Nat}
    (valid : Text.Boundary template cursor) (behind : cursor ≤ base + start)
    (inside : cursor ≤ stop) :
    ∃ tokens, walk template kind others base stop cursor ranges = some tokens ∧
      Adjacent template cursor stop tokens := by
  obtain ⟨_, stopValid, size⟩ := Text.boundary_of_slice? sliced
  -- The cursor never gets ahead of the position from which the ranges are in order.
  induction orderly generalizing cursor with
  | nil => exact cuts cursor stop valid stopValid inside
  | @cons start first last ranges after ordered firstValid lastValid _ ih =>
    have firstShifted := Text.Boundary.shift sliced firstValid
    have lastShifted := Text.Boundary.shift sliced lastValid
    -- An empty match changes nothing.
    by_cases empty : first = last
    · rw [walk, if_pos empty]
      exact ih valid (by omega) inside
    · have reach := lastValid.le
      -- The gap in front, the range itself and the rest of the walk follow each other.
      obtain ⟨before, beforeCut, beforeAdjacent⟩ :=
        cuts cursor (base + first) valid firstShifted (by omega)
      obtain ⟨raw, rawSliced⟩ := Text.exists_slice? firstShifted lastShifted (by omega)
      obtain ⟨tokens, walked, tokensAdjacent⟩ := ih lastShifted (Nat.le_refl _) (by omega)
      refine ⟨before ++ ⟨kind, raw, base + first⟩ :: tokens, ?_, ?_⟩
      · simp [walk, empty, beforeCut, rawSliced, walked]
      · have claimed := Adjacent.single kind (by omega) rawSliced
        simpa using beforeAdjacent.append (claimed.append tokensAdjacent)

/-- Whatever the searches find, the slices on the way are there, and the tokens are adjacent. -/
theorem tokens_cuts (template : String) (table : List (TokenKind × Search)) :
    Cuts template (tokens template table) := by
  -- Each row of the table leaves gaps to the rows after it.
  induction table with
  | nil =>
    intro start stop startValid stopValid ordered
    by_cases empty : start = stop
    · subst empty
      exact ⟨[], by simp [tokens], .nil start⟩
    · obtain ⟨raw, sliced⟩ := Text.exists_slice? startValid stopValid ordered
      exact ⟨_, by simp [tokens, empty, sliced], Adjacent.single .text empty sliced⟩
  | cons row rest ih =>
    obtain ⟨kind, search⟩ := row
    intro start stop startValid stopValid ordered
    obtain ⟨text, sliced⟩ := Text.exists_slice? startValid stopValid ordered
    obtain ⟨found, walked, adjacent⟩ := walk_adjacent kind ih sliced
      (search.orderly text) startValid (by omega) ordered
    exact ⟨found, by simpa [tokens, sliced] using walked, adjacent⟩

end Cursor

/-- Tokens that cut a template into pieces: nothing is left out, taken twice or out of order. -/
structure Partition (template : String) (tokens : List Token) : Prop where
  /-- Every token holds some text. -/
  filled : ∀ token ∈ tokens, token.raw ≠ ""
  /-- The first token starts where the template does. -/
  first : ∀ token ∈ tokens.head?, token.position = 0
  /-- Each token starts where the one before it stops. -/
  adjacent : tokens.IsChain fun left right => right.position = left.stop
  /-- The last token stops where the template does. -/
  last : ∀ token ∈ tokens.getLast?, token.stop = template.utf8ByteSize
  /-- Every token is the slice of the template at its position. -/
  slice : ∀ token ∈ tokens,
    Text.slice? template token.position token.stop = some token.raw
  /-- The texts of the tokens make up the template. -/
  joined : String.join (tokens.map Token.raw) = template

/-- Adjacent tokens from the start of a template to its end cut it into pieces. -/
theorem Adjacent.partition {template : String} {tokens : List Token}
    (adjacent : Adjacent template 0 template.utf8ByteSize tokens) :
    Partition template tokens where
  filled token mem := (adjacent.slice token mem).1
  first := adjacent.head
  adjacent := adjacent.chain
  last := adjacent.last
  slice token mem := (adjacent.slice token mem).2
  -- The slice that all tokens make up is the whole template.
  joined := by
    have whole := adjacent.join (Text.boundary_zero template)
    rw [Text.slice?_whole, Option.some.injEq] at whole
    exact whole.symm

/-- Only the empty template has no tokens. -/
theorem Partition.eq_nil_iff {template : String} {tokens : List Token}
    (partition : Partition template tokens) : tokens = [] ↔ template = "" := by
  -- The texts make up the template, and none of them is empty.
  constructor
  · rintro rfl
    simpa using partition.joined.symm
  · rintro rfl
    cases tokens with
    | nil => rfl
    | cons token rest =>
      -- The first token would have to be part of the empty text.
      have filled := partition.filled token (by simp)
      have joined := partition.joined
      simp [filled] at joined

/-- The byte ranges of the matches among pieces of a text, the first one at a byte position. -/
def Piece.ranges (position : Nat) : List Piece → List (Nat × Nat)
  | [] => []
  | .gap text :: rest => Piece.ranges (position + Text.bytes text) rest
  | .hit text _ :: rest =>
    let stop := position + Text.bytes text
    (position, stop) :: Piece.ranges stop rest

/-- The matches among the pieces of a text lie in order and between characters. -/
theorem Piece.orderly_ranges (front : List Char) (pieces : List Piece) {start : Nat}
    (behind : start ≤ Text.bytes front) :
    Orderly (String.ofList (front ++ pieces.flatMap Piece.text)) start
      (Piece.ranges (Text.bytes front) pieces) := by
  -- What was passed over joins `front`, whose size is the position reached so far.
  induction pieces generalizing front start with
  | nil => exact .nil start
  | cons piece rest ih =>
    have later := fun start => @ih (front ++ piece.text) start
    rw [List.append_assoc, Text.bytes_append] at later
    cases piece with
    | gap text => exact later start (by omega)
    | hit text name =>
      -- The match lies between what was cut off before and the pieces behind it.
      have first := Text.boundary_append (String.ofList front)
        (String.ofList (text ++ rest.flatMap Piece.text))
      have last := Text.boundary_append (String.ofList (front ++ text))
        (String.ofList (rest.flatMap Piece.text))
      rw [← String.ofList_append] at first last
      rw [List.append_assoc] at last
      refine .cons behind (Nat.le_add_right _ _) first ?_ (later _ (Nat.le_refl _))
      simpa [Text.bytes, Piece.text] using last

/-- The search for the matches of a pattern; matches that take nothing are left out. -/
def Pattern.search (pattern : Pattern) : Search where
  ranges text := Piece.ranges 0 (pattern.pieces text.toList)
  orderly text := by
    have orderly := Piece.orderly_ranges [] (pattern.pieces text.toList) (Nat.le_refl 0)
    rwa [List.nil_append, pattern.flatMap_text_pieces, String.ofList_toList] at orderly

/-- A category as a kind and a search. -/
def Category.search (category : Category) : TokenKind × Search :=
  (category.kind, category.pattern.search)

/-- The texts behind others are placed where those stop. -/
theorem place_append (position : Nat) (left right : List (TokenKind × List Char)) :
    place position (left ++ right) =
      place position left ++ place (position + Text.bytes (left.flatMap Prod.snd)) right := by
  -- Every token moves the position on by the size of its text.
  induction left generalizing position with
  | nil => simp [place]
  | cons entry rest ih =>
    simp [place, ih, Token.stop, Text.bytes, Nat.add_assoc, String.utf8ByteSize_append]

namespace Cursor

/-- A walk over the matches among pieces places what the pieces are classified as. The characters
`gap` before the pieces are passed already and still wait for the rest of the table. -/
theorem walk_pieces (kind : TokenKind) {rest : List Category}
    {others : Nat → Nat → Option (List Token)}
    (cut : ∀ front text back, template = String.ofList (front ++ text ++ back) →
      others (Text.bytes front) (Text.bytes front + Text.bytes text) =
        some (place (Text.bytes front) (classify rest text)))
    {pieces : List Piece} (separate : Piece.Separate pieces)
    (filled : ∀ piece ∈ pieces, piece.text ≠ []) (outer inner gap back : List Char)
    (apart : gap = [] ∨ ∀ piece ∈ pieces.head?, ¬ piece.IsGap)
    (whole : template =
      String.ofList (outer ++ (inner ++ gap ++ pieces.flatMap Piece.text) ++ back)) :
    walk template kind others (Text.bytes outer)
      (Text.bytes outer + Text.bytes (inner ++ gap ++ pieces.flatMap Piece.text))
      (Text.bytes (outer ++ inner)) (Piece.ranges (Text.bytes (inner ++ gap)) pieces) =
        some (place (Text.bytes (outer ++ inner))
          (classify rest gap ++ pieces.flatMap (Piece.entries kind rest))) := by
  -- `inner` is what the cursor has left behind in the slice, and `gap` what it has not taken yet.
  induction pieces generalizing inner gap with
  | nil =>
    have last := cut (outer ++ inner) gap back (by simp [whole])
    simpa [Piece.ranges, walk, Nat.add_assoc] using last
  | cons piece tail ih =>
    have later := ih (List.isChain_of_isChain_cons separate) (List.forall_mem_cons.mp filled).2
    cases piece with
    | gap text =>
      -- A gap waits until a match or the end, and no other gap waits before it.
      have empty : gap = [] :=
        apart.resolve_right fun none => none (.gap text) (by simp) ⟨text, rfl⟩
      subst empty
      have next : ∀ piece ∈ tail.head?, ¬ piece.IsGap := by
        cases tail with
        | nil => simp
        | cons piece rest =>
          rw [Piece.Separate, List.isChain_cons_cons] at separate
          simpa using fun gap => separate.1 ⟨⟨text, rfl⟩, gap⟩
      have walked := later inner text (Or.inr next) (by simpa [Piece.text] using whole)
      simpa [Piece.ranges, Piece.text, Piece.entries] using walked
    | hit text name =>
      -- The waiting gap, the match and the pieces behind it follow each other.
      have size : 0 < Text.bytes text := Text.bytes_pos (List.forall_mem_cons.mp filled).1
      simp only [List.flatMap_cons, Piece.text_hit] at whole ⊢
      have before := cut (outer ++ inner) gap (text ++ tail.flatMap Piece.text ++ back)
        (by simp [whole])
      have claimed := Text.slice?_ofList (outer ++ inner ++ gap) text
        (tail.flatMap Piece.text ++ back)
      have walked := later (inner ++ gap ++ text) [] (Or.inl rfl) (by simp [whole])
      simp only [List.append_assoc] at whole claimed
      simp only [← whole, Text.bytes_append, List.append_nil, classify_nil, List.nil_append,
        Nat.add_assoc] at before claimed walked
      -- The match is not empty, so the cursor takes it.
      have apart : ¬ Text.bytes inner + Text.bytes gap =
          Text.bytes inner + (Text.bytes gap + Text.bytes text) := by omega
      simp only [Piece.ranges, walk, Text.bytes_append, Nat.add_assoc, if_neg apart, before,
        claimed, walked, Piece.entries, place_append, flatMap_snd_classify, List.cons_append]
      simp [place, Token.stop, Text.bytes, Nat.add_assoc]

/-- The cursor finds between two boundaries the tokens of what stands there. -/
theorem tokens_search (categories : List Category) (front text back : List Char)
    (whole : template = String.ofList (front ++ text ++ back)) :
    tokens template (categories.map Category.search) (Text.bytes front)
      (Text.bytes front + Text.bytes text) =
        some (place (Text.bytes front) (classify categories text)) := by
  have sliced := Text.slice?_ofList front text back
  rw [← whole] at sliced
  -- The rest of the table is asked for gaps of the text, so what stands around the text varies.
  induction categories generalizing front text back with
  | nil =>
    -- What is left when no category remains is literal text, if there is any.
    by_cases empty : text = []
    · subst empty
      simp [tokens, place]
    · have size := Text.bytes_pos empty
      have apart : ¬ Text.bytes front = Text.bytes front + Text.bytes text := by omega
      rw [List.map_nil, tokens, if_neg apart, sliced]
      simp [classify, empty, place]
  | cons category rest ih =>
    -- The rest of the table finds in each gap what it would find in a text of its own.
    have cut : ∀ front text back, template = String.ofList (front ++ text ++ back) →
        tokens template (rest.map Category.search) (Text.bytes front)
          (Text.bytes front + Text.bytes text) =
            some (place (Text.bytes front) (classify rest text)) := by
      intro front text back whole
      exact ih front text back whole (whole ▸ Text.slice?_ofList front text back)
    -- The pieces of the text alternate, and none of them is empty.
    have walked := walk_pieces category.kind cut
      (separate_carve 0 text (category.pattern.program.hits text))
      text_ne_nil_of_mem_carve front [] [] back (Or.inl rfl)
      (by simpa [flatMap_text_carve] using whole)
    simp only [flatMap_text_carve, List.drop_zero, List.nil_append, List.append_nil, classify_nil,
      Text.bytes_nil] at walked
    rw [List.map_cons, Category.search, tokens, sliced, classify_cons]
    simpa [Pattern.search, Pattern.pieces] using walked

end Cursor

/-- The cursor finds tokens that cut the template into pieces, for any table of searches. -/
theorem Cursor.tokens_partition (template : String) (table : List (TokenKind × Search)) :
    ∃ tokens, Cursor.tokens template table 0 template.utf8ByteSize = some tokens ∧
      Partition template tokens := by
  -- Both ends of the template are boundaries, so the tokens between them are adjacent.
  obtain ⟨tokens, cut, adjacent⟩ := tokens_cuts template table 0 template.utf8ByteSize
    (Text.boundary_zero template) (Text.boundary_end template) (Nat.zero_le _)
  exact ⟨tokens, cut, adjacent.partition⟩

/-- The cursor finds the tokens of a template. -/
theorem Cursor.tokens_template (categories : List Category) (template : String) :
    Cursor.tokens template (categories.map Category.search) 0 template.utf8ByteSize =
      some (tokenize categories template) := by
  have whole : template = String.ofList ([] ++ template.toList ++ []) := by simp
  simpa [Text.bytes, tokenize] using tokens_search categories [] template.toList [] whole

/-- The tokens of a template cut it into pieces. -/
theorem partition_tokenize (categories : List Category) (template : String) :
    Partition template (tokenize categories template) := by
  -- The tokens are those of a cursor, and whatever a cursor finds cuts the template.
  obtain ⟨tokens, cut, partition⟩ :=
    Cursor.tokens_partition template (categories.map Category.search)
  rw [Cursor.tokens_template, Option.some.injEq] at cut
  exact cut ▸ partition

/-- The tokens of a template cut it into pieces, and only the empty template has none. A cursor
over byte positions that takes a slice for every span and every match finds these tokens; with any
other searches it never lacks a slice either, and what it finds cuts the template into pieces. -/
theorem tokenize_partition (categories : List Category) (template : String) :
    Partition template (tokenize categories template) ∧
      (tokenize categories template = [] ↔ template = "") ∧
      Cursor.tokens template (categories.map Category.search) 0 template.utf8ByteSize =
        some (tokenize categories template) ∧
      ∀ table : List (TokenKind × Search), ∃ tokens,
        Cursor.tokens template table 0 template.utf8ByteSize = some tokens ∧
          Partition template tokens := by
  have partition := partition_tokenize categories template
  exact ⟨partition, partition.eq_nil_iff, Cursor.tokens_template categories template,
    Cursor.tokens_partition template⟩

end TagTemplate

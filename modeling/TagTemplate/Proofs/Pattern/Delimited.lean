import TagTemplate.Markup
import TagTemplate.Proofs.Pattern.Sweep

/-! Patterns for text between delimiters match exactly that, and the usual patterns are of this
form. -/

namespace TagTemplate

namespace CharSet

/-- The set of one character holds that character alone. -/
@[simp] theorem contains_single {c d : Char} : (single d).contains c = true ↔ c = d := by
  -- The set is a range whose ends are the same character.
  simp only [single, contains, Bool.and_eq_true, decide_eq_true_eq]
  constructor
  · rintro ⟨low, high⟩
    exact Char.le_antisymm high low
  · rintro rfl
    exact ⟨Char.le_refl c, Char.le_refl c⟩

/-- A set and its complement share no character. -/
@[simp] theorem contains_compl {set : CharSet} {c : Char} :
    (compl set).contains c = true ↔ ¬ set.contains c = true := by
  simp [contains]

/-- The characters of two sets together are those of either one. -/
@[simp] theorem contains_union {left right : CharSet} {c : Char} :
    (union left right).contains c = true ↔ left.contains c = true ∨ right.contains c = true := by
  simp [contains]

end CharSet

namespace Program

/-- From an address the program matches those words of a language that stand at the front of a
text, whatever stands before the text. -/
def Takes (program : Program) (address : Nat) (language : List Char → Prop)
    (text : List Char) : Prop :=
  ∀ before hit, program.hitAt before text address = some hit ↔
    ∃ word rest, text = word ++ rest ∧ language word ∧ hit = ⟨word.length, .absent⟩

variable {program : Program} {address : Nat} {language : List Char → Prop} {text : List Char}

/-- Languages of the same words are matched alike. -/
theorem Takes.congr {other : List Char → Prop} (takes : program.Takes address language text)
    (same : ∀ word, language word ↔ other word) : program.Takes address other text := by
  intro before hit
  simp only [takes before hit, same]

/-- Past the last instruction only the empty word is matched. -/
theorem takes_done (outside : program.toList.drop address = []) (text : List Char) :
    program.Takes address (fun word => word = []) text := by
  intro before hit
  -- Nothing is left to drop from the program, so no instruction stands at the address.
  have absent : program[address]? = none := by
    rw [← Array.getElem?_toList, ← List.head?_drop, outside, List.head?_nil]
  rw [hitAt_done absent, Option.some.injEq]
  constructor
  · rintro rfl
    exact ⟨[], text, rfl, rfl, rfl⟩
  · rintro ⟨_, _, _, rfl, rfl⟩
    rfl

/-- A reading instruction puts a character of its set in front of what follows it. -/
theorem takes_read {set : CharSet} (here : program[address]? = some (.read set))
    (next : ∀ c tail, text = c :: tail → program.Takes (address + 1) language tail) :
    program.Takes address
      (fun word => ∃ c tail, word = c :: tail ∧ set.contains c = true ∧ language tail) text := by
  intro before hit
  rw [hitAt_read here]
  constructor
  · -- A character must be there, it must be of the set, and what follows it is taken by what
    -- follows.
    intro taken
    cases text with
    | nil => simp [readAt] at taken
    | cons c text =>
      by_cases held : set.contains c = true
      · simp only [readAt, held, if_true, Option.map_eq_some_iff] at taken
        obtain ⟨inner, found, rfl⟩ := taken
        obtain ⟨tail, rest, rfl, spoken, rfl⟩ := (next c text rfl _ _).mp found
        exact ⟨c :: tail, rest, rfl, ⟨c, tail, rfl, held, spoken⟩, rfl⟩
      · simp [readAt, held] at taken
  · -- A word in front of the text starts with a character, which the instruction reads.
    rintro ⟨_, rest, rfl, ⟨c, tail, rfl, held, spoken⟩, rfl⟩
    have found := (next c (tail ++ rest) rfl (some c) _).mpr ⟨tail, rest, rfl, spoken, rfl⟩
    simp [readAt, held, found, Hit.grow]

/-- A fork between languages of which a text starts with words of one at most matches both. -/
theorem takes_fork {first second : Nat} {set : CharSet} {other : List Char → Prop}
    (here : program[address]? = some (.fork first second))
    (reads : program[first]? = some (.read set)) (settles : program.Settles second)
    (distinct : address ≠ second) (different : first ≠ second)
    (takesFirst : program.Takes first language text)
    (takesSecond : program.Takes second other text)
    (apart : ∀ word rest, text = word ++ rest → other word →
      ¬ ∃ word rest, text = word ++ rest ∧ language word) :
    program.Takes address (fun word => language word ∨ other word) text := by
  intro before hit
  -- The second address is only asked where the first one finds nothing.
  rw [hitAt_fork here reads settles distinct different, Option.or_eq_some_iff]
  constructor
  · -- Each of the two languages is taken from its own address.
    rintro (found | ⟨_, found⟩)
    · obtain ⟨word, rest, same, spoken, size⟩ := (takesFirst before hit).mp found
      exact ⟨word, rest, same, Or.inl spoken, size⟩
    · obtain ⟨word, rest, same, spoken, size⟩ := (takesSecond before hit).mp found
      exact ⟨word, rest, same, Or.inr spoken, size⟩
  · rintro ⟨word, rest, same, spoken | spoken, size⟩
    · exact Or.inl ((takesFirst before hit).mpr ⟨word, rest, same, spoken, size⟩)
    · -- The first address finds nothing, since its words cannot stand here.
      refine Or.inr ⟨?_, (takesSecond before hit).mpr ⟨word, rest, same, spoken, size⟩⟩
      rw [Option.eq_none_iff_forall_ne_some]
      intro found taken
      obtain ⟨word', rest', same', spoken', _⟩ := (takesFirst before found).mp taken
      exact apart word rest same spoken ⟨word', rest', same', spoken'⟩

/-- Instructions that read given characters put those in front of what follows them. -/
theorem takes_literal {chars : List Char} {code : List Instruction}
    (here : program.toList.drop address = chars.map (fun c => .read (.single c)) ++ code)
    (next : ∀ text, program.Takes (address + chars.length) language text) (text : List Char) :
    program.Takes address (fun word => ∃ tail, word = chars ++ tail ∧ language tail) text := by
  -- Each character has an instruction of its own, so the address moves along with the characters.
  induction chars generalizing address text with
  | nil => simpa using next text
  | cons c chars ih =>
    obtain ⟨reads, after⟩ := getElem?_of_drop here
    have size : address + 1 + chars.length = address + (c :: chars).length := by
      simp only [List.length_cons]
      omega
    have tail : program.Takes address _ text :=
      takes_read reads fun _ tail _ => ih after (size ▸ next) tail
    -- A set of one character can only be read by that character.
    refine tail.congr fun word => ?_
    simp only [CharSet.contains_single]
    constructor
    · rintro ⟨_, _, rfl, rfl, tail, rfl, spoken⟩
      exact ⟨tail, rfl, spoken⟩
    · rintro ⟨tail, rfl, spoken⟩
      exact ⟨c, chars ++ tail, rfl, rfl, tail, rfl, spoken⟩

/-- The words of one or more characters of a set with a word of a language behind them. -/
def Run (set : CharSet) (language : List Char → Prop) (word : List Char) : Prop :=
  ∃ run tail, word = run ++ tail ∧ run ≠ [] ∧ (∀ c ∈ run, set.contains c = true) ∧ language tail

/-- Behind the first character of a run there is another run or a word of the language. -/
theorem run_iff {set : CharSet} {word : List Char} :
    Run set language word ↔ ∃ c tail, word = c :: tail ∧ set.contains c = true ∧
      (Run set language tail ∨ language tail) := by
  constructor
  · rintro ⟨run, tail, rfl, filled, held, spoken⟩
    obtain ⟨c, run, rfl⟩ := List.exists_cons_of_ne_nil filled
    rw [List.forall_mem_cons] at held
    refine ⟨c, run ++ tail, rfl, held.1, ?_⟩
    -- The run ends behind its first character, or the rest of it is a run.
    by_cases last : run = []
    · subst last
      exact Or.inr spoken
    · exact Or.inl ⟨run, tail, rfl, last, held.2, spoken⟩
  · -- A run is extended at its front, or it is that character alone.
    rintro ⟨c, _, rfl, held, ⟨run, tail, rfl, filled, others, spoken⟩ | spoken⟩
    · exact ⟨c :: run, tail, rfl, by simp, List.forall_mem_cons.mpr ⟨held, others⟩, spoken⟩
    · exact ⟨[c], _, rfl, by simp, by simpa using held, spoken⟩

/-- A repeated set puts a run of its characters in front of words that start with another one. -/
theorem takes_run {set : CharSet} {code : List Instruction}
    (here : program.toList.drop address = .read set :: .fork address (address + 2) :: code)
    (settles : program.Settles (address + 2))
    (next : ∀ text, program.Takes (address + 2) language text)
    (stops : ∀ word, language word → ∃ c tail, word = c :: tail ∧ set.contains c = false)
    (text : List Char) : program.Takes address (Run set language) text := by
  obtain ⟨reads, after⟩ := getElem?_of_drop here
  obtain ⟨forks, _⟩ := getElem?_of_drop after
  -- After each character the program first tries to read another one, so the text gets shorter.
  induction text with
  | nil => exact (takes_read reads (by simp)).congr fun word => run_iff.symm
  | cons c text ih =>
    -- Behind the first character the program forks to another turn or to what follows the run.
    have both := takes_fork forks reads settles (by omega) (by omega) ih (next text) (by
      -- A word behind the run starts with a character that no run can start with.
      rintro word rest rfl spoken ⟨_, _, same, longer⟩
      obtain ⟨d, tail, rfl, outside⟩ := stops word spoken
      obtain ⟨e, _, rfl, inside, _⟩ := run_iff.mp longer
      simp only [List.cons_append, List.cons.injEq] at same
      simp [same.1, inside] at outside)
    have taken : program.Takes address _ (c :: text) := takes_read reads fun _ tail same => by
      cases same
      exact both
    exact taken.congr fun word => run_iff.symm

end Program

/-- A form of text: some characters of a set between two delimiters, of which the closing one
starts with a character outside the set. -/
structure Delimited where
  front : List Char
  inner : CharSet
  back : List Char
  stops : ∃ c rest, back = c :: rest ∧ inner.contains c = false

namespace Delimited

/-- The texts of a form. -/
def Fits (form : Delimited) (word : List Char) : Prop :=
  ∃ body, word = form.front ++ body ++ form.back ∧ body ≠ [] ∧
    ∀ c ∈ body, form.inner.contains c = true

/-- The instructions that read the texts of a form. -/
def code (form : Delimited) : List Instruction :=
  form.front.map (fun c => .read (.single c)) ++
    .read form.inner :: .fork form.front.length (form.front.length + 2) ::
      form.back.map fun c => .read (.single c)

/-- A program with the instructions of a form matches exactly the texts of that form. -/
theorem takes {form : Delimited} {program : Program} (same : program.toList = form.code)
    (text : List Char) : program.Takes 0 form.Fits text := by
  -- The closing delimiter ends the program, the run stands before it, the opening one in front.
  have front : program.toList.drop 0 = form.front.map (fun c => .read (.single c)) ++
      .read form.inner :: .fork form.front.length (form.front.length + 2) ::
        form.back.map fun c => .read (.single c) := same
  have middle : program.toList.drop form.front.length =
      .read form.inner :: .fork form.front.length (form.front.length + 2) ::
        form.back.map fun c => .read (.single c) := by
    simp [same, code]
  have back : program.toList.drop (form.front.length + 2) =
      form.back.map fun c => .read (.single c) := by
    rw [← List.drop_drop, middle, List.drop_succ_cons, List.drop_succ_cons, List.drop_zero]
  have ending : program.toList.drop (form.front.length + 2 + form.back.length) = [] := by
    rw [← List.drop_drop, back]
    simp
  -- The closing delimiter starts with a reading instruction, so the fork has no further choice.
  obtain ⟨c, rest, opens, outside⟩ := form.stops
  have settles : program.Settles (form.front.length + 2) := by
    rw [opens, List.map_cons] at back
    intro instruction held
    rw [(Program.getElem?_of_drop back).1, Option.some.injEq] at held
    exact ⟨_, held.symm⟩
  have closing := Program.takes_literal (back.trans (List.append_nil _).symm)
    (Program.takes_done ending)
  have run := Program.takes_run middle settles closing (by
    rintro word ⟨_, rfl, rfl⟩
    exact ⟨c, rest, by simp [opens], outside⟩)
  have whole := Program.takes_literal front (by rw [Nat.zero_add]; exact run) text
  -- Word by word, the three parts put together are the texts of the form.
  refine whole.congr fun word => ?_
  constructor
  · rintro ⟨_, rfl, body, _, rfl, filled, held, _, rfl, rfl⟩
    exact ⟨body, by simp, filled, held⟩
  · rintro ⟨body, rfl, filled, held⟩
    exact ⟨_, List.append_assoc .., body, form.back, rfl, filled, held, [], by simp, rfl⟩

/-- The form of the usual opening tags. -/
def opening : Delimited where
  front := ['<']
  inner := .compl (.union (.single '>') (.single '/'))
  back := ['>']
  stops := ⟨'>', [], rfl, rfl⟩

/-- The form of the usual closing tags. -/
def closing : Delimited where
  front := ['<', '/']
  inner := .compl (.union (.single '>') (.single '/'))
  back := ['>']
  stops := ⟨'>', [], rfl, rfl⟩

/-- The form of the usual self-closing tags. -/
def selfClosing : Delimited where
  front := ['<']
  inner := .compl (.union (.single '>') (.single '/'))
  back := ['/', '>']
  stops := ⟨'/', ['>'], rfl, rfl⟩

/-- The form of the usual placeholders. -/
def placeholder : Delimited where
  front := ['{']
  inner := .compl (.union (.single '{') (.single '}'))
  back := ['}']
  stops := ⟨'}', [], rfl, rfl⟩

/-- The usual opening tags are of their form. -/
theorem code_opening : Pattern.plainOpening.program.toList = opening.code := rfl

/-- The usual closing tags are of their form. -/
theorem code_closing : Pattern.plainClosing.program.toList = closing.code := rfl

/-- The usual self-closing tags are of their form. -/
theorem code_selfClosing : Pattern.plainSelfClosing.program.toList = selfClosing.code := rfl

/-- The usual placeholders are of their form. -/
theorem code_placeholder : Pattern.plainPlaceholder.program.toList = placeholder.code := rfl

end Delimited

end TagTemplate

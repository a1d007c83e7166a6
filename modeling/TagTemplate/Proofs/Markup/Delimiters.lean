import TagTemplate.Markup

/-! Stripping delimiters by counts of characters, for all counts that are machine words. What is
left is the middle of the text as long as the sum of the counts is a word too; a greater sum wraps
around, and then nothing is stripped at the end. -/

namespace TagTemplate

namespace Text

/-- The characters of a text behind the first `front` and before the last `back` ones, for counts of
any size; nothing if the text has fewer characters than that. -/
def middle (text : String) (front back : Nat) : String :=
  if front + back ≤ text.length then
    String.ofList (text.toList.extract front (text.length - back))
  else ""

/-- The middle of a text is what is taken of the text behind the front. -/
theorem toList_middle (text : String) (front back : Nat) :
    (middle text front back).toList =
      (text.toList.drop front).take (text.length - (front + back)) := by
  unfold middle
  by_cases enough : front + back ≤ text.length
  · -- What is left of the end count is what both counts leave of the whole.
    have kept : text.length - back - front = text.length - (front + back) := by omega
    rw [if_pos enough, String.toList_ofList, List.extract_eq_take_drop, kept]
  · -- Counts that are too great leave no character to take.
    have none : text.length - (front + back) = 0 := by omega
    rw [if_neg enough, none, List.take_zero]
    rfl

/-- The middle of a text has the characters that are not counted off. -/
@[simp] theorem length_middle (text : String) (front back : Nat) :
    (middle text front back).length = text.length - (front + back) := by
  -- Behind the front there may be fewer characters than are taken, so the lesser number counts.
  rw [← String.length_toList, toList_middle, List.length_take, List.length_drop,
    String.length_toList]
  omega

/-- Middles behind the same front are the same if they have the same number of characters. -/
theorem middle_eq_iff {text : String} {front back other : Nat} :
    middle text front back = middle text front other ↔
      text.length - (front + back) = text.length - (front + other) := by
  constructor
  · intro same
    simpa using congrArg String.length same
  · intro same
    apply String.toList_injective
    rw [toList_middle, toList_middle, same]

/-- The middle of a middle is a middle of the text, with the counts added up. -/
theorem middle_middle (text : String) (front back first last : Nat) :
    middle (middle text front back) first last = middle text (front + first) (back + last) := by
  apply String.toList_injective
  -- What the first cut leaves behind its front is no less than what the second one takes.
  have kept : min (text.length - (front + back) - (first + last))
      (text.length - (front + back) - first) =
      text.length - (front + first + (back + last)) := by omega
  rw [toList_middle, toList_middle, toList_middle, length_middle, List.drop_take, List.take_take,
    List.drop_drop, kept]

/-- A text between two others is the middle of all three. -/
theorem middle_append (before text after : String) :
    middle (before ++ text ++ after) before.length after.length = text := by
  apply String.toList_injective
  -- The counts are the lengths of both neighbours, which leaves the length of the text between.
  have kept : (before ++ text ++ after).length - (before.length + after.length) =
      text.length := by
    simp only [String.length_append]
    omega
  rw [toList_middle, kept, String.toList_append, String.toList_append, List.append_assoc,
    List.drop_left' String.length_toList, List.take_left' String.length_toList]

end Text

/-- Words whose sum is a word add up as numbers do. -/
theorem toNat_add_of_fits {left right : UInt64}
    (fits : left.toNat + right.toNat < UInt64.size) :
    (left + right).toNat = left.toNat + right.toNat := by
  -- A sum that is a word is its own remainder.
  rw [UInt64.toNat_add, Nat.mod_eq_of_lt fits]

/-- Stripping takes what the wrapped sum of the counts leaves of the text behind the front. -/
theorem toList_stripDelimiters (raw : String) (front back : UInt64) :
    (stripDelimiters raw front back).toList =
      (raw.toList.drop front.toNat).take (raw.length - (front + back).toNat) := by
  simp only [stripDelimiters, String.length_toList]
  by_cases short : raw.length < (front + back).toNat
  · -- A text that is too short leaves nothing, as it does when nothing is left to take.
    have none : raw.length - (front + back).toNat = 0 := by omega
    rw [if_pos short, none, List.take_zero]
    rfl
  · rw [if_neg short, String.toList_ofList]

/-- How many characters are stripped at the end: all that are counted if the counts have a sum among
the words, and none otherwise. -/
def strippedBehind (front back : UInt64) : Nat :=
  if front.toNat + back.toNat < UInt64.size then back.toNat else 0

/-- Stripping leaves the middle of the text without the characters that are stripped. -/
theorem stripDelimiters_eq_middle (raw : String) (front back : UInt64) :
    stripDelimiters raw front back =
      Text.middle raw front.toNat (strippedBehind front back) := by
  apply String.toList_injective
  rw [toList_stripDelimiters, Text.toList_middle, List.take_eq_take_iff, List.length_drop,
    String.length_toList, UInt64.toNat_add, strippedBehind]
  have first := front.toNat_lt
  have last := back.toNat_lt
  simp only [UInt64.size]
  -- A sum that wraps around is less than the front, so it leaves all that is behind the front.
  split <;> omega

/-- The text between two others is left if they are stripped off and their lengths have a sum among
the words. -/
theorem stripDelimiters_append {before name after : String} {front back : UInt64}
    (first : before.length = front.toNat) (last : after.length = back.toNat)
    (fits : front.toNat + back.toNat < UInt64.size) :
    stripDelimiters (before ++ name ++ after) front back = name := by
  -- All counted characters are stripped, so the middle between the two texts is left.
  rw [stripDelimiters_eq_middle, strippedBehind, if_pos fits, ← first, ← last]
  exact Text.middle_append before name after

/-- Stripping twice is stripping the sums of the counts, as long as all four counts have a sum among
the words. Otherwise it still is if nothing of the text is behind the front, or if neither time any
character is stripped at the end, and in no other case. -/
theorem stripDelimiters_twice_iff (raw : String) {front back first last : UInt64}
    (fronts : front.toNat + first.toNat < UInt64.size)
    (backs : back.toNat + last.toNat < UInt64.size) :
    stripDelimiters (stripDelimiters raw front back) first last =
        stripDelimiters raw (front + first) (back + last) ↔
      front.toNat + back.toNat + (first.toNat + last.toNat) < UInt64.size ∨
        raw.length ≤ front.toNat + first.toNat ∨
          strippedBehind front back = 0 ∧ strippedBehind first last = 0 := by
  have before := toNat_add_of_fits fronts
  have after := toNat_add_of_fits backs
  -- Both sides are middles behind the same front, so the numbers of characters decide.
  rw [stripDelimiters_eq_middle, stripDelimiters_eq_middle, stripDelimiters_eq_middle,
    Text.middle_middle, before, Text.middle_eq_iff]
  -- Which counts are stripped at the end depends on three sums, so all their cases are looked at.
  simp only [strippedBehind, before, after]
  split <;> split <;> split <;> omega

/-- How sums and differences of words are taken; no result stands for a run that ends there. -/
structure WordArithmetic where
  add : UInt64 → UInt64 → Option UInt64
  sub : UInt64 → UInt64 → Option UInt64

namespace WordArithmetic

/-- Results outside the range of words wrap around. -/
def wrapping : WordArithmetic where
  add left right := some (left + right)
  sub left right := some (left - right)

/-- Results outside the range of words end the run. -/
def checked : WordArithmetic where
  add left right := if left.toNat + right.toNat < UInt64.size then some (left + right) else none
  sub left right := if right ≤ left then some (left - right) else none

/-- Strips delimiters with every count in a word, the one of the characters too. -/
def strip (arithmetic : WordArithmetic) (raw : String) (front back : UInt64) : Option String := do
  let count := UInt64.ofNat raw.length
  let both ← arithmetic.add front back
  if count < both then return ""
  let behind ← arithmetic.sub count front
  let kept ← arithmetic.sub behind back
  return String.ofList ((raw.toList.drop front.toNat).take kept.toNat)

variable {raw : String}

/-- With words that wrap around, what is left is what `stripDelimiters` leaves. -/
theorem strip_wrapping (counted : raw.length < UInt64.size) (front back : UInt64) :
    wrapping.strip raw front back = some (stripDelimiters raw front back) := by
  have count := UInt64.toNat_ofNat_of_lt' counted
  have first := front.toNat_lt
  have last := back.toNat_lt
  simp only [strip, wrapping, Option.bind_eq_bind, Option.bind_some, Option.pure_def,
    UInt64.lt_iff_toNat_lt, count, stripDelimiters, String.length_toList]
  -- Both ask first whether the text is shorter than the wrapped sum.
  by_cases short : raw.length < (front + back).toNat
  · rw [if_pos short, if_pos short]
  · -- What the sum lost by wrapping around, the two differences lose again.
    have kept : (UInt64.ofNat raw.length - front - back).toNat =
        raw.length - (front + back).toNat := by
      simp only [UInt64.size] at counted
      rw [UInt64.toNat_add] at short ⊢
      rw [UInt64.toNat_sub, UInt64.toNat_sub, count]
      omega
    rw [if_neg short, if_neg short, kept]

/-- With checked words, counts that have a sum among the words leave the middle of the text, and no
difference falls below zero; other counts end the run. -/
theorem strip_checked (counted : raw.length < UInt64.size) (front back : UInt64) :
    checked.strip raw front back =
      if front.toNat + back.toNat < UInt64.size
      then some (Text.middle raw front.toNat back.toNat) else none := by
  -- Only the sum can fail: once it is a word, the guard keeps both differences from falling below
  -- zero.
  by_cases fits : front.toNat + back.toNat < UInt64.size
  · have count := UInt64.toNat_ofNat_of_lt' counted
    have sum := toNat_add_of_fits fits
    simp only [strip, checked, Option.bind_eq_bind, if_pos fits, Option.bind_some, Option.pure_def,
      UInt64.lt_iff_toNat_lt, count, sum]
    by_cases short : raw.length < front.toNat + back.toNat
    · rw [if_pos short, Text.middle, if_neg (by omega)]
    · -- The text is long enough for both counts, so both differences are there.
      have behind : front ≤ UInt64.ofNat raw.length := by
        rw [UInt64.le_iff_toNat_le, count]
        omega
      have left : (UInt64.ofNat raw.length - front).toNat = raw.length - front.toNat := by
        rw [UInt64.toNat_sub_of_le _ _ behind, count]
      have kept : back ≤ UInt64.ofNat raw.length - front := by
        rw [UInt64.le_iff_toNat_le, left]
        omega
      rw [if_neg short, if_pos behind, Option.bind_some, if_pos kept, Option.bind_some,
        UInt64.toNat_sub_of_le _ _ kept, left, Text.middle, if_pos (Nat.le_of_not_lt short),
        List.extract_eq_take_drop, Nat.sub_right_comm]
  · simp [strip, checked, fits]

end WordArithmetic

/-- What becomes of a text when counts of characters are stripped from its ends. -/
structure Stripping (raw : String) (front back : UInt64) : Prop where
  /-- Counts that have a sum among the words leave the middle of the text. -/
  fitting : front.toNat + back.toNat < UInt64.size →
    stripDelimiters raw front back = Text.middle raw front.toNat back.toNat
  /-- Of other counts the one for the end is passed over, and the middle of the text, which is
  empty, is left only if there is nothing behind the front. -/
  wrapped : UInt64.size ≤ front.toNat + back.toNat →
    stripDelimiters raw front back = Text.middle raw front.toNat 0 ∧
      (stripDelimiters raw front back = Text.middle raw front.toNat back.toNat ↔
        raw.length ≤ front.toNat)
  /-- This is the outcome in words that wrap around. -/
  wrapping : WordArithmetic.wrapping.strip raw front back = some (stripDelimiters raw front back)
  /-- In checked words, no sum or difference leaves their range if the counts have a sum, and
  otherwise one does. -/
  checked : WordArithmetic.checked.strip raw front back =
    if front.toNat + back.toNat < UInt64.size
    then some (Text.middle raw front.toNat back.toNat) else none
  /-- A name between delimiters of as many characters as are stripped is left. -/
  delimited : ∀ before name after : String, raw = before ++ name ++ after →
    before.length = front.toNat → after.length = back.toNat →
      stripDelimiters raw front back = name
  /-- Stripping once more is stripping the sums, if all counts together have a sum among the words;
  the other two cases are those in which the counts for the end do not matter. -/
  again : ∀ first last : UInt64, front.toNat + first.toNat < UInt64.size →
    back.toNat + last.toNat < UInt64.size →
      (stripDelimiters (stripDelimiters raw front back) first last =
          stripDelimiters raw (front + first) (back + last) ↔
        front.toNat + back.toNat + (first.toNat + last.toNat) < UInt64.size ∨
          raw.length ≤ front.toNat + first.toNat ∨
            strippedBehind front back = 0 ∧ strippedBehind first last = 0)

/-- Stripping leaves exactly the middle of a text if the counts have a sum among the words, and with
it any name between its delimiters. Of greater counts only the one for the front is stripped. The
number of characters itself is a word, as it is for every text that fits in memory. -/
theorem stripDelimiters_exact {raw : String} (counted : raw.length < UInt64.size)
    (front back : UInt64) : Stripping raw front back where
  fitting fits := by rw [stripDelimiters_eq_middle, strippedBehind, if_pos fits]
  wrapped large := by
    rw [stripDelimiters_eq_middle, strippedBehind, if_neg (Nat.not_lt.mpr large)]
    -- The whole middle is empty, so it can only be left where nothing is behind the front.
    refine ⟨rfl, Text.middle_eq_iff.trans ?_⟩
    have first := front.toNat_lt_size
    omega
  wrapping := WordArithmetic.strip_wrapping counted front back
  checked := WordArithmetic.strip_checked counted front back
  delimited := by
    rintro before name after rfl first last
    -- The delimiters are part of a text whose length is a word.
    have fits : front.toNat + back.toNat < UInt64.size := by
      simp only [String.length_append] at counted
      omega
    exact stripDelimiters_append first last fits
  again first last fronts backs := stripDelimiters_twice_iff raw fronts backs

/-- A name with a character of two bytes, in a bracket that is stripped twice. -/
theorem stripDelimiters_exact_nested :
    let raw := "<<ñame/>>"
    raw.length < UInt64.size ∧
      WordArithmetic.checked.strip raw 2 3 = some "ñame" ∧ stripDelimiters raw 2 3 = "ñame" ∧
      stripDelimiters (stripDelimiters raw 1 1) 1 2 = stripDelimiters raw (1 + 1) (1 + 2) := by
  intro raw
  have counted : raw.length < UInt64.size := by decide
  -- The same law is used for the whole bracket and for its outer layer.
  have once := stripDelimiters_exact counted 2 3
  have twice := stripDelimiters_exact counted 1 1
  have name := once.delimited "<<" "ñame" "/>>" rfl rfl rfl
  refine ⟨counted, ?_, name, ?_⟩
  · rw [once.checked, if_pos (by decide), ← once.fitting (by decide), name]
  · exact (twice.again 1 2 (by decide) (by decide)).mpr (.inl (by decide))

/-- Counts whose sum wraps around: the end of the text stays, though the text is too short for the
counts, and stripping in two steps leaves less than stripping the sums. In checked words the run
ends. -/
theorem stripDelimiters_ne_middle :
    stripDelimiters "<name>" 1 18446744073709551615 = "name>" ∧
      Text.middle "<name>" 1 18446744073709551615 = "" ∧
      WordArithmetic.checked.strip "<name>" 1 18446744073709551615 = none ∧
      stripDelimiters (stripDelimiters "abc" 1 9223372036854775808) 1 9223372036854775807 = "" ∧
      stripDelimiters "abc" (1 + 1) (9223372036854775808 + 9223372036854775807) = "c" := by
  decide +kernel

end TagTemplate

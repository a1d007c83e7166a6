import TagTemplate.Proofs.Json.Context
import TagTemplate.Proofs.Number.Display
import TagTemplate.Proofs.Render.Uses

/-! Integers among the members of a JSON object, and the text that they leave in a rendering. -/

namespace TagTemplate.Json

/-- What is shown for an integer: the integer itself in the range of a signed word, and beyond it
the shortest digits of the nearest number of double precision, which read back to that number. -/
structure Shows (n shown : Int) : Prop where
  exact : n ≤ Int64.maxValue.toInt → shown = n
  rounded : Int64.maxValue.toInt < n →
    (Number.float (.ofInt n)).display = toString shown ∧ 1000 ∣ shown ∧
      Binary64.ofInt shown = .ofInt n
  near : shown ≤ n + 2048 ∧ n ≤ shown + 2048
  whole : 10000 ∣ n → shown = n

/-- Every integer of a signed or unsigned word has something to show, which is the text that its
context value stands for. -/
theorem exists_shows {n : Int} (least : Int64.minValue.toInt ≤ n) (most : n < UInt64.size) :
    ∃ shown, Shows n shown ∧ (int n).contextValue.text? = some (toString shown) := by
  by_cases fits : n ≤ Int64.maxValue.toInt
  · -- In the range of a signed word the integer is kept as a word, and shown digit by digit.
    refine ⟨n, ⟨fun _ => rfl, fun beyond => by omega, by omega, fun _ => rfl⟩, ?_⟩
    have held : (Int64.ofInt n).toInt = n := by
      show (Int64.ofIntLE n least fits).toInt = n
      exact Int64.toInt_ofIntLE
    rw [contextValue, if_pos ⟨least, fits⟩, Value.text?, Number.display, held]
  · -- Beyond it the value is a double, of which the display is known up to the unsigned word.
    have signed : Int64.maxValue.toInt = 9223372036854775807 := rfl
    have unsigned : UInt64.size = 18446744073709551616 := rfl
    -- The integer is not negative here, so it is a natural number.
    obtain ⟨n, rfl⟩ := Int.eq_ofNat_of_zero_le (a := n) (by omega)
    obtain ⟨shown, display, divides, reads, low, high, whole⟩ :=
      Number.exists_display_beyond (n := n) (by omega) (by omega)
    refine ⟨shown, ⟨fun within => absurd within fits, fun _ => ⟨display, by omega, reads⟩, by omega,
      fun divides => by omega⟩, ?_⟩
    rw [contextValue, if_neg fun within => fits within.2, Value.text?, display]
    rfl

/-- Of two objects that differ in one member the contexts say the same about every name, or give the
two values of that member. -/
theorem context_member (front back : List (String × Json)) (name : String) (value other : Json) :
    ∃ one two, (object (front ++ (name, value) :: back)).context = .ok one ∧
      (object (front ++ (name, other) :: back)).context = .ok two ∧
      ∀ asked, one.get? asked = two.get? asked ∨
        one.get? asked = some value.contextValue ∧ two.get? asked = some other.contextValue := by
  -- Contexts look from the last member on, so the members behind are asked first.
  obtain ⟨one, first, gives⟩ := exists_context_object (front ++ (name, value) :: back)
  obtain ⟨two, second, givesToo⟩ := exists_context_object (front ++ (name, other) :: back)
  refine ⟨one, two, first, second, fun asked => ?_⟩
  rw [gives, givesToo]
  simp only [List.reverse_append, List.reverse_cons, List.append_assoc, List.lookup_append,
    List.singleton_append, List.lookup_cons]
  -- A member behind the one in question goes before it, and all others are the same in both.
  cases behind : back.reverse.lookup asked with
  | some held => exact Or.inl rfl
  | none =>
    cases asked == name with
    | true => exact Or.inr ⟨rfl, rfl⟩
    | false => exact Or.inl rfl

end TagTemplate.Json

namespace TagTemplate.Tree

/-- Every integer of a signed or unsigned word among the members of an object is rendered like the
JSON string of an integer that depends on it alone: itself in the range of a signed word, and beyond
it the shortest digits of the nearest number of double precision. -/
theorem render_integer {n : Int} (least : Int64.minValue.toInt ≤ n) (most : n < UInt64.size) :
    ∃ shown, Json.Shows n shown ∧
      ∀ (tree : Tree) (config : Config Json) (front back : List (String × Json)) (name : String),
        ∃ one two, (Json.object (front ++ (name, .int n) :: back)).context = .ok one ∧
          (Json.object (front ++ (name, .string (toString shown)) :: back)).context = .ok two ∧
          tree.render config one = tree.render config two := by
  -- The shown integer is chosen before the tree and the object.
  obtain ⟨shown, shows, stands⟩ := Json.exists_shows least most
  refine ⟨shown, shows, fun tree config front back name => ?_⟩
  obtain ⟨one, two, first, second, alike⟩ :=
    Json.context_member front back name (.int n) (.string (toString shown))
  refine ⟨one, two, first, second, ?_⟩
  -- The two contexts differ in one name, where both values stand for the same text.
  have same : ∀ use, one.SameAt two use := Context.sameAt_of_text? fun asked =>
    (alike asked).imp_right fun ⟨held, other⟩ => ⟨_, _, _, held, other, stands, rfl⟩
  rw [render, render, Node.renderAll_congr fun use _ => same use]

/-- A multiple of ten thousand beyond the signed word is joined with the text around it digit by
digit. -/
theorem render_integer_beyond :
    let tree : Tree := ⟨[.text "no. ", .placeholder "n"]⟩
    let config : Config Json := .plain (Json.ofTextRun false)
    (Int64.minValue.toInt ≤ 18446744073709550000 ∧ (18446744073709550000 : Int) < UInt64.size) ∧
      ∃ one two, (Json.object [("m", .null), ("n", .int 18446744073709550000)]).context = .ok one ∧
        (Json.object [("m", .null), ("n", .string "18446744073709550000")]).context = .ok two ∧
        tree.render config one = tree.render config two ∧
        tree.render config one = [.string "no. 18446744073709550000"] := by
  intro tree config
  have least : Int64.minValue.toInt ≤ 18446744073709550000 := by decide
  have most : (18446744073709550000 : Int) < UInt64.size := by decide
  obtain ⟨shown, shows, alike⟩ := render_integer least most
  -- Multiples of ten thousand are shown as themselves.
  obtain rfl : shown = 18446744073709550000 := shows.whole (by decide)
  obtain ⟨one, two, first, second, same⟩ := alike tree config [("m", .null)] [] "n"
  refine ⟨⟨least, most⟩, one, two, first, second, same, same.trans ?_⟩
  rw [← Except.ok.inj second]
  rfl

/-- The greatest integer of an unsigned word is not shown as itself: its double is `2 ^ 64`, which
seventeen digits tell from all others. -/
theorem render_integer_rounded :
    let tree : Tree := ⟨[.placeholder "n"]⟩
    let config : Config Json := .plain (Json.ofTextRun false)
    ∃ one two, (Json.object [("n", .int 18446744073709551615)]).context = .ok one ∧
      (Json.object [("n", .string "18446744073709551615")]).context = .ok two ∧
      tree.render config one = [.string "18446744073709552000"] ∧
      tree.render config two = [.string "18446744073709551615"] ∧
      tree.render config one ≠ tree.render config two := by
  intro tree config
  -- The double and its shortest digits are worked out once.
  have display : (Number.float (.ofInt 18446744073709551615)).display = "18446744073709552000" := by
    decide +kernel
  have rounded : tree.render config (.ofEntries
      [("n", (Json.int 18446744073709551615).contextValue)]) =
        [.string "18446744073709552000"] := by
    -- Rendering only passes the display on.
    show [Json.string (String.join [(Number.float (.ofInt 18446744073709551615)).display])] = _
    rw [display]
    rfl
  have exact : tree.render config (.ofEntries
      [("n", (Json.string "18446744073709551615").contextValue)]) =
        [.string "18446744073709551615"] := rfl
  refine ⟨_, _, rfl, rfl, rounded, exact, fun same => ?_⟩
  have digits := rounded.symm.trans (same.trans exact)
  simp at digits

end TagTemplate.Tree

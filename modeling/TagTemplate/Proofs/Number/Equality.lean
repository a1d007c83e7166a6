import TagTemplate.Number

/-! Equality of numbers: it is reflexive and symmetric, and two equalities in a row leave the ends
at most four steps apart, which is not always near enough for the ends to be equal. -/

namespace TagTemplate

namespace Binary64

/-- How many steps there are between two numbers in the order of their bits, the shorter way around
the circle. -/
def steps (x y : Binary64) : Nat :=
  min (x.orderKey - y.orderKey).toNat (y.orderKey - x.orderKey).toNat

/-- There is no step from a number to itself. -/
@[simp] theorem steps_self (x : Binary64) : x.steps x = 0 := by
  simp [steps]

/-- There are as many steps back as there are forth. -/
theorem steps_comm (x y : Binary64) : x.steps y = y.steps x :=
  -- Both directions are among the two differences, in another order.
  Nat.min_comm ..

/-- A detour takes no fewer steps. -/
theorem steps_triangle (x y z : Binary64) : x.steps z ≤ x.steps y + y.steps z := by
  -- The keys are words, whose differences wrap around; the bounds make them remainders.
  have first := x.orderKey.toNat_lt
  have second := y.orderKey.toNat_lt
  have third := z.orderKey.toNat_lt
  simp only [steps, UInt64.toNat_sub]
  omega

/-- A zero has no bits but that of its sign. -/
theorem bits_of_isZero {x : Binary64} (zero : x.isZero = true) :
    x.bits = 0 ∨ x.bits = 0x8000000000000000 := by
  -- All bits but the highest one are zero, which leaves two words.
  have small := x.bits.toNat_lt
  have none : x.bits.toNat % Nat.pow 2 63 = 0 := by simpa [isZero, magnitude] using zero
  rw [← UInt64.toNat_inj, ← UInt64.toNat_inj]
  simp at *
  omega

/-- Numbers that are equal as numbers are at most one step apart, which is the step between the
zeros. -/
theorem steps_of_same {x y : Binary64} (same : x.same y = true) : x.steps y ≤ 1 := by
  obtain ⟨_, bits | ⟨left, right⟩⟩ : (x.isNaN = false ∧ y.isNaN = false) ∧
      (x.bits = y.bits ∨ x.isZero = true ∧ y.isZero = true) := by
    simpa [Binary64.same] using same
  · -- With the same bits there is no step.
    have alike : x = y := by cases x; cases y; simpa using bits
    simp [alike]
  · -- There are two zeros, so four pairs of them.
    obtain ⟨one⟩ := x
    obtain ⟨other⟩ := y
    rcases bits_of_isZero left with rfl | rfl <;> rcases bits_of_isZero right with rfl | rfl <;>
      decide

/-- Numbers are near each other if they are few enough steps apart. Numbers that are equal as
numbers are no exception as soon as one step is few enough. -/
theorem near_iff {count : UInt64} (pos : 1 ≤ count.toNat) (x y : Binary64) :
    x.near count y = true ↔ x.steps y ≤ count.toNat := by
  simp only [near, Bool.or_eq_true, decide_eq_true_eq, UInt64.le_iff_toNat_le, or_assoc]
  constructor
  · -- Numbers that are equal have one step between them at most, which is few enough.
    rintro (same | forth | back)
    · exact Nat.le_trans (steps_of_same same) pos
    · exact Nat.le_trans (Nat.min_le_left ..) forth
    · exact Nat.le_trans (Nat.min_le_right ..) back
  · -- The shorter way is one of the two differences.
    intro close
    right
    unfold steps at close
    omega

end Binary64

namespace Number

/-- Whether two numbers are alike: integers if they are the same, and otherwise if they are at most
two steps apart in double precision. -/
def Alike : Number → Number → Prop
  | .int left, .int right => left = right
  | left, right => left.toBinary64.steps right.toBinary64 ≤ 2

/-- Numbers are equal if they are alike. -/
theorem same_iff_alike (a b : Number) : a.same b = true ↔ a.Alike b := by
  -- Two integers are compared as they are; in all other cases both numbers are taken as doubles.
  have near := Binary64.near_iff (show 1 ≤ (2 : UInt64).toNat by decide) a.toBinary64 b.toBinary64
  cases a with
  | int left =>
    cases b with
    | int right => exact beq_iff_eq
    | float right => exact near
  | float left => exact near

/-- Numbers that are alike are at most two steps apart, integers included. -/
theorem Alike.steps_le {a b : Number} (alike : a.Alike b) :
    a.toBinary64.steps b.toBinary64 ≤ 2 := by
  cases a with
  | int left =>
    cases b with
    | int right =>
      -- The same integer is the same number in double precision.
      obtain rfl : left = right := alike
      simp
    | float right => exact alike
  | float left => exact alike

/-- Every number is equal to itself. -/
theorem same_self (a : Number) : a.same a = true := by
  -- An integer is the same as itself, and no step leads from a double to itself.
  rw [same_iff_alike]
  cases a with
  | int value => rfl
  | float value => simp [Alike]

/-- Two numbers are equal in either order. -/
theorem same_comm (a b : Number) : a.same b = b.same a := by
  -- Both definitions take the two numbers in the same way, whichever comes first.
  rw [Bool.eq_iff_iff, same_iff_alike, same_iff_alike]
  cases a with
  | int left =>
    cases b with
    | int right => exact eq_comm
    | float right => simp only [Alike, Binary64.steps_comm]
  | float left =>
    cases b with
    | int right => simp only [Alike, Binary64.steps_comm]
    | float right => simp only [Alike, Binary64.steps_comm]

/-- Equality of numbers is reflexive and symmetric. The ends of two equalities in a row are at most
four steps apart in double precision; they are equal themselves exactly if they are the same
integer, or are not both integers and at most two steps apart. -/
theorem same_chain (a b c : Number) :
    a.same a = true ∧ a.same b = b.same a ∧
      (a.same b = true → b.same c = true →
        a.toBinary64.steps c.toBinary64 ≤ 4 ∧ (a.same c = true ↔ a.Alike c)) := by
  refine ⟨same_self a, same_comm a b, fun first second => ⟨?_, same_iff_alike a c⟩⟩
  -- Each equality is two steps at most, so the detour over the number between is four.
  have left := ((same_iff_alike a b).mp first).steps_le
  have right := ((same_iff_alike b c).mp second).steps_le
  have detour := a.toBinary64.steps_triangle b.toBinary64 c.toBinary64
  omega

/-- Two equalities of two steps each leave the ends four steps apart. -/
theorem same_chain_four :
    let a : Number := .float ⟨0x3FF0000000000000⟩
    let b : Number := .float ⟨0x3FF0000000000002⟩
    let c : Number := .float ⟨0x3FF0000000000004⟩
    (a.same b = true ∧ b.same c = true) ∧ a.toBinary64.steps c.toBinary64 = 4 ∧
      (a.same c = true ↔ a.Alike c) := by
  intro a b c
  -- Each pair is two steps apart, which is still near enough.
  have first : a.same b = true := by decide +kernel
  have second : b.same c = true := by decide +kernel
  obtain ⟨_, _, chain⟩ := same_chain a b c
  exact ⟨⟨first, second⟩, by decide +kernel, (chain first second).2⟩

/-- Equality of numbers is not transitive: `1` is two steps from `1.0000000000000004`, which is one
step from `1.0000000000000007`, and these are three steps in all; and two integers that are rounded
to one number are both equal to it. -/
theorem same_not_transitive :
    (same (.float ⟨0x3FF0000000000000⟩) (.float ⟨0x3FF0000000000002⟩) = true ∧
      same (.float ⟨0x3FF0000000000002⟩) (.float ⟨0x3FF0000000000003⟩) = true ∧
      same (.float ⟨0x3FF0000000000000⟩) (.float ⟨0x3FF0000000000003⟩) = false) ∧
    same (.int 9007199254740992) (.float ⟨0x4340000000000000⟩) = true ∧
      same (.float ⟨0x4340000000000000⟩) (.int 9007199254740993) = true ∧
      same (.int 9007199254740992) (.int 9007199254740993) = false := by
  decide +kernel

end Number

end TagTemplate

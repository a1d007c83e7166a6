import TagTemplate.Number

/-! How integers beyond the signed machine word are shown: as the shortest decimal digits of the
number of double precision that is nearest to them. -/

namespace TagTemplate

namespace Binary64.Interval

variable {interval : Interval} {tie : Tie}

/-- What lies in an interval is not outside its ends. -/
theorem bounds_of_holds {value : Nat} (held : interval.holds value = true) :
    interval.low ≤ value ∧ value ≤ interval.high := by
  -- The ends belong to the interval or do not; either way nothing lies beyond them.
  unfold holds at held
  grind

/-- What is inside the ends lies in an interval. -/
theorem holds_of_inside {value : Nat} (low : interval.low < value) (high : value < interval.high) :
    interval.holds value = true := by
  -- Inside the ends it does not matter whether they belong to the interval.
  unfold holds
  grind

/-- A whole number that is found lies in the interval. -/
theorem holds_of_whole? {value : Nat} (found : interval.whole? tie = some value) :
    interval.holds (value * interval.den) = true := by
  simp only [whole?] at found
  generalize interval.mid / interval.den = floor at found
  -- The two candidates are the whole numbers next to the middle, and each may lie inside or not.
  cases below : interval.holds (floor * interval.den) with
  | false =>
    cases above : interval.holds ((floor + 1) * interval.den) with
    | false => simp [below, above] at found
    | true =>
      obtain rfl : floor + 1 = value := by simpa [below, above] using found
      exact above
  | true =>
    cases above : interval.holds ((floor + 1) * interval.den) with
    | false =>
      obtain rfl : floor = value := by simpa [below, above] using found
      exact below
    | true =>
      -- Whatever decides between the two candidates, both lie in the interval.
      have either : value = floor ∨ value = floor + 1 := by
        simp only [below, above] at found
        have parity := Nat.mod_two_eq_zero_or_one floor
        split at found
        · exact Or.inl (Option.some.inj found).symm
        · split at found
          · exact Or.inr (Option.some.inj found).symm
          · cases tie <;> have same := Option.some.inj found <;> omega
      rcases either with rfl | rfl
      · exact below
      · exact above

/-- Nothing is found if neither of the two whole numbers next to the middle lies in the interval. -/
theorem whole?_eq_none_iff : interval.whole? tie = none ↔
    interval.holds (interval.mid / interval.den * interval.den) = false ∧
      interval.holds ((interval.mid / interval.den + 1) * interval.den) = false := by
  -- The four cases of the two candidates; only one of them finds nothing.
  simp only [whole?]
  split <;> simp_all only [reduceCtorEq, and_true, and_self, Bool.true_eq_false, and_false]
  -- Of two candidates one is always taken.
  split
  · simp
  · split
    · simp
    · cases tie <;> simp

/-- Whether the middle of an interval lies inside it and not at an end. -/
structure Proper (interval : Interval) : Prop where
  den : 0 < interval.den
  low : interval.low < interval.mid
  high : interval.mid < interval.high

/-- What stands between a number of the interval and the middle lies in the interval. -/
theorem Proper.holds_between (proper : interval.Proper) {value other : Nat}
    (held : interval.holds value = true)
    (between : value ≤ other ∧ other ≤ interval.mid ∨ interval.mid ≤ other ∧ other ≤ value) :
    interval.holds other = true := by
  -- What stands between the middle and a number inside is no excluded end.
  have low := proper.low
  have high := proper.high
  unfold holds at *
  grind

/-- If a whole number lies in an interval, then one is found. -/
theorem Proper.isSome_whole? (proper : interval.Proper) {value : Nat}
    (held : interval.holds (value * interval.den) = true) :
    (interval.whole? tie).isSome = true := by
  -- The middle lies between its floor and the number after it.
  have split := Nat.div_add_mod' interval.mid interval.den
  have rest := Nat.mod_lt interval.mid proper.den
  rw [Option.isSome_iff_ne_none, Ne, whole?_eq_none_iff]
  generalize interval.mid / interval.den = floor at *
  rintro ⟨below, above⟩
  have next : (floor + 1) * interval.den = floor * interval.den + interval.den := Nat.succ_mul ..
  -- One of the two numbers next to the middle stands between the middle and the given one.
  rcases Nat.lt_or_ge floor value with larger | smaller
  · have further : (floor + 1) * interval.den ≤ value * interval.den :=
      Nat.mul_le_mul_right interval.den larger
    rw [proper.holds_between held (Or.inr ⟨by omega, further⟩)] at above
    cases above
  · have further : value * interval.den ≤ floor * interval.den :=
      Nat.mul_le_mul_right interval.den smaller
    rw [proper.holds_between held (Or.inl ⟨further, by omega⟩)] at below
    cases below

/-- In units of a power of ten that is no fraction, an interval only has another divisor. -/
theorem atPlace_natCast (interval : Interval) (place : Nat) :
    interval.atPlace place = { interval with den := interval.den * Nat.pow 10 place } := by
  -- The negative part of the place is zero, so no end is multiplied.
  have nonneg : (-(place : Int)).toNat = 0 := by omega
  simp [atPlace, nonneg]

/-- The middle of an interval stays inside it in units of a power of ten. -/
theorem Proper.atPlace (proper : interval.Proper) (place : Nat) :
    (interval.atPlace place).Proper := by
  -- The ends and the middle stay as they are, and the divisor stays positive.
  rw [atPlace_natCast]
  exact ⟨Nat.mul_pos proper.den (Nat.pow_pos (by decide)), proper.low, proper.high⟩

/-- The search goes down from a place and stops where a whole number is found, so at the latest at a
place that has one. -/
theorem coarsest_spec {bottom : Int} (found : ((interval.atPlace bottom).whole? tie).isSome = true)
    (fuel : Nat) (place : Int) (reached : place - fuel < bottom) (above : bottom ≤ place) :
    ∃ value stop, interval.coarsest tie fuel place = (value, stop) ∧ bottom ≤ stop ∧
      (interval.atPlace stop).whole? tie = some value := by
  -- The fuel is enough to reach the place at the bottom, which is where it matters.
  induction fuel generalizing place with
  | zero => omega
  | succ fuel ih =>
    rw [coarsest]
    cases whole : (interval.atPlace place).whole? tie with
    | some value => exact ⟨value, place, rfl, above, whole⟩
    | none =>
      -- Nothing is found here, so the place is not the one that has a number.
      have other : place ≠ bottom := fun same => by simp [← same, whole] at found
      exact ih (place - 1) (by omega) (by omega)

/-- A multiple of a power of ten in the interval keeps the search at that power or above. -/
theorem Proper.coarsest (proper : interval.Proper) {multiple bottom : Nat}
    (held : interval.holds (multiple * (interval.den * Nat.pow 10 bottom)) = true) (tie : Tie)
    (fuel : Nat) (place : Int) (reached : place - fuel < bottom) (above : bottom ≤ place) :
    ∃ value stop : Nat, interval.coarsest tie fuel place = (value, (stop : Int)) ∧ bottom ≤ stop ∧
      interval.holds (value * (interval.den * Nat.pow 10 stop)) = true := by
  -- The given multiple is a whole number in units of the place at the bottom.
  have found : ((interval.atPlace bottom).whole? tie).isSome = true := by
    have scaled : (interval.atPlace bottom).holds (multiple * (interval.atPlace bottom).den) =
        true := by
      rw [atPlace_natCast]
      exact held
    exact (proper.atPlace bottom).isSome_whole? scaled
  obtain ⟨value, stop, result, least, whole⟩ := coarsest_spec found fuel place reached above
  -- The search stops above the bottom, so its place is no fraction.
  obtain ⟨stop, rfl⟩ := Int.eq_ofNat_of_zero_le (a := stop) (by omega)
  refine ⟨value, stop, result, by omega, ?_⟩
  have holds := holds_of_whole? whole
  rwa [atPlace_natCast] at holds

end Binary64.Interval

namespace DecimalDigits

/-- Multiplication by a power of ten puts zeros behind the digits. -/
theorem toDigits_mul_pow {value : Nat} (pos : 0 < value) (count : Nat) :
    Nat.toDigits 10 (value * Nat.pow 10 count) =
      Nat.toDigits 10 value ++ List.replicate count '0' := by
  -- Each factor of ten appends one zero.
  induction count with
  | zero => simp
  | succ count ih =>
    have filled : 0 < value * Nat.pow 10 count := Nat.mul_pos pos (Nat.pow_pos (by decide))
    have longer := Nat.toDigits_append_toDigits (b := 10) (d := 0) (by decide) filled (by decide)
    have same : value * Nat.pow 10 (count + 1) = 10 * (value * Nat.pow 10 count) + 0 := by
      rw [Nat.pow_eq, Nat.pow_eq, Nat.pow_succ, Nat.add_zero, Nat.mul_comm 10, Nat.mul_assoc]
    rw [same, ← longer, ih, List.append_assoc, List.replicate_succ', Nat.toDigits_zero]

/-- Digits that end in front of the point are written as the whole number that they stand for. -/
theorem positional_whole {value : Nat} (pos : 0 < value) (count : Nat) :
    positional ⟨Nat.toDigits 10 value, (Nat.toDigits 10 value).length + (count : Int)⟩ 0 =
      toString (value * Nat.pow 10 count) := by
  rw [Nat.toString_eq_ofList_toDigits, toDigits_mul_pow pos]
  have written : 0 < (Nat.toDigits 10 value).length := Nat.length_toDigits_pos
  generalize Nat.toDigits 10 value = digits at *
  have beyond : ¬ ((digits.length : Int) + count ≤ 0) := by omega
  have reach : ((digits.length : Int) + count).toNat = digits.length + count := by omega
  have zeros : ((digits.length : Int) + count - digits.length).toNat = count := by omega
  have none : (-((digits.length : Int) + count)).toNat = 0 := by omega
  -- The point stands behind all digits, so that zeros follow them and nothing follows the point.
  have front : digits.take (digits.length + count) = digits := List.take_of_length_le (by omega)
  have back : digits.drop (digits.length + count) = [] := List.drop_of_length_le (by omega)
  simp only [positional, if_neg beyond, reach, zeros, none, front, back, List.replicate_zero,
    List.nil_append, List.length_nil, Nat.sub_zero, List.isEmpty_nil, if_pos]

end DecimalDigits

/-- The bits of a magnitude without a sign. -/
theorem Binary64.magnitude_ofMagnitude {magnitude : Nat} (small : magnitude < 9223372036854775808) :
    (ofMagnitude false magnitude).magnitude = magnitude ∧
      (ofMagnitude false magnitude).isNegative = false := by
  -- Without a sign the word is the magnitude itself, which is below the bit of the sign.
  have bits : (ofMagnitude false magnitude).bits.toNat = magnitude := by
    simp only [ofMagnitude]
    simp
    omega
  constructor
  · rw [Binary64.magnitude, bits]
    exact Nat.mod_eq_of_lt small
  · rw [isNegative, bits]
    simp
    omega

/-- What is known of the numbers that read back to an integer whose last place is `2 ^ 11`, in
quarters of one: the integer is among them, and they span three quarters of a place or a whole. -/
structure Binary64.Interval.Around (interval : Interval) (n : Nat) : Prop where
  proper : interval.Proper
  quarters : interval.den = 4
  least : 36893488147419101184 ≤ interval.low
  wide : interval.low + 6144 ≤ interval.high
  narrow : interval.high ≤ interval.low + 8192
  log : interval.mid.log2 = 65
  held : interval.holds (n * 4) = true
  reads : ∀ m : Nat, 9223372036854775808 ≤ m → interval.holds (m * 4) = true →
    ofInt m = ofInt n

/-- An integer is at most half a place away from the multiple of `2 ^ 11` that it is rounded to. -/
theorem multiple_near (n : Nat) : 2 * (nearestNat n 2048 * 2048) ≤ 2 * n + 2048 ∧
    2 * n ≤ 2 * (nearestNat n 2048 * 2048) + 2048 :=
  nearestNat_near (by decide)

/-- A multiple of `2 ^ 11` is the one nearest to an integer that is less than half a place away, or
half a place if it is an even multiple. -/
theorem nearestNat_eq {n multiple : Nat} (low : 2048 * multiple ≤ n + 1024)
    (high : n ≤ 2048 * multiple + 1024)
    (apart : multiple % 2 = 1 → 2048 * multiple ≠ n + 1024 ∧ n ≠ 2048 * multiple + 1024) :
    nearestNat n 2048 = multiple := by
  -- The remainder decides which multiple is taken, and halfway the parity of the quotient.
  simp only [nearestNat]
  split
  · omega
  · split <;> omega

section Beyond

/-! Integers from `2 ^ 63` up to `2 ^ 64`, whose last place in double precision is `2 ^ 11`. -/

variable {n : Nat} (least : 9223372036854775808 ≤ n)

section

variable (most : n < 18446744073709551616)

include least most

/-- Such integers are rounded to multiples of `2 ^ 11`. -/
theorem BinaryFormat.round_beyond : double.round n 1 = (nearestNat n 2048, 11) := by
  have log : n.log2 = 63 := (Nat.log2_eq_iff (by omega)).mpr ⟨by omega, by omega⟩
  have unit : Nat.log2 1 = 0 := rfl
  -- The guess is one too small, as the integer has sixty-four binary digits.
  have guess : max ((n.log2 : Int) - Nat.log2 1 - double.digits) double.lowest = 10 := by
    rw [log, unit]
    rfl
  have large : ¬ n / 1024 < 9007199254740992 := by omega
  have place : double.exponent n 1 = 11 := by
    simp only [exponent, guess]
    simp [scaled, double, large]
  simp [round, place, scaled]

/-- The multiple has fifty-three binary digits, or is the next power of two. -/
theorem nearestNat_beyond :
    4503599627370496 ≤ nearestNat n 2048 ∧ nearestNat n 2048 ≤ 9007199254740992 := by
  -- Half a place is less than what separates the integer from the bounds.
  have near := multiple_near n
  omega

/-- Such an integer in double precision has the exponent of the last place and the multiple. -/
theorem Binary64.ofInt_beyond :
    ofInt n = ofMagnitude false (4886405595696988160 + nearestNat n 2048) := by
  obtain ⟨low, high⟩ := nearestNat_beyond least most
  have nonneg : decide ((n : Int) < 0) = false := by simp
  have filled : n ≠ 0 := by omega
  rw [ofInt, ofQuotient, Int.natAbs_natCast, if_neg filled, nonneg,
    BinaryFormat.round_beyond least most]
  have unit : Nat.pow 2 52 = 4503599627370496 := rfl
  have field : ((11 : Int) + 1075).toNat = 1086 := rfl
  generalize nearestNat n 2048 = significand at *
  simp only [magnitudeOf, infinityMagnitude, unit, field]
  -- The significand is not small, and the exponent is far from that of the infinities.
  rw [if_neg (by omega), Nat.min_eq_right (by omega)]
  exact congrArg (ofMagnitude false) (by omega)

/-- The bits of such an integer in double precision. -/
theorem Binary64.magnitude_beyond :
    (ofInt n).magnitude = 4886405595696988160 + nearestNat n 2048 ∧
      (ofInt n).isNegative = false := by
  -- The magnitude is below that of the infinities, so it is a word without a sign.
  obtain ⟨low, high⟩ := nearestNat_beyond least most
  rw [ofInt_beyond least most]
  exact magnitude_ofMagnitude (by omega)

/-- Such an integer is positive and finite in double precision, and shown by its shortest digits. -/
theorem Number.display_beyond : (float (.ofInt n)).display =
    ((Binary64.ofInt n).shortest .up).positional 0 := by
  -- None of the special cases of the display applies.
  obtain ⟨low, high⟩ := nearestNat_beyond least most
  obtain ⟨bits, sign⟩ := Binary64.magnitude_beyond least most
  have infinite : Binary64.infinityMagnitude = 9218868437227405312 := rfl
  have number : (Binary64.ofInt n).isNaN = false := by
    rw [Binary64.isNaN, bits, infinite]
    exact decide_eq_false (by omega)
  have finite : (Binary64.ofInt n).isInfinite = false := by
    rw [Binary64.isInfinite, bits, infinite]
    exact beq_false_of_ne (by omega)
  have filled : (Binary64.ofInt n).isZero = false := by
    rw [Binary64.isZero, bits]
    exact beq_false_of_ne (by omega)
  simp [display, sign, number, finite, filled]

end

namespace Binary64

variable (most : n < 18446744073709550592)

include least most

/-- Such an integer in double precision is the multiple of `2 ^ 11`, unless that is `2 ^ 64`. -/
theorem parts_beyond : (ofInt n).parts = (nearestNat n 2048, 11) := by
  have near := multiple_near n
  obtain ⟨bits, -⟩ := magnitude_beyond least (by omega)
  have unit : Nat.pow 2 52 = 4503599627370496 := rfl
  rw [parts, bits, unit]
  -- The field of the exponent is the quotient of the bits, and the significand gets its hidden bit
  -- back.
  generalize nearestNat n 2048 = significand at *
  have field : (4886405595696988160 + significand) / 4503599627370496 = 1086 := by omega
  have rest : (4886405595696988160 + significand) % 4503599627370496 + 4503599627370496 =
      significand := by omega
  simp only [field, rest]
  rfl

/-- The numbers that read back to such an integer in double precision. -/
theorem interval_beyond : (ofInt n).interval.Around n := by
  have near := multiple_near n
  -- An integer halfway between two multiples went to the even one, whose interval is closed.
  have even : 2 * (n % 2048) = 2048 → nearestNat n 2048 % 2 = 0 := by
    simp only [nearestNat]
    grind
  have unit : Nat.pow 2 52 = 4503599627370496 := rfl
  have scale : Nat.pow 2 (11 : Int).toNat = 2048 := rfl
  have whole : Nat.pow 2 (-(11 : Int)).toNat = 1 := rfl
  rw [interval, parts_beyond least most]
  simp only [unit, scale, whole]
  generalize rounded : nearestNat n 2048 = significand at *
  -- Below a power of two the interval is shorter.
  obtain ⟨below, short, same⟩ : ∃ below,
      (below = 1 ∧ significand = 4503599627370496 ∨ below = 2 ∧ significand ≠ 4503599627370496) ∧
      (if significand = 4503599627370496 ∧ (11 : Int) ≠ -1074 then 1 else 2) = below := by
    refine ⟨_, ?_, rfl⟩
    split <;> simp_all
  rw [same]
  exact
    { proper := ⟨by dsimp only; omega, by dsimp only; omega, by dsimp only; omega⟩
      quarters := rfl
      least := by dsimp only; omega
      wide := by dsimp only; omega
      narrow := by dsimp only; omega
      log := by
        dsimp only
        exact (Nat.log2_eq_iff (by omega)).mpr ⟨by omega, by omega⟩
      held := by
        simp only [Interval.holds, beq_iff_eq]
        split <;> simp only [Bool.and_eq_true, decide_eq_true_iff] <;> omega
      reads := by
        intro m beyond held
        have same : m ≤ 2048 * significand + 1024 ∧ nearestNat m 2048 = significand := by
          simp only [Interval.holds, beq_iff_eq] at held
          split at held <;> simp only [Bool.and_eq_true, decide_eq_true_iff] at held <;>
            exact ⟨by omega, nearestNat_eq (by omega) (by omega) (by omega)⟩
        rw [ofInt_beyond beyond (by omega), ofInt_beyond least (by omega), same.2, rounded] }

/-- A multiple of a power of ten among the numbers that read back to such an integer keeps its
digits at that power or above. -/
theorem shortest_beyond {multiple bottom : Nat} (small : bottom ≤ 21)
    (held : (ofInt n).interval.holds (multiple * (4 * Nat.pow 10 bottom)) = true) :
    ∃ value count : Nat, (ofInt n).shortest .up =
        ⟨Nat.toDigits 10 value, (Nat.toDigits 10 value).length + count⟩ ∧
      bottom ≤ count ∧ (ofInt n).interval.holds (value * (4 * Nat.pow 10 count)) = true := by
  have around := interval_beyond least most
  rw [shortest]
  generalize (ofInt n).interval = interval at *
  -- The search starts above the first digit of twenty and ends below the point.
  have den : Nat.log2 4 = 2 := rfl
  have start : ((interval.mid.log2 : Int) - interval.den.log2 + 1) * 30103 / 100000 + 2 = 21 := by
    rw [around.log, around.quarters, den]
    rfl
  rw [← around.quarters] at held
  obtain ⟨value, count, result, coarse, holds⟩ :=
    around.proper.coarsest held .up 24 21 (by omega) (by omega)
  refine ⟨value, count, ?_, coarse, around.quarters ▸ holds⟩
  simp only [start, result]

end Binary64

namespace Number

/-- The integers next to `2 ^ 64` are that power of two in double precision. -/
theorem ofInt_last (near : 18446744073709550592 ≤ n) (most : n < 18446744073709551616) :
    Binary64.ofInt (18446744073709552000 : Nat) = .ofInt n := by
  -- Halfway below the power of two the even multiple is the power itself.
  have same : nearestNat n 2048 = 9007199254740992 :=
    nearestNat_eq (by omega) (by omega) (by omega)
  rw [Binary64.ofInt_beyond (by omega) most, same]
  decide +kernel

/-- The integers next to `2 ^ 64` are shown as that power of two is. -/
theorem display_last (near : 18446744073709550592 ≤ n) (most : n < 18446744073709551616) :
    (float (.ofInt n)).display = toString (18446744073709552000 : Nat) := by
  -- All of them are one double, whose digits are worked out.
  rw [← ofInt_last near most]
  decide +kernel

include least

/-- Where a multiple of a thousand or of a greater power of ten reads back to an integer beyond the
signed word, the integer is shown as a multiple of that power that reads back to it as well. -/
theorem exists_display (most : n < 18446744073709550592) {multiple bottom : Nat}
    (large : 3 ≤ bottom) (small : bottom ≤ 21)
    (held : (Binary64.ofInt n).interval.holds (multiple * (4 * Nat.pow 10 bottom)) = true) :
    ∃ shown : Nat, (float (.ofInt n)).display = toString shown ∧ Nat.pow 10 bottom ∣ shown ∧
      Binary64.ofInt shown = .ofInt n ∧ shown ≤ n + 2048 ∧ n ≤ shown + 2048 := by
  obtain ⟨value, count, digits, coarse, holds⟩ := Binary64.shortest_beyond least most small held
  have around := Binary64.interval_beyond least most
  have swap : value * (4 * Nat.pow 10 count) = value * Nat.pow 10 count * 4 := by
    rw [Nat.mul_comm 4, Nat.mul_assoc]
  rw [swap] at holds
  -- Both integers lie in an interval that is one place wide.
  obtain ⟨low, high⟩ := Binary64.Interval.bounds_of_holds holds
  obtain ⟨lower, higher⟩ := Binary64.Interval.bounds_of_holds around.held
  have start := around.least
  have narrow := around.narrow
  -- The value is not zero, as the interval is far from it.
  have filled : 0 < value := Nat.pos_of_ne_zero fun zero => by
    rw [zero, Nat.zero_mul] at low
    omega
  -- No multiple of a thousand lies between the start of the first interval and `2 ^ 63`.
  have thousand : 1000 ∣ value * Nat.pow 10 count :=
    Nat.dvd_trans (Nat.pow_dvd_pow 10 (Nat.le_trans large coarse)) (Nat.dvd_mul_left ..)
  refine ⟨value * Nat.pow 10 count, ?_, ?_, around.reads _ (by omega) holds, by omega, by omega⟩
  · rw [display_beyond least (by omega), digits]
    exact DecimalDigits.positional_whole filled count
  · exact Nat.dvd_trans (Nat.pow_dvd_pow 10 coarse) (Nat.dvd_mul_left ..)

/-- An integer beyond the signed word is shown in double precision as a multiple of a thousand that
reads back to the same number and is not further away than the last place, and as itself if it is a
multiple of ten thousand. -/
theorem exists_display_beyond (most : n < 18446744073709551616) :
    ∃ shown : Nat, (float (.ofInt n)).display = toString shown ∧ 1000 ∣ shown ∧
      Binary64.ofInt shown = .ofInt n ∧ shown ≤ n + 2048 ∧ n ≤ shown + 2048 ∧
      (10000 ∣ n → shown = n) := by
  by_cases near : 18446744073709550592 ≤ n
  · exact ⟨_, display_last near most, by omega, ofInt_last near most, by omega, by omega, by omega⟩
  · have around := Binary64.interval_beyond least (by omega)
    by_cases multiple : 10000 ∣ n
    · -- The integer itself keeps its digits at the fourth place, where no other multiple is near.
      obtain ⟨quotient, rfl⟩ := multiple
      have unit : 4 * Nat.pow 10 4 = 40000 := rfl
      have same : 10000 * quotient * 4 = quotient * (4 * Nat.pow 10 4) := by rw [unit]; omega
      obtain ⟨shown, display, divides, reads, low, high⟩ :=
        exists_display least (by omega) (by decide) (by decide) (same ▸ around.held)
      have divides : 10000 ∣ shown := divides
      exact ⟨shown, display, by omega, reads, low, high, by omega⟩
    · -- Most of a place is more than a thousand, so that some multiple reads back to the integer.
      have unit : 4 * Nat.pow 10 3 = 4000 := rfl
      have wide := around.wide
      have held : (Binary64.ofInt n).interval.holds
          (((Binary64.ofInt n).interval.low / 4000 + 1) * (4 * Nat.pow 10 3)) = true := by
        rw [unit]
        exact Binary64.Interval.holds_of_inside (by omega) (by omega)
      obtain ⟨shown, display, divides, reads, low, high⟩ :=
        exists_display least (by omega) (by decide) (by decide) held
      exact ⟨shown, display, divides, reads, low, high, fun other => absurd other multiple⟩

end Number

end Beyond

end TagTemplate

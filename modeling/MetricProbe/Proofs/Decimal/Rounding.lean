import Mathlib.Tactic.Linarith
import MetricProbe.Proofs.Decimal.Range

/-!
# Rounding to double precision

Every operation computes an exact quotient and rounds it to 53 binary digits. `rounded` is that
rounding by itself, on natural numbers: sums, products and quotients of numbers that are not
negative are `rounded` of the exact result, in units of the smallest positive number.

Rounding goes to the nearest number, so it is off by half a unit of the last digit at most, it keeps
what has 53 digits, and it never changes an order. Nothing is said about negative numbers.
-/

namespace MetricProbe.Binary64

/-! ## The nearest integer -/

section

variable {a d b f k : Nat}

/-- A quotient is rounded to one of its two neighbours: to the lower one if the remainder is small,
to the upper one if it is large, and to the even one in the middle. -/
theorem roundHalfEven_cases (a d : Nat) :
    (roundHalfEven a d = a / d ∧ 2 * (a % d) ≤ d ∧
        (2 * (a % d) = d → roundHalfEven a d % 2 = 0)) ∨
      (roundHalfEven a d = a / d + 1 ∧ d ≤ 2 * (a % d) ∧
        (2 * (a % d) = d → roundHalfEven a d % 2 = 0)) := by
  unfold roundHalfEven
  dsimp only
  split
  · exact .inl ⟨rfl, by omega, by omega⟩
  · split
    · exact .inr ⟨rfl, by omega, by omega⟩
    · rcases Nat.mod_two_eq_zero_or_one (a / d) with even | odd
      · exact .inl ⟨by omega, by omega, by omega⟩
      · exact .inr ⟨by omega, by omega, by omega⟩

/-- The nearest integer is off by a half at most. -/
theorem roundHalfEven_near (positive : 0 < d) :
    2 * a ≤ 2 * (roundHalfEven a d * d) + d ∧ 2 * (roundHalfEven a d * d) ≤ 2 * a + d := by
  have parts := Nat.div_add_mod' a d
  have small := Nat.mod_lt a positive
  rcases roundHalfEven_cases a d with ⟨lower, remainder, _⟩ | ⟨upper, remainder, _⟩
  · rw [lower]
    omega
  · have next : (a / d + 1) * d = a / d * d + d := Nat.succ_mul _ _
    rw [upper]
    omega

/-- In the middle between two integers, the nearest is the even one. -/
theorem even_of_tie (positive : 0 < d)
    (tie : 2 * a = 2 * (roundHalfEven a d * d) + d ∨ 2 * (roundHalfEven a d * d) = 2 * a + d) :
    roundHalfEven a d % 2 = 0 := by
  have parts := Nat.div_add_mod' a d
  have small := Nat.mod_lt a positive
  rcases roundHalfEven_cases a d with ⟨lower, remainder, even⟩ | ⟨upper, remainder, even⟩
  · refine even ?_
    rw [lower] at tie
    omega
  · refine even ?_
    have next : (a / d + 1) * d = a / d * d + d := Nat.succ_mul _ _
    rw [upper] at tie
    omega

/-- An even integer that is off by a half at most is the nearest. -/
theorem roundHalfEven_eq_of_even (positive : 0 < d) (even : k % 2 = 0)
    (low : 2 * a ≤ 2 * (k * d) + d) (high : 2 * (k * d) ≤ 2 * a + d) : roundHalfEven a d = k := by
  obtain ⟨nearLow, nearHigh⟩ := @roundHalfEven_near a d positive
  have tie := @even_of_tie a d positive
  generalize roundHalfEven a d = r at *
  rcases Nat.lt_trichotomy r k with less | same | more
  · have step : (r + 1) * d ≤ k * d := Nat.mul_le_mul_right d less
    rw [Nat.succ_mul] at step
    have next : k * d = r * d + d := by omega
    have last : k = r + 1 := Nat.eq_of_mul_eq_mul_right positive (by rw [next, Nat.succ_mul])
    have other := tie (by omega)
    omega
  · exact same
  · have step : (k + 1) * d ≤ r * d := Nat.mul_le_mul_right d more
    rw [Nat.succ_mul] at step
    have next : r * d = k * d + d := by omega
    have last : r = k + 1 := Nat.eq_of_mul_eq_mul_right positive (by rw [next, Nat.succ_mul])
    have other := tie (by omega)
    omega

/-- An integer is its own nearest. -/
theorem roundHalfEven_mul (positive : 0 < d) : roundHalfEven (k * d) d = k := by
  obtain ⟨low, high⟩ := @roundHalfEven_near (k * d) d positive
  have below : roundHalfEven (k * d) d * d < (k + 1) * d := by rw [Nat.succ_mul]; omega
  have above : k * d < (roundHalfEven (k * d) d + 1) * d := by rw [Nat.succ_mul]; omega
  have first := Nat.lt_of_mul_lt_mul_right below
  have second := Nat.lt_of_mul_lt_mul_right above
  omega

/-- A greater quotient does not have a smaller nearest integer. -/
theorem roundHalfEven_le_roundHalfEven (positive : 0 < d) (positiveToo : 0 < f)
    (le : a * f ≤ b * d) : roundHalfEven a d ≤ roundHalfEven b f := by
  by_contra less
  obtain ⟨_, high⟩ := @roundHalfEven_near a d positive
  obtain ⟨low, _⟩ := @roundHalfEven_near b f positiveToo
  have tie := @even_of_tie a d positive
  have tieToo := @even_of_tie b f positiveToo
  generalize roundHalfEven a d = r at *
  generalize roundHalfEven b f = s at *
  -- Both quotients would have to lie in the middle between the two integers.
  have highScaled : 2 * (r * (d * f)) ≤ 2 * (a * f) + d * f := by
    have := Nat.mul_le_mul_right f high
    linarith [Nat.mul_assoc r d f]
  have lowScaled : 2 * (b * d) ≤ 2 * (s * (d * f)) + d * f := by
    have := Nat.mul_le_mul_right d low
    linarith [Nat.mul_comm f d, Nat.mul_assoc s f d]
  have step : (s + 1) * (d * f) ≤ r * (d * f) := Nat.mul_le_mul_right _ (by omega)
  rw [Nat.succ_mul] at step
  have unit : 0 < d * f := Nat.mul_pos positive positiveToo
  have next : r * (d * f) = s * (d * f) + d * f := by omega
  have last : r = s + 1 := Nat.eq_of_mul_eq_mul_right unit (by rw [next, Nat.succ_mul])
  have even := tie (.inr (Nat.eq_of_mul_eq_mul_right positiveToo (by linarith [Nat.mul_assoc r d f])))
  have evenToo := tieToo (.inl (Nat.eq_of_mul_eq_mul_right positive
    (by linarith [Nat.mul_comm f d, Nat.mul_assoc s f d])))
  omega

/-- A common factor does not matter to the nearest integer. -/
theorem roundHalfEven_scale (a d : Nat) {factor : Nat} (positive : 0 < factor) :
    roundHalfEven (a * factor) (d * factor) = roundHalfEven a d := by
  have twice : 2 * (a % d * factor) = 2 * (a % d) * factor := (Nat.mul_assoc 2 _ _).symm
  have less : 2 * (a % d) * factor < d * factor ↔ 2 * (a % d) < d := Nat.mul_lt_mul_right positive
  have more : d * factor < 2 * (a % d) * factor ↔ d < 2 * (a % d) := Nat.mul_lt_mul_right positive
  simp only [roundHalfEven, Nat.mul_div_mul_right _ _ positive, Nat.mul_mod_mul_right, twice, less,
    more]

end

/-! ## 53 binary digits -/

/-- A quotient, rounded to 53 binary digits. -/
def rounded (numerator denominator : Nat) : Nat :=
  units (roundHalfEven numerator
      (denominator * twoPow (Nat.log2 (numerator / denominator) - 52)))
    (Nat.log2 (numerator / denominator) - 52)

section

variable {a d b f k bound : Nat}

/-- A common factor does not matter to the rounded quotient. -/
theorem rounded_scale (a d : Nat) {factor : Nat} (positive : 0 < factor) :
    rounded (a * factor) (d * factor) = rounded a d := by
  simp only [rounded, Nat.mul_div_mul_right _ _ positive, Nat.mul_right_comm d factor,
    roundHalfEven_scale _ _ positive]

/-- A rounded quotient is at most a power of two that the quotient is below of. -/
theorem rounded_le_twoPow (wide : 53 ≤ bound) (small : a / d < twoPow bound) :
    rounded a d ≤ twoPow bound :=
  units_roundHalfEven_le wide small

/-- A greater quotient is not rounded to a smaller number. -/
theorem rounded_le_rounded (positive : 0 < d) (positiveToo : 0 < f) (le : a * f ≤ b * d) :
    rounded a d ≤ rounded b f := by
  have quotients : a / d ≤ b / f := by
    refine (Nat.le_div_iff_mul_le positiveToo).2 ?_
    refine Nat.le_of_mul_le_mul_right ?_ positive
    calc a / d * f * d = a / d * d * f := Nat.mul_right_comm _ _ _
      _ ≤ a * f := Nat.mul_le_mul_right f (Nat.div_mul_le_self a d)
      _ ≤ b * d := le
  rcases Nat.lt_or_ge (Nat.log2 (a / d) - 52) (Nat.log2 (b / f) - 52) with finer | notFiner
  · -- A power of two lies between the two numbers.
    have digits : a / d < twoPow (53 + (Nat.log2 (a / d) - 52)) :=
      Nat.lt_of_lt_of_le (lt_twoPow_log2 _) (twoPow_le_twoPow (by omega))
    have nonzero : b / f ≠ 0 := by
      intro zero
      rw [zero, Nat.log2_zero] at finer
      omega
    have large : twoPow (53 + (Nat.log2 (a / d) - 52)) ≤ b / f :=
      (Nat.le_log2 nonzero).1 (by omega)
    exact Nat.le_trans (rounded_le_twoPow (by omega) digits)
      (le_units_roundHalfEven (by omega) large)
  · have digits : Nat.log2 (a / d) ≤ Nat.log2 (b / f) := by
      rcases Nat.eq_zero_or_pos (a / d) with zero | nonzero
      · rw [zero]
        exact Nat.zero_le _
      · exact (Nat.le_log2 (by omega)).2 (Nat.le_trans (Nat.log2_self_le (by omega)) quotients)
    have same : Nat.log2 (a / d) - 52 = Nat.log2 (b / f) - 52 := by omega
    simp only [rounded, same]
    refine Nat.mul_le_mul_right _ (roundHalfEven_le_roundHalfEven
      (Nat.mul_pos positive (twoPow_pos _)) (Nat.mul_pos positiveToo (twoPow_pos _)) ?_)
    rw [← Nat.mul_assoc, ← Nat.mul_assoc]
    exact Nat.mul_le_mul_right _ le

/-- A greater natural number is not rounded to a smaller one. -/
theorem rounded_one_le_rounded_one (le : a ≤ b) : rounded a 1 ≤ rounded b 1 :=
  rounded_le_rounded Nat.one_pos Nat.one_pos (Nat.mul_le_mul_right 1 le)

/-- A number of 53 binary digits is rounded to itself. -/
theorem rounded_units_mul {mantissa exponent : Nat} (positive : 0 < d)
    (digits : mantissa < twoPow 53) :
    rounded (units mantissa exponent * d) d = units mantissa exponent := by
  have quotient : units mantissa exponent * d / d = units mantissa exponent :=
    Nat.mul_div_cancel _ positive
  have below : units mantissa exponent < twoPow (53 + exponent) := by
    rw [twoPow_add]
    exact Nat.mul_lt_mul_of_pos_right digits (twoPow_pos exponent)
  have scale := log2_lt_of_lt_twoPow (by omega) below
  simp only [rounded, quotient]
  have split : units mantissa exponent =
      mantissa * twoPow (exponent - (Nat.log2 (units mantissa exponent) - 52)) *
        twoPow (Nat.log2 (units mantissa exponent) - 52) := by
    rw [Nat.mul_assoc, ← twoPow_add, Nat.sub_add_cancel (by omega), units]
  generalize Nat.log2 (units mantissa exponent) - 52 = last at *
  rw [split, Nat.mul_assoc _ _ d, Nat.mul_comm _ d,
    roundHalfEven_mul (Nat.mul_pos positive (twoPow_pos last)), units]

/-- Rounding is off by half a unit of the last digit at most. -/
theorem rounded_near (positive : 0 < d) (wide : 53 ≤ bound) (small : a / d < twoPow bound) :
    2 * a ≤ 2 * (rounded a d * d) + d * twoPow (bound - 53) ∧
      2 * (rounded a d * d) ≤ 2 * a + d * twoPow (bound - 53) := by
  have scale := log2_lt_of_lt_twoPow (by omega) small
  obtain ⟨low, high⟩ := @roundHalfEven_near a (d * twoPow (Nat.log2 (a / d) - 52))
    (Nat.mul_pos positive (twoPow_pos _))
  have unit : d * twoPow (Nat.log2 (a / d) - 52) ≤ d * twoPow (bound - 53) :=
    Nat.mul_le_mul_left d (twoPow_le_twoPow (by omega))
  have same : rounded a d * d =
      roundHalfEven a (d * twoPow (Nat.log2 (a / d) - 52)) *
        (d * twoPow (Nat.log2 (a / d) - 52)) := by
    rw [rounded, units, Nat.mul_assoc, Nat.mul_comm d]
  rw [same]
  omega

/-- The digits of a rounded natural number, in units of the last one. -/
theorem rounded_one (a : Nat) :
    rounded a 1 =
      roundHalfEven a (twoPow (Nat.log2 a - 52)) * twoPow (Nat.log2 a - 52) := by
  simp only [rounded, units, Nat.div_one, Nat.one_mul]

/-- A natural number is rounded to an even multiple of the unit of its last digit if that is off by
half a unit at most. -/
theorem rounded_one_eq_of_even (even : k % 2 = 0)
    (low : 2 * a ≤ 2 * (k * twoPow (Nat.log2 a - 52)) + twoPow (Nat.log2 a - 52))
    (high : 2 * (k * twoPow (Nat.log2 a - 52)) ≤ 2 * a + twoPow (Nat.log2 a - 52)) :
    rounded a 1 = k * twoPow (Nat.log2 a - 52) := by
  rw [rounded_one, roundHalfEven_eq_of_even (twoPow_pos _) even low high]

end

/-! ## The operations -/

/-- A finite number that is not negative and has the given magnitude, as a multiple of
`2^-1074`. -/
def HasUnits (value : Binary64) (count : Nat) : Prop :=
  ∃ mantissa exponent, value = .finite false mantissa exponent ∧ units mantissa exponent = count

section

variable {value other : Binary64} {n m bound : Nat}

/-- A quotient within the range becomes the rounded number of units. -/
theorem ofRatio_hasUnits {numerator denominator : Nat}
    (small : numerator < twoPow bound * denominator) (inRange : bound ≤ 1023) :
    (ofRatio false numerator denominator).HasUnits
      (rounded (numerator * twoPow 1074) denominator) :=
  exists_parts_of_ofRatio small inRange

/-- A natural number of 53 binary digits stays as it is. -/
theorem ofNat_hasUnits (digits : n < twoPow 53) : (ofNat n).HasUnits (n * twoPow 1074) := by
  have small : n < twoPow 53 * 1 := by rwa [Nat.mul_one]
  have exact : rounded (n * twoPow 1074 * 1) 1 = n * twoPow 1074 :=
    @rounded_units_mul 1 n 1074 Nat.one_pos digits
  rw [Nat.mul_one] at exact
  exact exact ▸ ofRatio_hasUnits small (by decide)

/-- The units of a quotient. -/
theorem HasUnits.div (left : value.HasUnits n) (right : other.HasUnits m) (positive : 0 < m)
    (small : n < twoPow bound * m) (inRange : bound ≤ 1023) :
    (value.div other).HasUnits (rounded (n * twoPow 1074) m) := by
  obtain ⟨mantissa, exponent, rfl, rfl⟩ := left
  obtain ⟨significand, scale, rfl, rfl⟩ := right
  have nonzero : significand ≠ 0 := by
    rintro rfl
    rw [units, Nat.zero_mul] at positive
    omega
  rw [Binary64.div, if_neg nonzero]
  exact ofRatio_hasUnits small inRange

/-- The units of a sum. -/
theorem HasUnits.add (left : value.HasUnits n) (right : other.HasUnits m)
    (small : n + m < twoPow bound * twoPow 1074) (inRange : bound ≤ 1023) :
    (value.add other).HasUnits (rounded (n + m) 1) := by
  obtain ⟨mantissa, exponent, rfl, rfl⟩ := left
  obtain ⟨significand, scale, rfl, rfl⟩ := right
  have sum : signedUnits false mantissa exponent + signedUnits false significand scale =
      ((units mantissa exponent + units significand scale : Nat) : Int) := by
    simp only [signedUnits, Bool.false_eq_true, if_false, Int.natCast_add]
  generalize units mantissa exponent + units significand scale = total at *
  rw [Binary64.add, sum]
  by_cases zero : total = 0
  · subst zero
    exact ⟨0, 0, rfl, rfl⟩
  · have scaled := rounded_scale total 1 (twoPow_pos 1074)
    rw [Nat.one_mul] at scaled
    rw [if_neg (by omega), decide_eq_false (by omega), Int.natAbs_natCast, ← scaled]
    exact ofRatio_hasUnits small inRange

/-- The units of a product. -/
theorem HasUnits.mul (left : value.HasUnits n) (right : other.HasUnits m)
    (small : n * m < twoPow bound * twoPow 2148) (inRange : bound ≤ 1023) :
    (value.mul other).HasUnits (rounded (n * m) (twoPow 1074)) := by
  obtain ⟨mantissa, exponent, rfl, rfl⟩ := left
  obtain ⟨significand, scale, rfl, rfl⟩ := right
  have sum : 2148 = 1074 + 1074 := rfl
  have width : twoPow 1074 * twoPow 1074 = twoPow 2148 := by rw [sum, twoPow_add]
  have scaled := rounded_scale (units mantissa exponent * units significand scale) (twoPow 1074)
    (twoPow_pos 1074)
  rw [width] at scaled
  rw [Binary64.mul, ← scaled]
  exact ofRatio_hasUnits small inRange

/-- The integer part of a number that is not too large. -/
theorem HasUnits.toInt64 (parts : value.HasUnits n) (small : n < twoPow 63 * twoPow 1074) :
    value.toInt64 = (n / twoPow 1074 : Nat) := by
  obtain ⟨mantissa, exponent, rfl, rfl⟩ := parts
  have fits : units mantissa exponent / twoPow 1074 < twoPow 63 :=
    Nat.div_lt_of_lt_mul (Nat.mul_comm _ _ ▸ small)
  simp only [Binary64.toInt64, Bool.false_eq_true, if_false, if_neg (Nat.not_le_of_lt fits)]

end

end MetricProbe.Binary64

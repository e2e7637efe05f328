import MetricProbe.Decimal.Binary64

/-!
# The range of double-precision numbers

How large the results of operations can be, as bounds by powers of two. Rounding never exceeds such
a bound, because a power of two within the range is a number itself. A number is in the range if it
is finite; nothing is said here about which of the finite numbers a result is.
-/

namespace MetricProbe

/-! ## Powers -/

/-- A power of two to a sum is a product of powers. -/
theorem twoPow_add (m n : Nat) : twoPow (m + n) = twoPow m * twoPow n :=
  Nat.pow_add 2 m n

/-- A power of two is positive. -/
theorem twoPow_pos (n : Nat) : 0 < twoPow n :=
  Nat.two_pow_pos n

/-- Powers of two grow with the exponent. -/
theorem twoPow_le_twoPow {m n : Nat} (le : m ≤ n) : twoPow m ≤ twoPow n :=
  Nat.pow_le_pow_right (by decide) le

/-- Powers of two grow strictly with the exponent. -/
theorem twoPow_lt_twoPow {m n : Nat} (lt : m < n) : twoPow m < twoPow n :=
  Nat.pow_lt_pow_right (by decide) lt

/-- A power of two as a number of smaller ones. -/
theorem twoPow_eq_mul {digits value small large : Nat} (worth : twoPow digits = value)
    (exponents : large = digits + small) : twoPow large = value * twoPow small := by
  rw [exponents, twoPow_add, worth]

/-- A power of two is an even multiple of every smaller one. -/
theorem twoPow_eq_two_mul {small large : Nat} (lt : small < large) :
    twoPow large = 2 * twoPow (large - 1 - small) * twoPow small := by
  refine twoPow_eq_mul ((twoPow_add 1 _).trans rfl) ?_
  omega

/-- Three binary digits more are worth eight times as much, or more. -/
theorem eight_mul_twoPow_le {small large : Nat} (le : small + 3 ≤ large) :
    8 * twoPow small ≤ twoPow large := by
  have worth : twoPow 3 = 8 := rfl
  rw [← worth, ← twoPow_add]
  exact twoPow_le_twoPow (by omega)

/-- A number is below the power of two behind its logarithm. -/
theorem lt_twoPow_log2 (n : Nat) : n < twoPow (n.log2 + 1) :=
  Nat.lt_log2_self

/-- A number below a positive power of two has a smaller logarithm. -/
theorem log2_lt_of_lt_twoPow {n bound : Nat} (positive : 0 < bound) (small : n < twoPow bound) :
    n.log2 < bound := by
  by_cases zero : n = 0
  · rw [zero]
    exact positive
  · exact (Nat.log2_lt zero).2 small

/-- A number of at least a power of two has no smaller logarithm. -/
theorem le_log2_of_twoPow_le {n exponent : Nat} (large : twoPow exponent ≤ n) :
    exponent ≤ n.log2 :=
  (Nat.le_log2 (Nat.ne_of_gt (Nat.lt_of_lt_of_le (twoPow_pos exponent) large))).2 large

/-- A power of ten to a sum is a product of powers. -/
theorem tenPow_add (m n : Nat) : tenPow (m + n) = tenPow m * tenPow n :=
  Nat.pow_add 10 m n

/-- Powers of ten grow with the exponent. -/
theorem tenPow_le_tenPow {m n : Nat} (le : m ≤ n) : tenPow m ≤ tenPow n :=
  Nat.pow_le_pow_right (by decide) le

namespace Binary64

/-! ## Finite numbers -/

/-- A finite number whose magnitude is at most the given power of two. -/
def Within (value : Binary64) (bound : Nat) : Prop :=
  ∃ negative mantissa exponent, value = .finite negative mantissa exponent ∧
    units mantissa exponent ≤ twoPow (1074 + bound)

/-- A number within bounds is finite. -/
theorem Within.isFinite {value : Binary64} {bound : Nat} (inRange : value.Within bound) :
    value.isFinite = true := by
  obtain ⟨_, _, _, rfl, _⟩ := inRange
  rfl

/-- The sign of a finite number does not matter. -/
theorem isFinite_neg {value : Binary64} (finite : value.isFinite = true) :
    value.neg.isFinite = true := by
  cases value <;> first | rfl | cases finite

/-! ## Rounding -/

/-- Rounding adds less than one, or one. -/
theorem roundHalfEven_le (numerator denominator : Nat) :
    roundHalfEven numerator denominator ≤ numerator / denominator + 1 := by
  unfold roundHalfEven
  dsimp only
  split
  · omega
  · split <;> omega

/-- Rounding does not fall below the quotient without its remainder. -/
theorem le_roundHalfEven (numerator denominator : Nat) :
    numerator / denominator ≤ roundHalfEven numerator denominator := by
  unfold roundHalfEven
  dsimp only
  split
  · omega
  · split <;> omega

/-- The significand of a quotient has at most 53 bits, or is the next power of two. -/
theorem roundHalfEven_le_twoPow (scaled denominator : Nat) :
    roundHalfEven scaled
      (denominator * twoPow (Nat.log2 (scaled / denominator) - 52)) ≤ twoPow 53 := by
  have rounded := roundHalfEven_le scaled
    (denominator * twoPow (Nat.log2 (scaled / denominator) - 52))
  rw [← Nat.div_div_eq_div_mul] at rounded
  generalize scaled / denominator = quotient at rounded ⊢
  have small : quotient < twoPow (quotient.log2 - 52) * twoPow 53 := by
    rw [← twoPow_add]
    exact Nat.lt_of_lt_of_le (lt_twoPow_log2 quotient) (twoPow_le_twoPow (by omega))
  have below := Nat.div_lt_of_lt_mul small
  omega

/-- Rounding a quotient does not exceed a power of two that the quotient is below of. -/
theorem units_roundHalfEven_le {scaled denominator bound : Nat} (wide : 53 ≤ bound)
    (small : scaled / denominator < twoPow bound) :
    units (roundHalfEven scaled (denominator * twoPow (Nat.log2 (scaled / denominator) - 52)))
      (Nat.log2 (scaled / denominator) - 52) ≤ twoPow bound := by
  have significand := roundHalfEven_le_twoPow scaled denominator
  have magnitude := log2_lt_of_lt_twoPow (by omega) small
  calc units _ (Nat.log2 (scaled / denominator) - 52)
      ≤ twoPow 53 * twoPow (Nat.log2 (scaled / denominator) - 52) :=
        Nat.mul_le_mul_right _ significand
    _ = twoPow (53 + (Nat.log2 (scaled / denominator) - 52)) := (twoPow_add _ _).symm
    _ ≤ twoPow bound := twoPow_le_twoPow (by omega)

/-- Packing keeps the magnitude, also where it carries into the exponent. -/
theorem exists_parts_of_pack {negative : Bool} {mantissa exponent : Nat} (low : exponent < 2045) :
    ∃ significand scale, pack negative mantissa exponent = .finite negative significand scale ∧
      units significand scale = units mantissa exponent := by
  unfold pack
  by_cases carry : mantissa = twoPow 53
  · have same : units (twoPow 52) (exponent + 1) = units mantissa exponent := by
      rw [units, units, carry, ← twoPow_add, ← twoPow_add]
      exact congrArg twoPow (by omega)
    rw [if_pos carry]
    dsimp only
    rw [if_neg (by omega)]
    exact ⟨_, _, rfl, same⟩
  · rw [if_neg carry]
    dsimp only
    rw [if_neg (by omega)]
    exact ⟨_, _, rfl, rfl⟩

/-- In units, a quotient is as far below a power of two as it is itself. -/
theorem scaled_lt {numerator denominator bound : Nat}
    (small : numerator < twoPow bound * denominator) :
    numerator * twoPow 1074 / denominator < twoPow (1074 + bound) := by
  refine Nat.div_lt_of_lt_mul ?_
  calc numerator * twoPow 1074
      < twoPow bound * denominator * twoPow 1074 :=
        Nat.mul_lt_mul_of_pos_right small (twoPow_pos 1074)
    _ = denominator * twoPow (1074 + bound) := by
        rw [twoPow_add, Nat.mul_comm (twoPow bound), Nat.mul_assoc, Nat.mul_comm (twoPow bound)]

/-- A quotient within the range is rounded to a finite number of the rounded magnitude. -/
theorem exists_parts_of_ofRatio {negative : Bool} {numerator denominator bound : Nat}
    (small : numerator < twoPow bound * denominator) (inRange : bound ≤ 1023) :
    ∃ significand scale, ofRatio negative numerator denominator =
        .finite negative significand scale ∧
      units significand scale = units (roundHalfEven (numerator * twoPow 1074)
        (denominator * twoPow (Nat.log2 (numerator * twoPow 1074 / denominator) - 52)))
          (Nat.log2 (numerator * twoPow 1074 / denominator) - 52) := by
  have magnitude : Nat.log2 (numerator * twoPow 1074 / denominator) < 1074 + bound :=
    log2_lt_of_lt_twoPow (by omega) (scaled_lt small)
  exact exists_parts_of_pack (by omega)

/-- A quotient below a power of two within the range is rounded to a number within it. -/
theorem ofRatio_within {negative : Bool} {numerator denominator bound : Nat}
    (small : numerator < twoPow bound * denominator) (inRange : bound ≤ 1023) :
    (ofRatio negative numerator denominator).Within bound := by
  obtain ⟨significand, scale, rounded, same⟩ := exists_parts_of_ofRatio small inRange
  exact ⟨negative, significand, scale, rounded,
    same ▸ units_roundHalfEven_le (by omega) (scaled_lt small)⟩

/-- A natural number below a power of two within the range is rounded to a number within it. -/
theorem ofNat_within {n bound : Nat} (small : n < twoPow bound) (inRange : bound ≤ 1023) :
    (ofNat n).Within bound :=
  ofRatio_within (by rwa [Nat.mul_one]) inRange

/-- An integer whose magnitude is below a power of two within the range is rounded to a number
within it. -/
theorem ofInt_within {n : Int} {bound : Nat} (small : n.natAbs < twoPow bound)
    (inRange : bound ≤ 1023) : (ofInt n).Within bound :=
  ofRatio_within (by rwa [Nat.mul_one]) inRange

/-! ## Beyond the range -/

/-- Packing gives an infinity if the exponent is beyond the range. -/
theorem pack_eq_infinite {negative : Bool} {mantissa exponent : Nat} (beyond : 2045 < exponent) :
    pack negative mantissa exponent = .infinite negative := by
  unfold pack
  by_cases carry : mantissa = twoPow 53
  · rw [if_pos carry]
    dsimp only
    rw [if_pos (by omega)]
  · rw [if_neg carry]
    dsimp only
    rw [if_pos beyond]

/-- Packing gives a number. -/
theorem pack_ne_nan {negative : Bool} {mantissa exponent : Nat} :
    pack negative mantissa exponent ≠ .nan := by
  unfold pack
  generalize (if mantissa = twoPow 53 then (twoPow 52, exponent + 1) else (mantissa, exponent)) =
    parts
  dsimp only
  split <;> exact nofun

/-- A rounded quotient is a number. -/
theorem ofRatio_ne_nan {negative : Bool} {numerator denominator : Nat} :
    ofRatio negative numerator denominator ≠ .nan :=
  pack_ne_nan

/-- A quotient of at least a power of two beyond the range is rounded to an infinity. -/
theorem ofRatio_eq_infinite {negative : Bool} {numerator denominator bound : Nat}
    (positive : 0 < denominator) (beyond : 1024 ≤ bound)
    (large : twoPow bound * denominator ≤ numerator) :
    ofRatio negative numerator denominator = .infinite negative := by
  have quotient : twoPow (bound + 1074) ≤ numerator * twoPow 1074 / denominator := by
    refine (Nat.le_div_iff_mul_le positive).2 ?_
    calc twoPow (bound + 1074) * denominator
        = twoPow bound * denominator * twoPow 1074 := by
          rw [twoPow_add, Nat.mul_right_comm]
      _ ≤ numerator * twoPow 1074 := Nat.mul_le_mul_right _ large
  have magnitude : bound + 1074 ≤ Nat.log2 (numerator * twoPow 1074 / denominator) :=
    le_log2_of_twoPow_le quotient
  exact pack_eq_infinite (by omega)

/-- A quotient of less than half the smallest number is rounded to a zero. -/
theorem ofRatio_eq_zero {negative : Bool} {numerator denominator : Nat}
    (small : 2 * (numerator * twoPow 1074) < denominator) :
    ofRatio negative numerator denominator = .finite negative 0 0 := by
  have quotient : numerator * twoPow 1074 / denominator = 0 := Nat.div_eq_of_lt (by omega)
  have remainder : numerator * twoPow 1074 % denominator = numerator * twoPow 1074 :=
    Nat.mod_eq_of_lt (by omega)
  have rounded : roundHalfEven (numerator * twoPow 1074) denominator = 0 := by
    rw [roundHalfEven, quotient, remainder]
    exact if_pos small
  have scale : denominator * twoPow (Nat.log2 0 - 52) = denominator := Nat.mul_one _
  simp only [ofRatio, quotient, scale, rounded]
  rfl

/-! ## Products and quotients -/

/-- Packing gives a finite number or an infinity. -/
theorem isFinite_pack {negative : Bool} {mantissa exponent : Nat}
    (bounded : (pack negative mantissa exponent).isInfinite = false) :
    (pack negative mantissa exponent).isFinite = true := by
  unfold pack at *
  generalize (if mantissa = twoPow 53 then (twoPow 52, exponent + 1) else (mantissa, exponent)) =
    parts at *
  dsimp only at *
  by_cases beyond : 2045 < parts.2
  · rw [if_pos beyond] at bounded
    cases bounded
  · rw [if_neg beyond]
    rfl

/-- A product of finite numbers is finite or an infinity. -/
theorem isFinite_mul {value other : Binary64} (finite : value.isFinite = true)
    (finiteOther : other.isFinite = true) (bounded : (value.mul other).isInfinite = false) :
    (value.mul other).isFinite = true := by
  cases value with
  | nan | infinite => cases finite
  | finite =>
      cases other with
      | nan | infinite => cases finiteOther
      | finite =>
          rw [mul, ofRatio] at *
          exact isFinite_pack bounded

/-- Whether a number is finite and its magnitude is at least one. -/
def isNormal (value : Binary64) : Bool :=
  match value with
  | .finite _ mantissa exponent => twoPow 1074 ≤ units mantissa exponent
  | _ => false

/-- Rounding does not fall below a power of two that the quotient is not below of. -/
theorem le_units_roundHalfEven {scaled denominator bound : Nat} (wide : 52 ≤ bound)
    (large : twoPow bound ≤ scaled / denominator) :
    twoPow bound ≤
      units (roundHalfEven scaled (denominator * twoPow (Nat.log2 (scaled / denominator) - 52)))
        (Nat.log2 (scaled / denominator) - 52) := by
  have rounded := le_roundHalfEven scaled
    (denominator * twoPow (Nat.log2 (scaled / denominator) - 52))
  rw [← Nat.div_div_eq_div_mul] at rounded
  have nonzero : scaled / denominator ≠ 0 :=
    Nat.ne_of_gt (Nat.lt_of_lt_of_le (twoPow_pos bound) large)
  have magnitude := le_log2_of_twoPow_le large
  have floor : twoPow 52 ≤
      scaled / denominator / twoPow (Nat.log2 (scaled / denominator) - 52) := by
    refine (Nat.le_div_iff_mul_le (twoPow_pos _)).2 ?_
    rw [← twoPow_add, Nat.add_sub_cancel' (by omega)]
    exact Nat.log2_self_le nonzero
  calc twoPow bound
      ≤ twoPow (52 + (Nat.log2 (scaled / denominator) - 52)) := twoPow_le_twoPow (by omega)
    _ = twoPow 52 * twoPow (Nat.log2 (scaled / denominator) - 52) := twoPow_add _ _
    _ ≤ _ := Nat.mul_le_mul_right _ (Nat.le_trans floor rounded)

/-- A positive natural number within the range is rounded to a number of at least one. -/
theorem isNormal_ofNat {n bound : Nat} (positive : 0 < n) (small : n < twoPow bound)
    (inRange : bound ≤ 1023) : (ofNat n).isNormal = true := by
  have large : ∀ unit, unit ≤ n * unit / 1 := by
    intro unit
    rw [Nat.div_one]
    exact Nat.le_mul_of_pos_left unit positive
  have small : n < twoPow bound * 1 := by rwa [Nat.mul_one]
  obtain ⟨significand, scale, rounded, same⟩ := exists_parts_of_ofRatio small inRange
  have normal : twoPow 1074 ≤ units significand scale :=
    same ▸ @le_units_roundHalfEven (n * twoPow 1074) 1 1074 (by decide) (large _)
  rw [ofNat, rounded]
  simpa only [isNormal, decide_eq_true_eq] using normal

/-- Dividing by a number of at least one at most doubles the bound. -/
theorem div_within {value divisor : Binary64} {bound : Nat} (inRange : value.Within bound)
    (normal : divisor.isNormal = true) (room : bound < 1023) :
    (value.div divisor).Within (bound + 1) := by
  obtain ⟨negative, mantissa, exponent, rfl, small⟩ := inRange
  cases divisor with
  | nan | infinite => cases normal
  | finite sign significand scale =>
      have large : twoPow 1074 ≤ units significand scale := by
        simpa only [isNormal, decide_eq_true_eq] using normal
      have nonzero : significand ≠ 0 := by
        rintro rfl
        rw [units, Nat.zero_mul] at large
        exact absurd large (Nat.not_le_of_lt (twoPow_pos 1074))
      have smaller : units mantissa exponent < twoPow (bound + 1) * units significand scale :=
        calc units mantissa exponent
            ≤ twoPow (1074 + bound) := small
          _ < twoPow (1074 + bound + 1) := Nat.pow_lt_pow_right (by decide) (by omega)
          _ = twoPow (bound + 1) * twoPow 1074 := by
              rw [← twoPow_add]
              exact congrArg twoPow (by omega)
          _ ≤ twoPow (bound + 1) * units significand scale := Nat.mul_le_mul_left _ large
      rw [div, if_neg nonzero]
      exact ofRatio_within smaller (by omega)

end Binary64

end MetricProbe

import MetricProbe.Proofs.Decimal.Range
import MetricProbe.Proofs.Json.Numbers

/-!
# The range of numbers in JSON

Every number that is read is finite. The digits of a significand fit in 64 bits; scaling it down by
powers of ten keeps it within the range, and scaling it up beyond the range is refused.
-/

namespace MetricProbe.Json

/-! ## Scaling -/

/-- The powers of ten up to the greatest one are numbers of at least one. The greatest is so close
to the end of the range that it is looked at by itself. -/
theorem isNormal_tenPow {exponent : Nat} (inRange : exponent ≤ greatestPower) :
    (Binary64.ofNat (tenPow exponent)).isNormal = true := by
  have small : tenPow 307 < twoPow 1020 := by decide +kernel
  have positive : 0 < tenPow exponent := Nat.pow_pos (by decide)
  rcases Nat.lt_or_eq_of_le inRange with less | rfl
  · have below : tenPow exponent ≤ tenPow 307 := tenPow_le_tenPow (Nat.le_of_lt_succ less)
    generalize tenPow 307 = limit at below small
    exact Binary64.isNormal_ofNat positive (Nat.lt_of_le_of_lt below small) (by decide)
  · decide +kernel

/-- A number that is at least one is finite. -/
theorem isFinite_of_isNormal {value : Binary64} (normal : value.isNormal = true) :
    value.isFinite = true := by
  cases value <;> first | rfl | cases normal

/-- A number times a power of ten is finite, if it is one at all. The bound of the number grows with
every division, so there must be room for as many of them as there is fuel. -/
theorem isFinite_scaleBy {value result : Binary64} {exponent : Int} {bound fuel : Nat}
    (inRange : value.Within bound) (room : bound + fuel ≤ 1023)
    (given : scaleBy value exponent fuel = some result) : result.isFinite = true := by
  induction fuel generalizing value exponent bound with
  | zero =>
      cases given
      exact inRange.isFinite
  | succ fuel inductionHypothesis =>
      rw [scaleBy] at given
      by_cases single : exponent.natAbs ≤ greatestPower
      · have normal := isNormal_tenPow single
        rw [if_pos single] at given
        by_cases negative : exponent < 0
        · simp only [negative, if_true] at given
          cases given
          exact (Binary64.div_within inRange normal (by omega)).isFinite
        · simp only [negative, if_false] at given
          split at given
          · cases given
          · next bounded =>
            cases given
            exact Binary64.isFinite_mul inRange.isFinite (isFinite_of_isNormal normal)
              (by simpa using bounded)
      · rw [if_neg single] at given
        split at given
        · cases given
          exact inRange.isFinite
        · split at given
          · cases given
          · have normal := isNormal_tenPow (Nat.le_refl greatestPower)
            exact inductionHypothesis (Binary64.div_within inRange normal (by omega)) (by omega) given

/-! ## Numbers -/

/-- A significand fits in 64 bits. -/
theorem absorb_lt {significand : Nat} {digits : List Char} (fits : significand < twoPow 64) :
    (absorb significand digits).1 < twoPow 64 := by
  induction digits generalizing significand with
  | nil => exact fits
  | cons digit more inductionHypothesis =>
      rw [absorb]
      dsimp only
      split
      · next next => exact inductionHypothesis next
      · exact fits

section

variable {negative : Bool} {significand : Nat} {number : Number}

/-- A significand with an exponent is finite. -/
theorem isFinite_scaled {exponent : Int} (fits : significand < twoPow 64)
    (given : scaled? negative significand exponent = some number) :
    number.toBinary64.isFinite = true := by
  obtain ⟨value, scaled, rfl⟩ := Option.map_eq_some_iff.1 given
  have finite : value.isFinite = true :=
    isFinite_scaleBy (Binary64.ofNat_within fits (by decide)) (by decide) scaled
  cases negative with
  | true => exact Binary64.isFinite_neg finite
  | false => exact finite

/-- A number without fraction and exponent is finite. -/
theorem isFinite_whole {dropped : Nat} (fits : significand < twoPow 64)
    (given : whole? negative significand dropped = some number) :
    number.toBinary64.isFinite = true := by
  rw [whole?] at given
  split at given
  · exact isFinite_scaled fits given
  · split at given
    · cases given
      exact (Binary64.ofInt_within (by simpa using fits) (by decide : 64 ≤ 1023)).isFinite
    · split at given
      · cases given
        exact Binary64.isFinite_neg (Binary64.ofNat_within fits (by decide)).isFinite
      · cases given
        exact (Binary64.ofInt_within (by simpa using fits) (by decide : 64 ≤ 1023)).isFinite

/-- A number with a written exponent is finite. -/
theorem isFinite_raised {exponent : Int} {sign : Sign} {digits : List Char}
    (fits : significand < twoPow 64)
    (given : raised? negative significand exponent sign digits = some number) :
    number.toBinary64.isFinite = true := by
  rw [raised?] at given
  split at given
  · exact isFinite_scaled fits given
  · split at given
    · cases given
    · cases given
      rfl

/-- The number that a numeral stands for is finite. -/
theorem Numeral.isFinite {numeral : Numeral} (given : numeral.value? = some number) :
    number.toBinary64.isFinite = true := by
  have whole : (absorb 0 numeral.whole).1 < twoPow 64 := absorb_lt (twoPow_pos 64)
  simp only [Numeral.value?, tail?] at given
  split at given
  · cases written : numeral.exponent with
    | none =>
        rw [written] at given
        exact isFinite_whole whole given
    | some exponent =>
        rw [written] at given
        exact isFinite_raised whole given
  · have gathered : (absorb _ numeral.fraction).1 < twoPow 64 := absorb_lt whole
    cases written : numeral.exponent with
    | none =>
        rw [written] at given
        exact isFinite_scaled gathered given
    | some exponent =>
        rw [written] at given
        exact isFinite_raised gathered given

end

end MetricProbe.Json

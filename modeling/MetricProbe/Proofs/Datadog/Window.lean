import Mathlib.Tactic.Ring
import MetricProbe.Proofs.Decimal.Rounding
import MetricProbe.Proofs.Http.Clients

/-!
# The window of a query

A query asks for a window of ten metric intervals. Its width is computed from the seconds of the
interval, with three roundings, and its fraction is dropped at the end. `windowUnits` is the
computation by itself, on natural numbers, in units of `2^-1074` seconds.

Whole tenths of a second come out exactly, and a longer interval has no shorter window, so a window
is never too narrow, and too wide by a second at most. It can be too wide only just below a tenth of
a second: `windowUnits_lt` says how close that has to be. Nothing is said about other multiples of
an interval.
-/

namespace MetricProbe.Datadog

open Binary64 (rounded)

/-! ## The computation -/

/-- The part of a second beyond the whole ones, rounded. -/
def fractionUnits (nanoseconds : Nat) : Nat :=
  rounded (nanoseconds * twoPow 1074) 1000000000

/-- The whole seconds of an interval and the rest, before the sum is rounded. -/
def sumUnits (nanoseconds : Nat) : Nat :=
  nanoseconds / 1000000000 * twoPow 1074 + fractionUnits (nanoseconds % 1000000000)

/-- The seconds of an interval, rounded. -/
def secondsUnits (nanoseconds : Nat) : Nat := rounded (sumUnits nanoseconds) 1

/-- Ten times the seconds of an interval, rounded. -/
def windowUnits (nanoseconds : Nat) : Nat := rounded (10 * secondsUnits nanoseconds) 1

section

variable {n m : Nat}

/-- A part of a second is not more than a second. -/
theorem fractionUnits_le (small : n < 1000000000) : fractionUnits n ≤ twoPow 1074 := by
  have one : rounded (Binary64.units 1 1074 * 1000000000) 1000000000 = Binary64.units 1 1074 :=
    Binary64.rounded_units_mul (by decide) (by decide)
  rw [Binary64.units, Nat.one_mul] at one
  calc fractionUnits n
      ≤ rounded (twoPow 1074 * 1000000000) 1000000000 := by
        refine Binary64.rounded_le_rounded (by decide) (by decide) (Nat.mul_le_mul_right _ ?_)
        rw [Nat.mul_comm]
        exact Nat.mul_le_mul_left _ (Nat.le_of_lt small)
    _ = twoPow 1074 := one

/-- The part of a second is not more than a second of the sum. -/
theorem sumUnits_le (n : Nat) : sumUnits n ≤ (n / 1000000000 + 1) * twoPow 1074 := by
  rw [sumUnits, Nat.succ_mul]
  exact Nat.add_le_add_left (fractionUnits_le (Nat.mod_lt n (by decide))) _

/-- The seconds of an interval are bounded before they are rounded. -/
theorem sumUnits_lt (small : n < twoPow 37 * 100000000) : sumUnits n < twoPow (1074 + 34) := by
  have limit : n < 1000000000 * (twoPow 34 - 1) := Nat.lt_trans small (by decide)
  have whole := Nat.div_lt_of_lt_mul limit
  calc sumUnits n
      ≤ (n / 1000000000 + 1) * twoPow 1074 := sumUnits_le n
    _ < twoPow 34 * twoPow 1074 := Nat.mul_lt_mul_of_pos_right (by omega) (twoPow_pos 1074)
    _ = twoPow (1074 + 34) := by rw [twoPow_add, Nat.mul_comm]

/-- The seconds of an interval are bounded. -/
theorem secondsUnits_le (small : n < twoPow 37 * 100000000) :
    secondsUnits n ≤ twoPow (1074 + 34) := by
  refine Binary64.rounded_le_twoPow (by decide) ?_
  rw [Nat.div_one]
  exact sumUnits_lt small

/-- Ten times the seconds of an interval are bounded. -/
theorem ten_mul_secondsUnits_lt (small : n < twoPow 37 * 100000000) :
    10 * secondsUnits n < twoPow (1074 + 38) :=
  calc 10 * secondsUnits n
      ≤ 10 * twoPow (1074 + 34) := Nat.mul_le_mul_left _ (secondsUnits_le small)
    _ < twoPow 4 * twoPow (1074 + 34) := Nat.mul_lt_mul_of_pos_right (by decide) (twoPow_pos _)
    _ = twoPow (4 + (1074 + 34)) := (twoPow_add _ _).symm
    _ = twoPow (1074 + 38) := congrArg twoPow (by decide : 4 + (1074 + 34) = 1074 + 38)

/-- The part of a second beyond the whole ones, as it is computed. -/
theorem fraction_hasUnits (small : n < 1000000000) :
    ((Binary64.ofNat n).div (Binary64.ofNat 1000000000)).HasUnits (fractionUnits n) := by
  have dividend := Binary64.ofNat_hasUnits (Nat.lt_trans small (by decide))
  have divisor := Binary64.ofNat_hasUnits (by decide : 1000000000 < twoPow 53)
  have below : n * twoPow 1074 < twoPow 0 * (1000000000 * twoPow 1074) := by
    rw [← Nat.mul_assoc]
    exact Nat.mul_lt_mul_of_pos_right small (twoPow_pos 1074)
  have positive : 0 < 1000000000 * twoPow 1074 := Nat.mul_pos (by decide) (twoPow_pos 1074)
  have quotient := dividend.div divisor positive below (by decide)
  rwa [Binary64.rounded_scale _ _ (twoPow_pos 1074)] at quotient

/-- The seconds of an interval, as they are computed. -/
theorem seconds_hasUnits (interval : Interval) :
    interval.seconds.HasUnits (secondsUnits interval.nanoseconds) := by
  have small : interval.nanoseconds < twoPow 37 * 100000000 :=
    Nat.lt_trans interval.bounded (by decide)
  have whole : interval.nanoseconds / 1000000000 < twoPow 53 :=
    Nat.div_lt_of_lt_mul (Nat.lt_trans small (by decide))
  have sum := sumUnits_lt small
  rw [twoPow_add, Nat.mul_comm (twoPow 1074)] at sum
  exact (Binary64.ofNat_hasUnits whole).add
    (fraction_hasUnits (Nat.mod_lt _ (by decide))) sum (by decide)

/-- The computed window in natural numbers. -/
theorem lookbackSeconds_eq (interval : Interval) :
    interval.lookbackSeconds windowIntervals =
      (windowUnits interval.nanoseconds / twoPow 1074 : Nat) := by
  have small := ten_mul_secondsUnits_lt (Nat.lt_trans interval.bounded (by decide))
  have ten := Binary64.ofNat_hasUnits (by decide : 10 < twoPow 53)
  have below : 10 * twoPow 1074 * secondsUnits interval.nanoseconds < twoPow 38 * twoPow 2148 :=
    calc 10 * twoPow 1074 * secondsUnits interval.nanoseconds
        = 10 * secondsUnits interval.nanoseconds * twoPow 1074 := Nat.mul_right_comm _ _ _
      _ < twoPow (1074 + 38) * twoPow 1074 := Nat.mul_lt_mul_of_pos_right small (twoPow_pos 1074)
      _ = twoPow (1074 + 38 + 1074) := (twoPow_add _ _).symm
      _ = twoPow (38 + 2148) := congrArg twoPow (by decide : 1074 + 38 + 1074 = 38 + 2148)
      _ = twoPow 38 * twoPow 2148 := twoPow_add _ _
  have product := ten.mul (seconds_hasUnits interval) below (by decide)
  have shift := Binary64.rounded_scale (10 * secondsUnits interval.nanoseconds) 1 (twoPow_pos 1074)
  rw [Nat.one_mul, Nat.mul_right_comm] at shift
  rw [shift] at product
  have product_le : rounded (10 * secondsUnits interval.nanoseconds) 1 ≤ twoPow (1074 + 38) := by
    refine Binary64.rounded_le_twoPow (by decide) ?_
    rw [Nat.div_one]
    exact small
  have width := @twoPow_lt_twoPow (1074 + 38) (63 + 1074) (by decide)
  rw [twoPow_add 63 1074] at width
  rw [Interval.lookbackSeconds, windowIntervals]
  exact product.toInt64 (Nat.lt_of_le_of_lt product_le width)

/-! ## Tenths of a second -/

/-- A longer interval does not have a smaller sum. -/
theorem sumUnits_le_sumUnits (le : n ≤ m) : sumUnits n ≤ sumUnits m := by
  rcases Nat.lt_or_ge (n / 1000000000) (m / 1000000000) with fewer | notFewer
  · calc sumUnits n
        ≤ (n / 1000000000 + 1) * twoPow 1074 := sumUnits_le n
      _ ≤ m / 1000000000 * twoPow 1074 := Nat.mul_le_mul_right _ fewer
      _ ≤ sumUnits m := Nat.le_add_right _ _
  · have same : n / 1000000000 = m / 1000000000 := by omega
    have rest : n % 1000000000 ≤ m % 1000000000 := by omega
    rw [sumUnits, sumUnits, same]
    refine Nat.add_le_add_left (Binary64.rounded_le_rounded (by decide) (by decide) ?_) _
    exact Nat.mul_le_mul_right _ (Nat.mul_le_mul_right _ rest)

/-- A longer interval does not have a shorter window. -/
theorem windowUnits_le_windowUnits (le : n ≤ m) : windowUnits n ≤ windowUnits m := by
  have seconds := Binary64.rounded_one_le_rounded_one (sumUnits_le_sumUnits le)
  exact Binary64.rounded_one_le_rounded_one (Nat.mul_le_mul_left 10 seconds)

/-- Short intervals of whole tenths. -/
theorem windowUnits_short : ∀ t < 40, windowUnits (t * 100000000) = t * twoPow 1074 := by
  decide +kernel

/-- The part of a second is off by half a unit of its last digit at most. -/
theorem fractionUnits_near (small : n < 1000000000) :
    n * twoPow 1074 ≤ fractionUnits n * 1000000000 + 500000000 * twoPow 1021 ∧
      fractionUnits n * 1000000000 ≤ n * twoPow 1074 + 500000000 * twoPow 1021 := by
  have below : n * twoPow 1074 / 1000000000 < twoPow 1074 := by
    refine Nat.div_lt_of_lt_mul ?_
    exact Nat.mul_lt_mul_of_pos_right small (twoPow_pos 1074)
  have near := Binary64.rounded_near (by decide) (by decide) below
  have digit : 1074 - 53 = 1021 := rfl
  rw [digit] at near
  rw [fractionUnits]
  omega

/-- The sum is off by no more than the part of a second is. -/
theorem sumUnits_near (n : Nat) :
    n * twoPow 1074 ≤ sumUnits n * 1000000000 + 500000000 * twoPow 1021 ∧
      sumUnits n * 1000000000 ≤ n * twoPow 1074 + 500000000 * twoPow 1021 := by
  have fraction := @fractionUnits_near (n % 1000000000) (Nat.mod_lt n (by decide))
  have parts : n * twoPow 1074 =
      n / 1000000000 * twoPow 1074 * 1000000000 + n % 1000000000 * twoPow 1074 := by
    conv => lhs; rw [← Nat.div_add_mod' n 1000000000]
    rw [Nat.add_mul, Nat.mul_right_comm]
  rw [parts, sumUnits, Nat.add_mul]
  omega

/-- Even multiples that are less than six apart are at most four apart. -/
theorem even_multiples_near {m c unit : Nat} (close : 2 * m * unit < 2 * c * unit + 6 * unit) :
    2 * m * unit ≤ 2 * c * unit + 4 * unit := by
  have apart : 2 * m < 2 * c + 6 := by
    refine Nat.lt_of_mul_lt_mul_right (a := unit) ?_
    rwa [Nat.add_mul]
  rw [← Nat.add_mul]
  exact Nat.mul_le_mul_right unit (by omega)

/-- If a sum is a tenth of a whole number up to less than its last digit, then the tenfold of the
rounded sum is at most four units of that digit away from the whole number: both are even. -/
theorem ten_mul_rounded_near {sum count unit tiny : Nat} (fine : tiny + 3 ≤ Nat.log2 sum - 52)
    (coarse : Nat.log2 sum - 52 < unit)
    (low : count * twoPow unit ≤ 10 * sum + 5 * twoPow tiny)
    (high : 10 * sum ≤ count * twoPow unit + 5 * twoPow tiny) :
    10 * rounded sum 1 ≤ count * twoPow unit + 4 * twoPow (Nat.log2 sum - 52) ∧
      count * twoPow unit ≤ 10 * rounded sum 1 + 4 * twoPow (Nat.log2 sum - 52) := by
  have tinier := eight_mul_twoPow_le fine
  obtain ⟨sumLow, sumHigh⟩ := @Binary64.roundHalfEven_near sum (twoPow (Nat.log2 sum - 52))
    (twoPow_pos _)
  have positive := twoPow_pos (Nat.log2 sum - 52)
  have even : count * twoPow unit =
      2 * (count * twoPow (unit - 1 - (Nat.log2 sum - 52))) * twoPow (Nat.log2 sum - 52) := by
    rw [twoPow_eq_two_mul coarse]
    ring
  rw [Binary64.rounded_one]
  rw [even] at low high ⊢
  generalize Binary64.roundHalfEven sum (twoPow (Nat.log2 sum - 52)) = digits at *
  generalize twoPow (Nat.log2 sum - 52) = last at *
  generalize count * twoPow (unit - 1 - (Nat.log2 sum - 52)) = half at *
  have tenfold : 10 * (digits * last) = 2 * (5 * digits) * last := by ring
  rw [tenfold]
  have above := @even_multiples_near (5 * digits) half last (by omega)
  have below := @even_multiples_near half (5 * digits) last (by omega)
  exact ⟨above, below⟩

/-- If a sum is a tenth of a whole number up to less than its last digit, then the tenfold of the
rounded sum is rounded to the whole number, because the last digit of the tenfold is worth eight
times as much or more. -/
theorem rounded_ten_mul_rounded {sum count unit tiny : Nat}
    (fine : tiny + 3 ≤ Nat.log2 sum - 52) (limit : sum < twoPow (unit + 48))
    (low : count * twoPow unit ≤ 10 * sum + 5 * twoPow tiny)
    (high : 10 * sum ≤ count * twoPow unit + 5 * twoPow tiny) :
    rounded (10 * rounded sum 1) 1 = count * twoPow unit := by
  have nonzero : sum ≠ 0 := by
    rintro rfl
    rw [Nat.log2_zero] at fine
    omega
  have digits := log2_lt_of_lt_twoPow (by omega) limit
  obtain ⟨nearHigh, nearLow⟩ := ten_mul_rounded_near fine (by omega) low high
  have floor : twoPow (Nat.log2 sum) ≤ rounded sum 1 :=
    Binary64.le_units_roundHalfEven (by omega) (by rw [Nat.div_one]; exact Nat.log2_self_le nonzero)
  have ceiling : rounded sum 1 ≤ twoPow (unit + 48) :=
    Binary64.rounded_le_twoPow (by omega) (by rwa [Nat.div_one])
  generalize rounded sum 1 = seconds at *
  have large : Nat.log2 sum + 3 ≤ Nat.log2 (10 * seconds) := by
    have eighth : twoPow (Nat.log2 sum + 3) = 8 * twoPow (Nat.log2 sum) :=
      @twoPow_eq_mul 3 _ _ _ rfl (Nat.add_comm _ _)
    exact le_log2_of_twoPow_le (by omega)
  have small : Nat.log2 (10 * seconds) < unit + 52 := by
    have positive := twoPow_pos (unit + 48)
    have sixteen : twoPow (unit + 52) = twoPow (unit + 48) * 16 := twoPow_add (unit + 48) 4
    exact log2_lt_of_lt_twoPow (by omega) (by omega)
  have eight : 8 * twoPow (Nat.log2 sum - 52) ≤ twoPow (Nat.log2 (10 * seconds) - 52) :=
    eight_mul_twoPow_le (by omega)
  have multiple := @twoPow_eq_two_mul (Nat.log2 (10 * seconds) - 52) unit (by omega)
  have same : count * twoPow unit = 2 *
      (count * twoPow (unit - 1 - (Nat.log2 (10 * seconds) - 52))) *
        twoPow (Nat.log2 (10 * seconds) - 52) := by
    rw [multiple]
    ring
  rw [same] at nearHigh nearLow ⊢
  refine Binary64.rounded_one_eq_of_even (Nat.mul_mod_right 2 _) ?_ ?_ <;> omega

/-- An interval of whole tenths of a second has a window of as many seconds. -/
theorem windowUnits_tenths {t : Nat} (small : t < twoPow 37) :
    windowUnits (t * 100000000) = t * twoPow 1074 := by
  rcases Nat.lt_or_ge t 40 with short | long
  · exact windowUnits_short t short
  · have fits : t * 100000000 < twoPow 37 * 100000000 :=
      Nat.mul_lt_mul_of_pos_right small (by decide)
    have wide : sumUnits (t * 100000000) < twoPow (1074 + 48) :=
      Nat.lt_of_lt_of_le (sumUnits_lt fits) (twoPow_le_twoPow (by decide))
    have four : twoPow 2 ≤ t * 100000000 / 1000000000 := by
      have value : twoPow 2 = 4 := rfl
      omega
    have least : twoPow 2 * twoPow 1074 ≤ sumUnits (t * 100000000) :=
      Nat.le_trans (Nat.mul_le_mul_right _ four) (Nat.le_add_right _ _)
    rw [← twoPow_add] at least
    have fine := le_log2_of_twoPow_le least
    obtain ⟨low, high⟩ := sumUnits_near (t * 100000000)
    rw [Nat.mul_right_comm] at low high
    rw [windowUnits, secondsUnits]
    exact @rounded_ten_mul_rounded _ t 1074 1021 (by omega) wide (by omega) (by omega)

/-! ## Between tenths -/

/-- Rounding a sum and then its tenfold keeps below a limit that is nine units of the last digit
away: the sum is off by half a unit, which counts ten times, and the tenfold by four units. -/
theorem rounded_ten_mul_rounded_lt {sum limit bound : Nat} (wide : 56 ≤ bound)
    (fits : limit ≤ twoPow bound) (room : 10 * sum + 9 * twoPow (bound - 56) < limit) :
    rounded (10 * rounded sum 1) 1 < limit := by
  have eighth : twoPow bound = 8 * twoPow (bound - 3) := @twoPow_eq_mul 3 _ _ _ rfl (by omega)
  have digit : twoPow (bound - 53) = 8 * twoPow (bound - 56) :=
    @twoPow_eq_mul 3 _ _ _ rfl (by omega)
  have exponents : bound - 3 - 53 = bound - 56 := by omega
  have sumSmall : sum / 1 < twoPow (bound - 3) := by omega
  have sumNear := (Binary64.rounded_near Nat.one_pos (by omega) sumSmall).2
  rw [exponents] at sumNear
  have tenfoldSmall : 10 * rounded sum 1 / 1 < twoPow bound := by omega
  have tenfoldNear := (Binary64.rounded_near Nat.one_pos (by omega) tenfoldSmall).2
  omega

/-- The window does not reach the next second if the interval is far enough from the next tenth of
a second. An interval below `2^(26 + e)` tenths has to be `2^e` nanoseconds away, for that is what
the roundings can add. -/
theorem windowUnits_lt {e : Nat} (small : n < twoPow (26 + e) * 100000000)
    (room : n % 100000000 + twoPow e ≤ 100000000) :
    windowUnits n < (n / 100000000 + 1) * twoPow 1074 := by
  have fits : (n / 100000000 + 1) * twoPow 1074 ≤ twoPow (26 + e + 1074) := by
    rw [twoPow_add]
    exact Nat.mul_le_mul_right _ (Nat.div_lt_of_lt_mul (Nat.mul_comm _ _ ▸ small))
  have missing : n * twoPow 1074 + twoPow (e + 1074) ≤
      100000000 * ((n / 100000000 + 1) * twoPow 1074) := by
    rw [twoPow_add, ← Nat.add_mul, ← Nat.mul_assoc]
    exact Nat.mul_le_mul_right _ (by omega)
  have nanosecond : twoPow (e + 1074) = 9007199254740992 * twoPow (1021 + e) :=
    @twoPow_eq_mul 53 _ _ _ rfl (by omega)
  have lastDigit : twoPow (26 + e + 1074 - 56) = 8388608 * twoPow (1021 + e) :=
    @twoPow_eq_mul 23 _ _ _ rfl (by omega)
  have finer : twoPow 1021 ≤ twoPow (1021 + e) := twoPow_le_twoPow (Nat.le_add_right _ _)
  have positive := twoPow_pos (1021 + e)
  have near := (sumUnits_near n).2
  rw [windowUnits, secondsUnits]
  exact rounded_ten_mul_rounded_lt (by omega) fits (by omega)

/-- The window lies between those of the tenths of a second around it, so it is not too narrow, and
too wide by a second at most. -/
theorem window_near (small : n < twoPow 63) :
    n / 100000000 ≤ windowUnits n / twoPow 1074 ∧
      windowUnits n / twoPow 1074 ≤ n / 100000000 + 1 := by
  have limit : n < 100000000 * (twoPow 37 - 1) := Nat.lt_trans small (by decide)
  have below := Nat.div_lt_of_lt_mul limit
  have before := windowUnits_le_windowUnits (Nat.div_mul_le_self n 100000000)
  have after := @windowUnits_le_windowUnits n ((n / 100000000 + 1) * 100000000) (by omega)
  rw [windowUnits_tenths (by omega)] at before after
  constructor
  · exact (Nat.le_div_iff_mul_le (twoPow_pos 1074)).2 before
  · exact Nat.div_le_of_le_mul (Nat.mul_comm _ _ ▸ after)

/-- The window is exact if the interval is far enough from the next tenth of a second. -/
theorem window_exact {e : Nat} (small : n < twoPow 63) (short : n < twoPow (26 + e) * 100000000)
    (room : n % 100000000 + twoPow e ≤ 100000000) :
    windowUnits n / twoPow 1074 = n / 100000000 := by
  have near := (window_near small).1
  have below := Nat.div_lt_of_lt_mul (Nat.mul_comm _ _ ▸ windowUnits_lt short room)
  omega

end

/-! ## Clients -/

/-- Ten intervals in seconds, without the fraction. -/
def tenIntervals (interval : Interval) : Int :=
  (windowIntervals * interval.nanoseconds / 1000000000 : Nat)

/-- The client of an accepted interval, if both keys are there. -/
theorem exists_make_of_read {text : String} {interval : Interval} {settings : Settings}
    {credentials : Credentials} {apiKey applicationKey : String}
    (read : Interval.read text = .ok interval)
    (hasApiKey : credentials.text? apiKeyName = some apiKey)
    (hasApplicationKey : credentials.text? applicationKeyName = some applicationKey) :
    ∃ client, Client.make text settings credentials = .ok client ∧
      client.window = interval.lookbackSeconds windowIntervals := by
  have made : Client.make text settings credentials =
      .ok (Client.ofKeys interval settings apiKey applicationKey) :=
    Client.make_eq_ok_iff.2 ⟨_, _, _, read, hasApiKey, hasApplicationKey, rfl⟩
  refine ⟨_, made, ?_⟩
  dsimp only [Client.ofKeys]

/-- Every accepted interval gives a client whose window is ten intervals or a second more. It is
exactly ten intervals if `2^e` nanoseconds are missing to the next tenth of a second and the
interval is shorter than `2^(26 + e)` tenths; so it is exact for whole tenths, and for every
interval below `2^26` tenths, which is 77 days. -/
theorem window_of_accepted {text : String} {interval : Interval} {settings : Settings}
    {credentials : Credentials} {apiKey applicationKey : String}
    (read : Interval.read text = .ok interval)
    (hasApiKey : credentials.text? apiKeyName = some apiKey)
    (hasApplicationKey : credentials.text? applicationKeyName = some applicationKey) :
    ∃ client, Client.make text settings credentials = .ok client ∧
      (client.window = tenIntervals interval ∨ client.window = tenIntervals interval + 1) ∧
      ∀ e, interval.nanoseconds < twoPow (26 + e) * 100000000 →
        interval.nanoseconds % 100000000 + twoPow e ≤ 100000000 →
          client.window = tenIntervals interval := by
  have tenths : tenIntervals interval = (interval.nanoseconds / 100000000 : Nat) := by
    rw [tenIntervals, windowIntervals]
    omega
  obtain ⟨client, made, window⟩ := exists_make_of_read read hasApiKey hasApplicationKey
  rw [lookbackSeconds_eq] at window
  refine ⟨client, made, ?_, ?_⟩
  · have near := window_near interval.bounded
    rw [window, tenths]
    omega
  · intro e short room
    rw [window, tenths, window_exact interval.bounded short room]

/-- A nanosecond before `2^26` tenths of a second, the window is exact. -/
theorem window_of_accepted_long :
    ∃ interval client,
      Interval.read "6710886.399999999s" = .ok interval ∧
        Client.make "6710886.399999999s" ⟨"datadog", ""⟩
          [("datadog_api_key", [0x61]), ("datadog_application_key", [0x62])] = .ok client ∧
        client.window = 67108863 := by
  have read : Interval.read "6710886.399999999s" =
      .ok ⟨"6710886.399999999s", 6710886399999999, by decide⟩ := by decide +kernel
  obtain ⟨client, made, _, exact⟩ := @window_of_accepted _ _ ⟨"datadog", ""⟩
    [("datadog_api_key", [0x61]), ("datadog_application_key", [0x62])] "a" "b" read
    (by decide +kernel) (by decide +kernel)
  exact ⟨_, client, read, made, exact 0 (by decide) (by decide)⟩

/-- A nanosecond before `2^26 + 3` tenths of a second, the window is a second too wide. -/
theorem window_exceeds_ten_intervals :
    ∃ interval client,
      Interval.read "6710886.699999999s" = .ok interval ∧
        Client.make "6710886.699999999s" ⟨"datadog", ""⟩
          [("datadog_api_key", [0x61]), ("datadog_application_key", [0x62])] = .ok client ∧
        client.window ≠ tenIntervals interval := by
  have read : Interval.read "6710886.699999999s" =
      .ok ⟨"6710886.699999999s", 6710886699999999, by decide⟩ := by decide +kernel
  have made : Client.make "6710886.699999999s" ⟨"datadog", ""⟩
      [("datadog_api_key", [0x61]), ("datadog_application_key", [0x62])] =
      .ok ⟨"https://api.datadoghq.com/api/v1/query", "https://api.datadoghq.com/api/v1/validate",
        "a", "b", 67108867⟩ := by
    decide +kernel
  exact ⟨_, _, read, made, by decide⟩

end MetricProbe.Datadog

import MetricProbe.Proofs.Interval.Reading

/-!
# Digits that are left out of a fraction

Of the fraction of a component eighteen digits are taken into account. For units up to a second this
is the same as taking all of them: a power of ten is a multiple of the unit, so the product of what
is taken is a whole unit away from the next nanosecond at least, and what is left out is less.
Minutes and hours have a factor of three. There the digits that are left out can carry the product to
the next nanosecond, and the component comes out one nanosecond short, but never more.
-/

namespace MetricProbe.Interval

/-! ## Rounding down before the last digits -/

section

variable {first last power unit parts : Nat}

/-- What the last digits of a number add to its rounded product: the remainder of the first digits
is worth a power more than the last ones. -/
theorem append_mul_div (positive : 0 < power) (first last unit parts : Nat) :
    (first * power + last) * unit / (parts * power) =
      first * unit / parts + (first * unit % parts * power + last * unit) / (parts * power) := by
  rcases Nat.eq_zero_or_pos parts with rfl | some
  · simp
  have whole : (first * power + last) * unit =
      first * unit % parts * power + last * unit + parts * power * (first * unit / parts) := by
    calc (first * power + last) * unit
      _ = first * unit * power + last * unit := by ring
      _ = (parts * (first * unit / parts) + first * unit % parts) * power + last * unit := by
          rw [Nat.div_add_mod]
      _ = first * unit % parts * power + last * unit + parts * power * (first * unit / parts) := by
          ring
  rw [whole, Nat.add_mul_div_left _ _ (Nat.mul_pos some positive), Nat.add_comm]

/-- The last digits add one at most, if the unit has no more parts than are counted. -/
theorem carry_lt_two (small : last < power) (fine : unit ≤ parts) (some : 0 < parts) :
    (first * unit % parts * power + last * unit) / (parts * power) < 2 := by
  have remainder : (first * unit % parts + 1) * power ≤ parts * power :=
    Nat.mul_le_mul_right power (Nat.mod_lt _ some)
  have rest : last * unit ≤ power * parts := Nat.mul_le_mul small.le fine
  refine Nat.div_lt_of_lt_mul ?_
  rw [Nat.add_mul, Nat.one_mul] at remainder
  rw [Nat.mul_comm power parts] at rest
  omega

/-- The last digits add nothing, if the unit divides the number of parts: the remainder of the first
digits is a multiple of the unit. -/
theorem carry_eq_zero (small : last < power) (divides : unit ∣ parts) (some : 0 < parts) :
    (first * unit % parts * power + last * unit) / (parts * power) = 0 := by
  obtain ⟨count, rfl⟩ := divides
  have positive : 0 < unit := Nat.pos_of_mul_pos_right some
  have counted : 0 < count := Nat.pos_of_mul_pos_left some
  have multiple : first * unit % (unit * count) = unit * (first % count) := by
    rw [Nat.mul_comm first unit, Nat.mul_mod_mul_left]
  have remainder : (first % count + 1) * (unit * power) ≤ count * (unit * power) :=
    Nat.mul_le_mul_right _ (Nat.mod_lt _ counted)
  have rest : last * unit < power * unit := Nat.mul_lt_mul_of_pos_right small positive
  refine Nat.div_eq_of_lt ?_
  rw [multiple]
  calc unit * (first % count) * power + last * unit
    _ < unit * (first % count) * power + power * unit := Nat.add_lt_add_left rest _
    _ = (first % count + 1) * (unit * power) := by ring
    _ ≤ count * (unit * power) := remainder
    _ = unit * count * power := by ring

end

/-! ## Components -/

/-- The number of digits that follow others is their value behind as many zeros. -/
theorem placeValue_append (first last : List Char) :
    placeValue (first ++ last) = placeValue first * 10 ^ last.length + placeValue last := by
  rw [placeValue, List.reverse_append, List.map_append, Nat.ofDigits_append, List.length_map,
    List.length_reverse, Nat.mul_comm, Nat.add_comm]
  rfl

/-- A long fraction has eighteen digits and more. -/
theorem ten_pow_length {length : Nat} (long : 18 ≤ length) :
    10 ^ length = 10 ^ 18 * 10 ^ (length - 18) := by
  rw [← Nat.pow_add, Nat.add_sub_cancel' long]

namespace Component

variable (component : Component)

/-- The length of a component in nanoseconds, rounded down from all digits of its fraction. -/
def exactNanoseconds : Nat :=
  (placeValue component.whole * 10 ^ component.fraction.length + placeValue component.fraction) *
    component.scale / 10 ^ component.fraction.length

/-- Digits behind the eighteenth carry the fraction to the next nanosecond. -/
def Carries : Prop :=
  18 < component.fraction.length ∧
    10 ^ component.fraction.length ≤
      placeValue (component.fraction.take 18) * component.scale % 10 ^ 18 *
          10 ^ (component.fraction.length - 18) +
        placeValue (component.fraction.drop 18) * component.scale

instance : Decidable component.Carries := inferInstanceAs (Decidable (_ ∧ _))

/-- No unit has more nanoseconds than eighteen digits count. -/
theorem scale_le : component.scale ≤ 10 ^ 18 := by
  have table : ∀ entry ∈ unitNames, entry.2 ≤ 10 ^ 18 := by decide
  exact table _ component.named

/-- Eighteen digits count whole units, unless these are minutes or hours. -/
theorem scale_dvd (other : component.name ∉ [['m'], ['h']]) : component.scale ∣ 10 ^ 18 := by
  have table : ∀ entry ∈ unitNames, entry.1 ∉ [['m'], ['h']] → entry.2 ∣ 10 ^ 18 := by decide
  exact table _ component.named other

/-- The digits that are left out stand for less than a unit of the last one that counts. -/
theorem placeValue_drop_lt :
    placeValue (component.fraction.drop 18) < 10 ^ (component.fraction.length - 18) := by
  rw [← List.length_drop]
  exact placeValue_lt fun c inside => component.fraction_digits c (List.mem_of_mem_drop inside)

/-- The whole units are not rounded, so only the fraction is. -/
theorem exactNanoseconds_eq_add :
    component.exactNanoseconds = placeValue component.whole * component.scale +
      placeValue component.fraction * component.scale / 10 ^ component.fraction.length := by
  have positive : 0 < 10 ^ component.fraction.length := Nat.pow_pos (by decide)
  rw [exactNanoseconds, Nat.add_mul, Nat.mul_right_comm, Nat.add_comm,
    Nat.add_mul_div_right _ _ positive, Nat.add_comm]

/-- Up to eighteen digits all are taken into account. -/
theorem exactNanoseconds_of_short (short : component.fraction.length ≤ 18) :
    component.exactNanoseconds = component.nanoseconds := by
  rw [exactNanoseconds_eq_add, nanoseconds, List.take_of_length_le short, Nat.min_eq_left short]

/-- With more than eighteen digits, the exact length is what those that count come to, and what the
others carry. -/
theorem exactNanoseconds_of_long (long : 18 < component.fraction.length) :
    component.exactNanoseconds = component.nanoseconds +
      (placeValue (component.fraction.take 18) * component.scale % 10 ^ 18 *
            10 ^ (component.fraction.length - 18) +
          placeValue (component.fraction.drop 18) * component.scale) /
        (10 ^ 18 * 10 ^ (component.fraction.length - 18)) := by
  have digits : placeValue component.fraction =
      placeValue (component.fraction.take 18) * 10 ^ (component.fraction.length - 18) +
        placeValue (component.fraction.drop 18) := by
    rw [← List.length_drop, ← placeValue_append, List.take_append_drop]
  have positive : 0 < 10 ^ (component.fraction.length - 18) := Nat.pow_pos (by decide)
  rw [exactNanoseconds_eq_add, digits, ten_pow_length long.le, append_mul_div positive,
    nanoseconds, Nat.min_eq_right long.le, Nat.add_assoc]

/-- Digits that are left out make a difference of one nanosecond if they carry, and else none. -/
theorem exactNanoseconds_eq :
    component.exactNanoseconds = component.nanoseconds + if component.Carries then 1 else 0 := by
  rcases Nat.lt_or_ge 18 component.fraction.length with long | short
  · have few := @carry_lt_two (placeValue (component.fraction.take 18)) _ _ _ _
      component.placeValue_drop_lt component.scale_le (by decide)
    have positive : 0 < 10 ^ 18 * 10 ^ (component.fraction.length - 18) := by
      rw [← ten_pow_length long.le]
      exact Nat.pow_pos (by decide)
    rw [exactNanoseconds_of_long component long, Nat.add_left_cancel_iff]
    split
    next carries =>
      have reaches := carries.2
      rw [ten_pow_length long.le] at reaches
      have one := (Nat.one_le_div_iff positive).2 reaches
      omega
    next stays =>
      have below := not_and.1 stays long
      rw [ten_pow_length long.le] at below
      exact Nat.div_eq_of_lt (Nat.not_le.1 below)
  · have stays : ¬ component.Carries := fun carries => absurd carries.1 (Nat.not_lt.2 short)
    rw [exactNanoseconds_of_short component short, if_neg stays, Nat.add_zero]

/-- Where a power of ten is a multiple of the unit, no digits carry. -/
theorem not_carries_of_dvd (divides : component.scale ∣ 10 ^ 18) : ¬ component.Carries := by
  intro carries
  have long := carries.1
  have none := @carry_eq_zero (placeValue (component.fraction.take 18)) _ _ _ _
    component.placeValue_drop_lt divides (by decide)
  have exact := exactNanoseconds_eq component
  rw [exactNanoseconds_of_long component long, none, if_pos carries] at exact
  omega

end Component

/-! ## Texts -/

namespace Components

/-- The length of components together, each rounded down from all its digits. -/
def exactTotal (components : Components) : Nat :=
  (components.map Component.exactNanoseconds).sum

/-- All components together are as many nanoseconds short as there are components that carry. -/
theorem exactTotal_eq (components : Components) :
    components.exactTotal = components.total + components.countP (·.Carries) := by
  induction components with
  | nil => rfl
  | cons component components inductionHypothesis =>
      rw [exactTotal, List.map_cons, List.sum_cons, ← exactTotal, inductionHypothesis, total_cons,
        component.exactNanoseconds_eq, List.countP_cons]
      simp only [decide_eq_true_eq]
      omega

/-- The length of components is that of the first and of the last ones. -/
theorem total_append (before after : Components) :
    Components.total (before ++ after) = before.total + after.total := by
  rw [total, List.map_append, List.sum_append, ← total, ← total]

/-- Nothing follows the last component. -/
theorem ends_written_nil (components : Components) : Ends components.written := by
  have ends := @Components.ends_written components [] fun c first => nomatch first
  rwa [List.append_nil] at ends

end Components

/-- Components that are added up one after the other come to their total. -/
theorem eq_of_sumComponents_written {components : Components} {sum n : Nat}
    (added : sumComponents sum components.written = .ok n) : n = sum + components.total := by
  induction components generalizing sum with
  | nil =>
      rw [Components.written_nil, sumComponents] at added
      cases added
      rfl
  | cons component components inductionHypothesis =>
      have ends := Components.ends_written_nil components
      have nonempty : component.written ++ Components.written components ≠ [] :=
        List.append_ne_nil_of_left_ne_nil component.written_ne_nil _
      rw [Components.written_cons, sumComponents_of_ne_nil sum nonempty,
        addComponent_component sum component ends, cut_component component ends] at added
      split at added
      next => rw [Components.total_cons, ← Nat.add_assoc, inductionHypothesis added]
      next => cases added

/-- A text that is read has the length of its components, which fits. -/
theorem eq_total_of_readNanoseconds {text : List Char} {negative : Bool} {components : Components}
    {n : Nat} (signed : Signed text negative components.written)
    (accepted : readNanoseconds text = .ok n) : n = components.total ∧ n ≤ 2 ^ 63 - 1 := by
  have nonempty : components.written ≠ [] := by
    intro empty
    rw [empty] at signed
    rw [readNanoseconds, cutSign_of_signed signed] at accepted
    cases accepted
  rw [readNanoseconds_of_ne_nil signed components.written_ne_zero nonempty] at accepted
  cases summed : sumComponents 0 components.written with
  | error fault =>
      rw [summed] at accepted
      cases accepted
  | ok sum =>
      have total := eq_of_sumComponents_written summed
      rw [Nat.zero_add] at total
      rw [summed, Except.bind] at accepted
      split at accepted
      next => cases accepted
      next fits =>
        split at accepted
        next => cases accepted
        next =>
          cases accepted
          exact ⟨total, Nat.not_lt.1 fits⟩

/-- The reading of an accepted text adds to every component what its exact length comes to, or a
nanosecond less. It is a nanosecond less exactly if digits behind the eighteenth carry, which they
do for minutes and hours only; and the whole text is as many nanoseconds short as components are. -/
theorem readNanoseconds_near_exact {text : String} {negative : Bool} {components : Components}
    {n : Nat} (signed : Signed text.toList negative components.written)
    (accepted : readNanoseconds text.toList = .ok n) :
    (∀ before component after, components = before ++ component :: after →
      ∃ added,
        addComponent (Components.total before)
            (cut (component.written ++ Components.written after)) =
          .ok (Components.total before + added) ∧
        (component.exactNanoseconds = added ∨ component.exactNanoseconds = added + 1) ∧
        (component.exactNanoseconds = added + 1 ↔ component.Carries) ∧
        (component.fraction.length ≤ 18 ∨ component.name ∉ [['m'], ['h']] →
          component.exactNanoseconds = added)) ∧
      components.exactTotal = n + components.countP (·.Carries) := by
  obtain ⟨total, fits⟩ := eq_total_of_readNanoseconds signed accepted
  constructor
  · rintro before component after rfl
    refine ⟨component.nanoseconds, ?_, ?_, ?_, ?_⟩
    · have within : Components.total before + component.nanoseconds < 2 ^ 128 := by
        rw [Components.total_append, Components.total_cons] at total
        omega
      rw [addComponent_component _ component (Components.ends_written_nil after), if_pos within]
    · rw [component.exactNanoseconds_eq]
      split
      next => exact .inr rfl
      next => exact .inl rfl
    · rw [component.exactNanoseconds_eq]
      split
      next carries => exact iff_of_true rfl carries
      next stays => exact iff_of_false (Nat.ne_of_lt (Nat.lt_succ_self _)) stays
    · rintro (short | divides)
      · exact component.exactNanoseconds_of_short short
      · have stays := component.not_carries_of_dvd (component.scale_dvd divides)
        rw [component.exactNanoseconds_eq, if_neg stays, Nat.add_zero]
  · rw [total, Components.exactTotal_eq]

/-- A little more than a sixth of a minute, written with twenty digits. -/
def overSixthOfMinute : Component where
  whole := "0".toList
  fraction? := some "16666666666666666667".toList
  wholeDigits := List.all_eq_true.1 (by decide)
  pointDigits := by
    rintro _ ⟨⟩
    exact List.all_eq_true.1 (by decide)
  someDigit := by decide
  name := "m".toList
  scale := 60000000000
  named := by decide

/-- A whole hour. -/
def hour : Component where
  whole := "1".toList
  fraction? := none
  wholeDigits := List.all_eq_true.1 (by decide)
  pointDigits := nofun
  someDigit := by decide
  name := "h".toList
  scale := 3600000000000
  named := by decide

/-- An hour and more than a sixth of a minute are read as a nanosecond less than the sum of both. -/
theorem readNanoseconds_near_exact_sixth :
    Signed "1h0.16666666666666666667m".toList false
        (Components.written [hour, overSixthOfMinute]) ∧
      readNanoseconds "1h0.16666666666666666667m".toList = .ok 3609999999999 ∧
      Components.exactTotal [hour, overSixthOfMinute] = 3610000000000 := by
  have signed : Signed "1h0.16666666666666666667m".toList false
      (Components.written [hour, overSixthOfMinute]) := by
    apply Signed.bare
    rintro _ ⟨⟩
    decide
  have accepted : readNanoseconds "1h0.16666666666666666667m".toList = .ok 3609999999999 := by
    decide +kernel
  exact ⟨signed, accepted, (readNanoseconds_near_exact signed accepted).2⟩

/-- More than a sixth of a minute is ten seconds or more, but a nanosecond less is read. -/
theorem readNanoseconds_drops_nanosecond :
    Signed "0.16666666666666666667m".toList false (Components.written [overSixthOfMinute]) ∧
      readNanoseconds "0.16666666666666666667m".toList = .ok 9999999999 ∧
      addComponent 0 (cut overSixthOfMinute.written) = .ok 9999999999 ∧
      overSixthOfMinute.exactNanoseconds = 10000000000 := by
  refine ⟨.bare ?_, by decide +kernel, by decide +kernel, by decide +kernel⟩
  rintro _ ⟨⟩
  decide

end MetricProbe.Interval

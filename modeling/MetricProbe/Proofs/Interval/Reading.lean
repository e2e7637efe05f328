import MetricProbe.Proofs.Interval.Component

/-!
# Reading intervals

A reading gives what the grammar says: the length that a text denotes, and else the fault for which
it is rejected. As for a single component, the cases of the grammar exclude each other and leave no
text out.
-/

namespace MetricProbe.Interval

/-! ## Sums -/

/-- A component is not without characters; it has a digit and a unit. -/
theorem Component.two_le_length (component : Component) : 2 ≤ component.written.length := by
  have name : 0 < component.name.length :=
    List.length_pos_iff.2 (unitNames_letters component.named).1
  have numeral : 0 < component.toNumeral.written.length := by
    rw [Numeral.written, List.length_append]
    rcases component.someDigit with whole | fraction
    · have := List.length_pos_iff.2 whole
      omega
    · cases present : component.fraction? with
      | none => simp [present] at fraction
      | some digits => simp
  rw [Component.written, List.length_append]
  omega

/-- A component is not empty. -/
theorem Component.written_ne_nil (component : Component) : component.written ≠ [] := by
  have := component.two_le_length
  intro empty
  rw [empty] at this
  contradiction

/-- A component begins with a digit or a point. -/
theorem Component.ends_written (component : Component) (rest : List Char) :
    Ends (component.written ++ rest) := by
  obtain ⟨⟨whole, fraction?, wholeDigits, pointDigits, someDigit⟩, name, scale, named⟩ := component
  intro c first
  cases whole with
  | cons digit whole =>
      cases first
      exact beginsNumber_of_isDigit (wholeDigits _ List.mem_cons_self)
  | nil =>
      cases fraction? with
      | none => simp at someDigit
      | some digits =>
          cases first
          decide

@[simp] theorem Components.written_nil : Components.written [] = [] := rfl

@[simp] theorem Components.written_cons (component : Component) (components : Components) :
    Components.written (component :: components) = component.written ++ components.written := rfl

@[simp] theorem Components.total_nil : Components.total [] = 0 := rfl

@[simp] theorem Components.total_cons (component : Component) (components : Components) :
    Components.total (component :: components) = component.nanoseconds + components.total := by
  simp [Components.total]

/-- Only no components at all have no characters. -/
theorem Components.written_eq_nil {components : Components} (empty : components.written = []) :
    components = [] := by
  cases components with
  | nil => rfl
  | cons component components =>
      rw [Components.written_cons, List.append_eq_nil_iff] at empty
      exact absurd empty.1 component.written_ne_nil

/-- Components are never the bare zero. -/
theorem Components.written_ne_zero (components : Components) : components.written ≠ ['0'] := by
  intro same
  cases components with
  | nil => cases same
  | cons component components =>
      have := component.two_le_length
      have length := congrArg List.length same
      rw [Components.written_cons, List.length_append, List.length_singleton] at length
      omega

/-- Before components a unit name ends, if it does before what follows them. -/
theorem Components.ends_written (components : Components) {rest : List Char} (ends : Ends rest) :
    Ends (components.written ++ rest) := by
  cases components with
  | nil => exact ends
  | cons component components =>
      rw [Components.written_cons, List.append_assoc]
      exact component.ends_written _

/-- The components of a text are read one after the other. -/
theorem sumComponents_of_ne_nil (sum : Nat) {text : List Char} (nonempty : text ≠ []) :
    sumComponents sum text =
      (addComponent sum (cut text)).bind fun next => sumComponents next (cut text).rest := by
  rw [sumComponents, if_neg (by simpa using nonempty)]
  split
  next fault failed => rw [failed]; rfl
  next next accepted => rw [accepted]; rfl

/-- Components whose sum fits are added, and the reading goes on behind them. -/
theorem sumComponents_written {components : Components} {sum : Nat} {rest : List Char}
    (ends : components ≠ [] → Ends rest) (within : sum + components.total < 2 ^ 128) :
    sumComponents sum (components.written ++ rest) =
      sumComponents (sum + components.total) rest := by
  induction components generalizing sum with
  | nil => rfl
  | cons component components inductionHypothesis =>
      have endsHere : Ends (Components.written components ++ rest) :=
        Components.ends_written components (ends (by simp))
      rw [Components.total_cons, ← Nat.add_assoc] at within ⊢
      have first : sum + component.nanoseconds < 2 ^ 128 := by omega
      have nonempty : component.written ++ (Components.written components ++ rest) ≠ [] :=
        List.append_ne_nil_of_left_ne_nil component.written_ne_nil _
      rw [Components.written_cons, List.append_assoc, sumComponents_of_ne_nil sum nonempty,
        addComponent_component sum component endsHere, if_pos first,
        cut_component component endsHere]
      exact inductionHypothesis (fun _ => ends (by simp)) within

/-- Every text consists of components, or breaks off behind some; their sum fits in both cases. -/
theorem components_or_breaks {sum : Nat} (text : List Char) (within : sum < 2 ^ 128) :
    (∃ components : Components, text = components.written ∧ sum + components.total < 2 ^ 128) ∨
      ∃ (components : Components) (rest : List Char) (fault : Fault),
        text = components.written ++ rest ∧ rest ≠ [] ∧ (components ≠ [] → Ends rest) ∧
          sum + components.total < 2 ^ 128 ∧ Breaks (sum + components.total) rest fault := by
  induction length : text.length using Nat.strong_induction_on generalizing sum text with
  | _ n inductionHypothesis =>
  subst length
  by_cases nonempty : text = []
  · exact .inl ⟨[], by simpa using nonempty, by simpa using within⟩
  rcases component_or_breaks sum text with ⟨component, after, rfl, ends, fits⟩ | ⟨fault, breaks⟩
  · have shorter : after.length < (component.written ++ after).length := by
      have positive := List.length_pos_iff.2 component.written_ne_nil
      rw [List.length_append]
      omega
    rcases inductionHypothesis _ shorter after fits rfl with
      ⟨components, rfl, fit⟩ | ⟨components, rest, fault, rfl, more, resumes, fit, breaks⟩
    · refine .inl ⟨component :: components, by simp, ?_⟩
      rwa [Components.total_cons, ← Nat.add_assoc]
    · refine .inr ⟨component :: components, rest, fault, by simp, more, fun _ => ?_, ?_, ?_⟩
      · by_cases last : components = []
        · subst last
          exact ends
        · exact resumes last
      · rwa [Components.total_cons, ← Nat.add_assoc]
      · rwa [Components.total_cons, ← Nat.add_assoc]
  · exact .inr ⟨[], text, fault, rfl, nonempty, fun some => absurd rfl some, by simpa using within,
      by simpa using breaks⟩

/-! ## Whole texts -/

/-- The sign that a text has is cut off. -/
theorem cutSign_of_signed {text body : List Char} {negative : Bool}
    (signed : Signed text negative body) : cutSign text = (negative, body) := by
  cases signed with
  | minus => rfl
  | plus => rfl
  | bare unsigned =>
      unfold cutSign
      split
      next => exact absurd rfl (unsigned _ rfl).1
      next => exact absurd rfl (unsigned _ rfl).2
      next => rfl

/-- Every text has a sign or none. -/
theorem exists_signed (text : List Char) : ∃ negative body, Signed text negative body := by
  by_cases minus : text.head? = some '-'
  · obtain ⟨body, rfl⟩ := List.head?_eq_some_iff.1 minus
    exact ⟨true, body, .minus body⟩
  by_cases plus : text.head? = some '+'
  · obtain ⟨body, rfl⟩ := List.head?_eq_some_iff.1 plus
    exact ⟨false, body, .plus body⟩
  refine ⟨false, text, .bare fun c first => ⟨?_, ?_⟩⟩
  · rintro rfl
    exact minus first
  · rintro rfl
    exact plus first

/-- The bare zero is read without a unit. -/
theorem readNanoseconds_zero {text : List Char} {negative : Bool}
    (signed : Signed text negative ['0']) : readNanoseconds text = .ok 0 := by
  simp [readNanoseconds, cutSign_of_signed signed]

/-- Behind the sign of a text that is not the bare zero, components are read. -/
theorem readNanoseconds_of_ne_nil {text body : List Char} {negative : Bool}
    (signed : Signed text negative body) (nonzero : body ≠ ['0']) (nonempty : body ≠ []) :
    readNanoseconds text =
      (sumComponents 0 body).bind fun sum =>
        if 2 ^ 63 - 1 < sum then .error .outOfRange
        else if negative = true ∧ sum ≠ 0 then .error .negative
        else .ok sum := by
  have bound (sum : Nat) : twoPow 63 ≤ sum ↔ 2 ^ 63 - 1 < sum := by
    rw [show twoPow 63 = 2 ^ 63 from rfl]
    omega
  simp only [readNanoseconds, cutSign_of_signed signed, nonzero, if_false, List.isEmpty_iff,
    nonempty, bound, Bool.and_eq_true, bne_iff_ne]
  cases sumComponents 0 body <;> rfl

/-- Components whose sum fits in 128 bits are added up before their sum is judged. -/
theorem readNanoseconds_written {text : List Char} {negative : Bool} {components : Components}
    (signed : Signed text negative components.written) (nonempty : components ≠ [])
    (within : components.total < 2 ^ 128) :
    readNanoseconds text =
      if 2 ^ 63 - 1 < components.total then .error .outOfRange
      else if negative = true ∧ components.total ≠ 0 then .error .negative
      else .ok components.total := by
  have sum : sumComponents 0 components.written = .ok components.total := by
    have := @sumComponents_written components 0 [] (fun _ c first => by cases first)
      (by simpa using within)
    rw [List.append_nil, Nat.zero_add] at this
    rw [this, sumComponents]
    rfl
  rw [readNanoseconds_of_ne_nil signed components.written_ne_zero
    (fun empty => nonempty (Components.written_eq_nil empty)), sum]
  rfl

/-- A length that a text denotes is read. -/
theorem readNanoseconds_of_denotes {text : List Char} {n : Nat} (denotes : Denotes text n) :
    readNanoseconds text = .ok n := by
  cases denotes with
  | zero signed => exact readNanoseconds_zero signed
  | @sum negative components signed nonempty bounded unsigned =>
      have within : components.total < 2 ^ 128 := by omega
      have positive : ¬(negative = true ∧ components.total ≠ 0) :=
        fun ⟨minus, nonzero⟩ => nonzero (unsigned minus)
      rw [readNanoseconds_written signed nonempty within, if_neg (Nat.not_lt.2 bounded),
        if_neg positive]

/-- The fault for which a text is rejected is found. -/
theorem readNanoseconds_of_rejected {text : List Char} {fault : Fault}
    (rejected : Rejected text fault) : readNanoseconds text = .error fault := by
  cases rejected with
  | @component negative components rest fault signed nonzero resumes within breaks =>
      by_cases nonempty : rest = []
      · have none : components = [] := by
          by_contra some
          exact (resumes some).1 nonempty
        subst none nonempty
        have malformed : addComponent 0 (cut []) = .error .malformed := rfl
        have same := addComponent_of_breaks breaks
        rw [Components.total_nil, malformed] at same
        cases same
        simp [readNanoseconds, cutSign_of_signed signed]
      · have body : components.written ++ rest ≠ [] := by simp [nonempty]
        have failed : sumComponents components.total rest = .error fault := by
          rw [sumComponents_of_ne_nil _ nonempty, addComponent_of_breaks breaks]
          rfl
        rw [readNanoseconds_of_ne_nil signed nonzero body,
          sumComponents_written (fun some => (resumes some).2) (by rwa [Nat.zero_add]),
          Nat.zero_add, failed]
        rfl
  | @range negative components signed within beyond =>
      have nonempty : components ≠ [] := by
        rintro rfl
        exact absurd beyond (by decide)
      rw [readNanoseconds_written signed nonempty within, if_pos beyond]
  | @sign components signed bounded nonzero =>
      have nonempty : components ≠ [] := by
        rintro rfl
        exact nonzero rfl
      have within : components.total < 2 ^ 128 := by omega
      rw [readNanoseconds_written signed nonempty within, if_neg (Nat.not_lt.2 bounded),
        if_pos ⟨rfl, nonzero⟩]

/-- A text denotes a length or is rejected for a fault. -/
theorem denotes_or_rejected (text : List Char) :
    (∃ n, Denotes text n) ∨ ∃ fault, Rejected text fault := by
  obtain ⟨negative, body, signed⟩ := exists_signed text
  by_cases zero : body = ['0']
  · subst zero
    exact .inl ⟨0, .zero signed⟩
  rcases @components_or_breaks 0 body (by decide) with
    ⟨components, rfl, within⟩ | ⟨components, rest, fault, rfl, more, ends, within, breaks⟩
  all_goals rw [Nat.zero_add] at within
  · by_cases none : components = []
    · subst none
      have unnumbered (numeral : Numeral) (after : List Char) : [] ≠ numeral.written ++ after := by
        intro empty
        have digits := cut_digits numeral after
        rw [← empty] at digits
        exact digits.elim (absurd rfl) (absurd rfl)
      have breaks : Breaks (Components.total []) [] .malformed := .noDigits unnumbered
      exact .inr ⟨.malformed, .component (by simpa using signed) (by simp) (absurd rfl) within
        breaks⟩
    by_cases bounded : components.total ≤ 2 ^ 63 - 1
    · by_cases unsigned : negative = true → components.total = 0
      · exact .inl ⟨_, .sum signed none bounded unsigned⟩
      · obtain ⟨minus, nonzero⟩ := Classical.not_imp.1 unsigned
        subst minus
        exact .inr ⟨.negative, .sign signed bounded nonzero⟩
    · exact .inr ⟨.outOfRange, .range signed within (Nat.not_le.1 bounded)⟩
  · rw [Nat.zero_add] at breaks
    exact .inr ⟨fault, .component signed zero (fun some => ⟨more, ends some⟩) within breaks⟩

/-- A text is read as a length exactly when it denotes that length, and it is refused with a fault
exactly when it is rejected for that fault. -/
theorem readNanoseconds_follows_grammar (text : String) :
    (∀ n, readNanoseconds text.toList = .ok n ↔ Denotes text.toList n) ∧
      ∀ fault, readNanoseconds text.toList = .error fault ↔ Rejected text.toList fault := by
  refine ⟨fun n => ⟨fun accepted => ?_, readNanoseconds_of_denotes⟩,
    fun fault => ⟨fun refused => ?_, readNanoseconds_of_rejected⟩⟩
  · rcases denotes_or_rejected text.toList with ⟨m, denotes⟩ | ⟨fault, rejected⟩
    · rw [readNanoseconds_of_denotes denotes] at accepted
      cases accepted
      exact denotes
    · rw [readNanoseconds_of_rejected rejected] at accepted
      cases accepted
  · rcases denotes_or_rejected text.toList with ⟨m, denotes⟩ | ⟨other, rejected⟩
    · rw [readNanoseconds_of_denotes denotes] at refused
      cases refused
    · rw [readNanoseconds_of_rejected rejected] at refused
      cases refused
      exact rejected

end MetricProbe.Interval

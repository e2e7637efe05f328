import MetricProbe.Proofs.Json.Values

/-!
# Slots

A record with a single field that may be left out is a slot: under the name of the field in an
object, or at the one place of an array. `Holds` says what is in the slot of a value as it is
written; a value with nothing inside has no slot.

A slot for a list is empty in three ways: nothing, null or an empty array. `Swapped` exchanges one
for another in place, and `Swapped.exists_holds` says that the list is empty before and after.
-/

namespace MetricProbe.Json

/-! ## Slots -/

/-- Whether letters mean the given name. -/
def Names (name : String) (letters : List Letter) : Bool :=
  meaning? letters == some name.toList

/-- A value has a slot of the given name with the given content, or an empty one. In an object every
key means a text and at most one of them is the name; an array has no more than one item. -/
inductive Holds (name : String) : Spelling → Option Spelling → Prop where
  | object {members : List (List Letter × Spelling)} {content : Option Spelling}
      (meant : ∀ member ∈ members, (meaning? member.1).isSome = true)
      (held : (members.filter (Names name ·.1)).map (·.2) = content.toList) :
      Holds name (.object members) content
  | array {items : List Spelling} {content : Option Spelling} (held : items = content.toList) :
      Holds name (.array items) content

/-- A content is determined by being the only one. -/
theorem eq_of_toList_eq {content other : Option Spelling} (same : content.toList = other.toList) :
    content = other := by
  cases content <;> cases other <;> simp_all

/-- A value with nothing inside: neither an object nor an array. -/
inductive Leaf : Spelling → Prop where
  | null : Leaf .null
  | boolean (value : Bool) : Leaf (.boolean value)
  | number (numeral : Numeral) : Leaf (.number numeral)
  | text (letters : List Letter) : Leaf (.text letters)

section

variable {name : String} {tree : Spelling} {content : Option Spelling}

/-- A value with nothing inside has no slot. -/
theorem Leaf.not_holds (leaf : Leaf tree) : ¬ Holds name tree content := by
  cases leaf <;> rintro ⟨⟩

/-- The slot of an array is the place of its only item. -/
theorem holds_array_iff {items : List Spelling} :
    Holds name (.array items) content ↔ items = content.toList := by
  constructor
  · intro holds
    cases holds with
    | array held => exact held
  · exact .array

/-- A slot has one content. -/
theorem Holds.unique {other : Option Spelling} (holds : Holds name tree content)
    (holdsOther : Holds name tree other) : content = other := by
  cases holds with
  | object _ held =>
      cases holdsOther with
      | object _ heldOther => exact eq_of_toList_eq (held.symm.trans heldOther)
  | array held => exact eq_of_toList_eq (held.symm.trans (holds_array_iff.1 holdsOther))

/-- A slot is filled alike from the only item of an array and from the only member of an object. -/
theorem holds_singleton_iff {key : List Letter} (named : Names name key = true) :
    Holds name (.array [tree]) content ↔ Holds name (.object [(key, tree)]) content := by
  rw [holds_array_iff]
  constructor
  · intro held
    refine .object ?_ ?_
    · rw [List.forall_mem_singleton, eq_of_beq named]
      rfl
    · simpa [named] using held
  · intro holds
    cases holds with
    | object _ held => simpa [named] using held

end

/-! ## Lists in slots -/

/-- The content of a slot as a list: nothing and null stand for the empty list, and an array for the
values that its items fit. -/
inductive MayList {α : Type} (fits : Spelling → α → Prop) : Option Spelling → List α → Prop where
  | missing : MayList fits none []
  | null : MayList fits (some .null) []
  | list {items : List Spelling} {values : List α} (fitting : List.Forall₂ fits items values) :
      MayList fits (some (.array items)) values

/-- What is in a slot is a list, or null for an empty one. -/
theorem mayList_some_iff {α : Type} {fits : Spelling → α → Prop} {tree : Spelling}
    {values : List α} : MayList fits (some tree) values ↔ ListOrNull fits tree values := by
  constructor
  · intro list
    cases list with
    | null => exact .null
    | list fitting => exact .list fitting
  · intro list
    cases list with
    | null => exact .null
    | list fitting => exact .list fitting

/-- Nothing, null or an empty array. -/
inductive Bare : Option Spelling → Prop where
  | missing : Bare none
  | null : Bare (some .null)
  | empty : Bare (some (.array []))

/-- What is bare is the empty list. -/
theorem Bare.mayList_iff {α : Type} {fits : Spelling → α → Prop} {content : Option Spelling}
    (bare : Bare content) {values : List α} : MayList fits content values ↔ values = [] := by
  constructor
  · intro list
    cases bare with
    | missing | null =>
        cases list
        rfl
    | empty =>
        cases list with
        | list fitting => exact List.forall₂_nil_left_iff.1 fitting
  · rintro rfl
    cases bare with
    | missing => exact .missing
    | null => exact .null
    | empty => exact .list .nil

/-- A member with the given name for what is in a slot, or none for nothing. -/
inductive Stands (name : String) : List (List Letter × Spelling) → Option Spelling → Prop where
  | missing : Stands name [] none
  | member {key : List Letter} {tree : Spelling} (named : Names name key = true) :
      Stands name [(key, tree)] (some tree)

/-- A missing, null or empty list is exchanged for another one, in its place in an object or an
array. A list is only missing where no other member has its name. -/
inductive Swapped (name : String) : Spelling → Spelling → Prop where
  | member {before after slot other : List (List Letter × Spelling)}
      {content otherContent : Option Spelling} (stands : Stands name slot content)
      (bare : Bare content) (standsOther : Stands name other otherContent)
      (bareOther : Bare otherContent)
      (alone : slot = [] ∨ other = [] →
        ∀ member ∈ before ++ after, Names name member.1 = false) :
      Swapped name (.object (before ++ (slot ++ after))) (.object (before ++ (other ++ after)))
  | item {content otherContent : Option Spelling} (bare : Bare content)
      (bareOther : Bare otherContent) :
      Swapped name (.array content.toList) (.array otherContent.toList)

/-- Exchanging lists may be undone. -/
theorem Swapped.symm {name : String} {tree other : Spelling} (swapped : Swapped name tree other) :
    Swapped name other tree := by
  cases swapped with
  | member stands bare standsOther bareOther alone =>
      exact .member standsOther bareOther stands bare fun missing => alone missing.symm
  | item bare bareOther => exact .item bareOther bare

/-- A member that stands for the content of a slot has a key that means a text. -/
theorem Stands.meant {name : String} {slot : List (List Letter × Spelling)}
    {content : Option Spelling} (stands : Stands name slot content) :
    ∀ member ∈ slot, (meaning? member.1).isSome = true := by
  cases stands with
  | missing => exact nofun
  | member named =>
      rw [List.forall_mem_singleton, eq_of_beq named]
      rfl

/-- What stands for the content of a slot is all that has its name. -/
theorem Stands.held {name : String} {slot : List (List Letter × Spelling)}
    {content : Option Spelling} (stands : Stands name slot content) :
    (slot.filter (Names name ·.1)).map (·.2) = content.toList := by
  cases stands with
  | missing => rfl
  | member named => simp [named]

/-- What has the name of a slot in an object is what stands for the content, and something else may
be put in its place. -/
theorem Holds.replaced {name : String} {before after slot other : List (List Letter × Spelling)}
    {content found replacement : Option Spelling} (stands : Stands name slot found)
    (standsOther : Stands name other replacement)
    (alone : slot = [] ∨ other = [] → ∀ member ∈ before ++ after, Names name member.1 = false)
    (holds : Holds name (.object (before ++ (slot ++ after))) content) :
    content = found ∧ Holds name (.object (before ++ (other ++ after))) replacement := by
  cases holds with
  | object meant held =>
      simp only [List.forall_mem_append] at meant
      simp only [List.filter_append, List.map_append, stands.held] at held
      have noOthers : (before.filter (Names name ·.1)).map (·.2) = [] ∧
          (after.filter (Names name ·.1)).map (·.2) = [] := by
        by_cases missing : slot = [] ∨ other = []
        · have others := alone missing
          simp only [List.forall_mem_append] at others
          simp only [List.map_eq_nil_iff, List.filter_eq_nil_iff, Bool.not_eq_true]
          exact others
        · cases stands with
          | missing => exact (missing (.inl rfl)).elim
          | member named =>
              have short := congrArg List.length held
              have single : content.toList.length ≤ 1 := by cases content <;> simp
              simp only [List.length_append, Option.toList_some, List.length_singleton] at short
              exact ⟨List.eq_nil_of_length_eq_zero (by omega),
                List.eq_nil_of_length_eq_zero (by omega)⟩
      refine ⟨?_, .object ?_ ?_⟩
      · rw [noOthers.1, noOthers.2, List.nil_append, List.append_nil] at held
        exact (eq_of_toList_eq held).symm
      · simp only [List.forall_mem_append]
        exact ⟨meant.1, standsOther.meant, meant.2.2⟩
      · simp only [List.filter_append, List.map_append, standsOther.held, noOthers,
          List.nil_append, List.append_nil]

/-- Where one empty list is in a slot and is exchanged for another, the other is in the slot. -/
theorem Swapped.exists_holds {name : String} {tree other : Spelling}
    (swapped : Swapped name tree other) {content : Option Spelling}
    (holds : Holds name tree content) :
    Bare content ∧ ∃ replacement, Bare replacement ∧ Holds name other replacement := by
  cases swapped with
  | member stands bare standsOther bareOther alone =>
      obtain ⟨rfl, replaced⟩ := holds.replaced stands standsOther alone
      exact ⟨bare, _, bareOther, replaced⟩
  | item bare bareOther =>
      cases holds with
      | array held =>
          obtain rfl := eq_of_toList_eq held
          exact ⟨bare, _, bareOther, .array rfl⟩

/-- Exchanging empty lists does not change what the list in the slot is. -/
theorem Swapped.exists_list_iff {name : String} {tree other : Spelling}
    (swapped : Swapped name tree other) {α : Type} {fits : Spelling → α → Prop} {values : List α} :
    (∃ content, Holds name tree content ∧ MayList fits content values) ↔
      ∃ content, Holds name other content ∧ MayList fits content values := by
  have onward : ∀ {tree other}, Swapped name tree other →
      (∃ content, Holds name tree content ∧ MayList fits content values) →
        ∃ content, Holds name other content ∧ MayList fits content values := by
    rintro tree other swapped ⟨content, holds, list⟩
    obtain ⟨bare, replacement, bareOther, replaced⟩ := swapped.exists_holds holds
    exact ⟨replacement, replaced, bareOther.mayList_iff.2 (bare.mayList_iff.1 list)⟩
  exact ⟨onward swapped, onward swapped.symm⟩

end MetricProbe.Json

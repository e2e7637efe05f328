import MetricProbe.Proofs.Json.Rows
import Mathlib.Data.List.Perm.Basic

/-!
# Rows written in other ways

An object stays the row that it is if its members change places, if a member is named in the other
spelling, if what a member holds is written in another way, and if members are added whose keys are
no spelling of a name. `Respelled` is one such change; `Respelled.row_iff` says that it makes no
difference to what is accepted. In an array only what the items are may be written in another way.

A member that is there twice, in whichever spellings, is `Doubled`, and what holds such a member
anywhere is no row.
-/

namespace MetricProbe.Json

/-! ## Changes -/

/-- A row is written in another way, at one place. What a member of a name holds may be written in
another way if `inside` says so. -/
inductive Respelled (namings : List Naming) (inside : Naming → Spelling → Spelling → Prop) :
    Spelling → Spelling → Prop where
  /-- The members change places. -/
  | reordered {members others : List (List Letter × Spelling)} (permuted : members.Perm others) :
      Respelled namings inside (.object members) (.object others)
  /-- A member is named in another spelling of its name. -/
  | renamed {before after : List (List Letter × Spelling)} {naming : Naming}
      {key other : List Letter} {tree : Spelling} (known : naming ∈ namings)
      (covered : naming.covers key = true) (coveredOther : naming.covers other = true) :
      Respelled namings inside (.object (before ++ (key, tree) :: after))
        (.object (before ++ (other, tree) :: after))
  /-- What a member holds is written in another way. -/
  | changed {before after : List (List Letter × Spelling)} {naming : Naming} {key : List Letter}
      {tree other : Spelling} (known : naming ∈ namings) (covered : naming.covers key = true)
      (inner : inside naming tree other) :
      Respelled namings inside (.object (before ++ (key, tree) :: after))
        (.object (before ++ (key, other) :: after))
  /-- A member is added whose key is no spelling of a name. -/
  | ignored {before after : List (List Letter × Spelling)} {key : List Letter} {tree : Spelling}
      (meant : (meaning? key).isSome = true)
      (unknown : ∀ naming ∈ namings, naming.covers key = false) :
      Respelled namings inside (.object (before ++ after))
        (.object (before ++ (key, tree) :: after))
  /-- An item that stands for a member is written in another way. -/
  | item {earlier later : List Spelling} {naming : Naming} {tree other : Spelling}
      (placed : namings[earlier.length]? = some naming) (inner : inside naming tree other) :
      Respelled namings inside (.array (earlier ++ tree :: later))
        (.array (earlier ++ other :: later))

/-- A member is there twice: in the row itself, or in what one of its members holds. -/
inductive Doubled (namings : List Naming) (inside : Naming → Spelling → Prop) :
    Spelling → Prop where
  | here {members : List (List Letter × Spelling)} {naming : Naming} (known : naming ∈ namings)
      (twice : 2 ≤ (naming.values members).length) : Doubled namings inside (.object members)
  | below {members : List (List Letter × Spelling)} {naming : Naming} {tree : Spelling}
      (known : naming ∈ namings) (held : tree ∈ naming.values members)
      (inner : inside naming tree) : Doubled namings inside (.object members)
  | item {earlier later : List Spelling} {naming : Naming} {tree : Spelling}
      (placed : namings[earlier.length]? = some naming) (inner : inside naming tree) :
      Doubled namings inside (.array (earlier ++ tree :: later))

/-- One item of an array is written in another way. -/
inductive InArray (changed : Spelling → Spelling → Prop) : Spelling → Spelling → Prop where
  | item {earlier later : List Spelling} {tree other : Spelling} (inner : changed tree other) :
      InArray changed (.array (earlier ++ tree :: later)) (.array (earlier ++ other :: later))

/-- Only objects and arrays are written in other ways. -/
theorem Respelled.ne_null {namings : List Naming} {inside : Naming → Spelling → Spelling → Prop}
    {tree other : Spelling} (respelled : Respelled namings inside tree other) :
    tree ≠ .null ∧ other ≠ .null := by
  cases respelled <;> exact ⟨nofun, nofun⟩

/-! ## Values of members -/

section

variable {naming : Naming} {key : List Letter} {tree : Spelling}
  {members before after : List (List Letter × Spelling)}

/-- The values of members that follow each other follow each other. -/
theorem Naming.values_append :
    naming.values (before ++ after) = naming.values before ++ naming.values after := by
  simp [values]

/-- Members that have changed places have the same values, in other places. -/
theorem Naming.values_perm {others : List (List Letter × Spelling)}
    (permuted : members.Perm others) : (naming.values members).Perm (naming.values others) :=
  (permuted.filter _).map _

/-- A key that is a spelling of a name means a text. -/
theorem Naming.isSome_meaning_of_covers (covered : naming.covers key = true) :
    (meaning? key).isSome = true := by
  obtain ⟨_, _, meant⟩ := covers_iff.1 covered
  rw [meant]
  rfl

instance : Std.Symm Naming.Apart where
  symm _ _ apart := apart.symm

/-- If names are apart, a key is a spelling of one of them only. -/
theorem Naming.eq_or_covers_eq_false {namings : List Naming} {other : Naming}
    (apart : namings.Pairwise Naming.Apart) (known : naming ∈ namings)
    (knownOther : other ∈ namings) (covered : naming.covers key = true) :
    other = naming ∨ other.covers key = false := by
  by_cases same : other = naming
  · exact .inl same
  · have different : naming ≠ other := fun equal => same equal.symm
    exact .inr ((apart.forall known knownOther different).covers_eq_false covered)

/-- A permutation of at most one value is that value. -/
theorem eq_toList_of_perm {values : List Spelling} {content : Option Spelling}
    (permuted : values.Perm content.toList) : values = content.toList := by
  cases content with
  | none => exact permuted.eq_nil
  | some tree => exact List.perm_singleton.1 permuted

end

/-! ## Rows -/

section

variable {slots : List Slot} {slot : Slot} {inside : Naming → Spelling → Spelling → Prop}
  {tree other : Spelling} {members others : List (List Letter × Spelling)}

/-- A slot holds the value of the one member with its name, or nothing if there is none. -/
def Slot.HoldsOf (slot : Slot) (values : List Spelling) : Prop :=
  ∃ content : Option Spelling, values = content.toList ∧ slot.accepts content

/-- An object is a row exactly if its keys mean texts and each slot holds the values of its name. -/
theorem row_object_iff : Row slots (.object members) ↔
    (∀ member ∈ members, (meaning? member.1).isSome = true) ∧
      ∀ slot ∈ slots, slot.HoldsOf (slot.values members) := by
  constructor
  · rintro ⟨meant, held⟩
    exact ⟨meant, held⟩
  · rintro ⟨meant, held⟩
    exact .object meant held

/-- Objects whose keys mean texts together, and whose slots hold their values together, are rows
together. -/
theorem row_object_congr
    (meant : (∀ member ∈ members, (meaning? member.1).isSome = true) ↔
      ∀ member ∈ others, (meaning? member.1).isSome = true)
    (held : ∀ slot ∈ slots, slot.HoldsOf (slot.values members) ↔
      slot.HoldsOf (slot.values others)) :
    Row slots (.object members) ↔ Row slots (.object others) := by
  rw [row_object_iff, row_object_iff, meant]
  exact and_congr_right fun _ => forall₂_congr held

/-- The places of values do not matter to a slot. -/
theorem Slot.HoldsOf.perm {values others : List Spelling} (held : slot.HoldsOf values)
    (permuted : values.Perm others) : slot.HoldsOf others := by
  obtain ⟨content, rfl, accepted⟩ := held
  exact ⟨content, eq_toList_of_perm permuted.symm, accepted⟩

/-- A slot that holds a value among others holds nothing else. -/
theorem Slot.holdsOf_append_iff {earlier later : List Spelling} :
    slot.HoldsOf (earlier ++ tree :: later) ↔
      earlier = [] ∧ later = [] ∧ slot.accepts (some tree) := by
  constructor
  · rintro ⟨_ | content, same, accepted⟩
    · simp at same
    · obtain ⟨rfl, rest⟩ | ⟨_, rfl, rest⟩ := List.append_eq_cons_iff.1 same
      · cases rest
        exact ⟨rfl, rfl, accepted⟩
      · simp at rest
  · rintro ⟨rfl, rfl, accepted⟩
    exact ⟨some tree, rfl, accepted⟩

/-- One content of the slots of an array may be exchanged for another one that the slot in its place
accepts as well. -/
theorem forall₂_exchange {earlier later : List Spelling} {missing : Nat}
    (same : ∀ slot, slots[earlier.length]? = some slot →
      (slot.accepts (some tree) ↔ slot.accepts (some other))) :
    List.Forall₂ (fun slot content => slot.accepts content) slots
        ((earlier ++ tree :: later).map some ++ List.replicate missing none) ↔
      List.Forall₂ (fun slot content => slot.accepts content) slots
        ((earlier ++ other :: later).map some ++ List.replicate missing none) := by
  induction earlier generalizing slots with
  | nil =>
      cases slots with
      | nil => simp
      | cons slot slots => simp [same slot rfl]
  | cons item earlier inductionHypothesis =>
      cases slots with
      | nil => simp
      | cons slot slots =>
          simp only [List.cons_append, List.map_cons, List.forall₂_cons]
          exact and_congr_right fun _ => inductionHypothesis same

/-- An array is a row exactly if its slots hold the items, and those at the end nothing. -/
theorem row_array_iff {items : List Spelling} : Row slots (.array items) ↔
    ∃ missing, List.Forall₂ (fun slot content => slot.accepts content) slots
      (items.map some ++ List.replicate missing none) := by
  constructor
  · intro row
    cases row with
    | array held => exact ⟨_, held⟩
  · rintro ⟨missing, held⟩
    exact .array held

/-- A row that is written in another way stays the row that it is, if its names are apart and each
slot accepts what is written in other ways together. -/
theorem Respelled.row_iff {namings : List Naming} (respelled : Respelled namings inside tree other)
    (names : slots.map (·.toNaming) = namings) (apart : namings.Pairwise Naming.Apart)
    (blind : ∀ slot ∈ slots, ∀ tree other, inside slot.toNaming tree other →
      (slot.accepts (some tree) ↔ slot.accepts (some other))) :
    Row slots tree ↔ Row slots other := by
  subst names
  have known : ∀ slot ∈ slots, slot.toNaming ∈ slots.map (·.toNaming) :=
    fun slot inside => List.mem_map_of_mem inside
  cases respelled with
  | reordered permuted =>
      refine row_object_congr (forall_congr' fun _ => by rw [permuted.mem_iff]) fun slot _ => ?_
      have values := @Naming.values_perm slot.toNaming _ _ permuted
      exact ⟨(·.perm values), (·.perm values.symm)⟩
  | @renamed before after naming key otherKey tree named covered coveredOther =>
      have meant := Naming.isSome_meaning_of_covers covered
      have meantOther := Naming.isSome_meaning_of_covers coveredOther
      refine row_object_congr ?_ fun slot inside => ?_
      · simp only [List.forall_mem_append, List.forall_mem_cons, meant, meantOther]
      -- Names are apart, so both keys belong to the slot of the name or both do not.
      have same : slot.covers key = slot.covers otherKey := by
        obtain rfl | uncovered :=
          Naming.eq_or_covers_eq_false apart named (known slot inside) covered
        · rw [covered, coveredOther]
        · obtain rfl | uncoveredOther :=
            Naming.eq_or_covers_eq_false apart named (known slot inside) coveredOther
          · rw [covered, coveredOther]
          · rw [uncovered, uncoveredOther]
      rw [Naming.values_append, Naming.values_append]
      cases covers : slot.covers key with
      | true =>
          rw [Naming.values_cons_of_covers covers,
            Naming.values_cons_of_covers (same.symm.trans covers)]
      | false =>
          rw [Naming.values_cons_of_not_covers covers,
            Naming.values_cons_of_not_covers (same.symm.trans covers)]
  | @changed before after naming key tree other named covered inner =>
      refine row_object_congr ?_ fun slot inside => ?_
      · simp only [List.forall_mem_append, List.forall_mem_cons]
      rw [Naming.values_append, Naming.values_append]
      obtain rfl | uncovered := Naming.eq_or_covers_eq_false apart named (known slot inside) covered
      · rw [Naming.values_cons_of_covers covered, Naming.values_cons_of_covers covered,
          Slot.holdsOf_append_iff, Slot.holdsOf_append_iff, blind slot inside _ _ inner]
      · rw [Naming.values_cons_of_not_covers uncovered, Naming.values_cons_of_not_covers uncovered]
  | @ignored before after key tree meant unknown =>
      refine row_object_congr ?_ fun slot inside => ?_
      · simp only [List.forall_mem_append, List.forall_mem_cons, meant, true_and]
      · rw [Naming.values_append, Naming.values_append,
          Naming.values_cons_of_not_covers (unknown _ (known slot inside))]
  | @item earlier later naming tree other placed inner =>
      rw [row_array_iff, row_array_iff]
      refine exists_congr fun missing => forall₂_exchange fun slot found => ?_
      rw [List.getElem?_map, found] at placed
      cases placed
      exact blind slot (List.mem_of_getElem? found) _ _ inner

/-- What holds a doubled member is no row. -/
theorem Doubled.not_row {namings : List Naming} {inside : Naming → Spelling → Prop}
    (doubled : Doubled namings inside tree) (names : slots.map (·.toNaming) = namings)
    (refuses : ∀ slot ∈ slots, ∀ tree, inside slot.toNaming tree → ¬ slot.accepts (some tree)) :
    ¬ Row slots tree := by
  subst names
  cases doubled with
  | here known twice =>
      rw [row_object_iff]
      rintro ⟨_, held⟩
      obtain ⟨slot, inside, rfl⟩ := List.mem_map.1 known
      obtain ⟨content, values, _⟩ := held slot inside
      rw [values] at twice
      cases content <;> simp at twice
  | below known found inner =>
      rw [row_object_iff]
      rintro ⟨_, held⟩
      obtain ⟨slot, inside, rfl⟩ := List.mem_map.1 known
      obtain ⟨content, values, accepted⟩ := held slot inside
      rw [values, Option.mem_toList] at found
      exact refuses slot inside _ inner (found ▸ accepted)
  | @item earlier later naming tree placed inner =>
      rw [row_array_iff]
      rintro ⟨missing, held⟩
      rw [List.getElem?_map, Option.map_eq_some_iff] at placed
      obtain ⟨slot, found, rfl⟩ := placed
      refine refuses slot (List.mem_of_getElem? found) _ inner ?_
      obtain ⟨short, rfl⟩ := List.getElem?_eq_some_iff.1 found
      rw [List.map_append, List.append_assoc] at held
      have behind := List.forall₂_drop_append _ _ _ held
      rw [List.length_map, List.drop_eq_getElem_cons short] at behind
      cases behind with
      | cons accepted _ => exact accepted

end

/-! ## Lists and optional values -/

section

variable {α : Type} {fits : Spelling → α → Prop} {tree other : Spelling}

/-- Values other than null that fit together also fit together where null may stand. -/
theorem orNull_congr {value : Option α}
    (filled : tree ≠ .null) (filledOther : other ≠ .null)
    (same : ∀ value, fits tree value ↔ fits other value) :
    OrNull fits tree value ↔ OrNull fits other value := by
  constructor
  · intro fit
    cases fit with
    | null => exact (filled rfl).elim
    | some _ inner => exact .some filledOther ((same _).1 inner)
  · intro fit
    cases fit with
    | null => exact (filledOther rfl).elim
    | some _ inner => exact .some filled ((same _).2 inner)

/-- Every item of a list that fits is what a value fits. -/
theorem exists_fitted {items : List Spelling} {values : List α}
    (fitting : List.Forall₂ fits items values) {item : Spelling} (inside : item ∈ items) :
    ∃ value, fits item value := by
  induction fitting with
  | nil => cases inside
  | cons fit _ inductionHypothesis =>
      rcases List.mem_cons.1 inside with rfl | later
      · exact ⟨_, fit⟩
      · exact inductionHypothesis later

/-- A list one of whose items is written in another way stays the list that it is. -/
theorem listOf_congr {values : List α}
    {changed : Spelling → Spelling → Prop} (same : ∀ tree other, changed tree other →
      ∀ value, fits tree value ↔ fits other value) (exchanged : InArray changed tree other) :
    ListOf fits tree values ↔ ListOf fits other values := by
  obtain @⟨earlier, later, item, otherItem, inner⟩ := exchanged
  have fitting := @fitting_congr _ _ earlier later _ _ (same _ _ inner) values
  constructor
  · rintro ⟨_, ⟨⟩, fits⟩
    exact ⟨_, rfl, fitting.1 fits⟩
  · rintro ⟨_, ⟨⟩, fits⟩
    exact ⟨_, rfl, fitting.2 fits⟩

end

end MetricProbe.Json
